import RemoteProvisioners.Tunnel

/-!
# Killing the kernel and cleaning up

`ContainerProvisioner.kill` asks the container manager to terminate the kernel's container when
the provisioner has a container name, and `terminate` is `kill`. `cleanup` awaits `kill()` and
then runs the base class's cleanup, which forgets the assigned IP, calls `terminate()` on every
tracked tunnel in the order they were tracked, and empties `tunnel_processes`.

Nothing there guards against a raise. A `terminate_container_resources` that raises ends
`cleanup` before any tunnel is touched (`cleanup_raises_before_tunnels`), and a tunnel whose
`terminate()` raises ends the loop with the map as it was. What does hold, whatever raises, is
`cleanup_releases_tunnels`: a `cleanup` that returns has terminated every tracked tunnel once, in
order, and emptied the map; one that raises has terminated a prefix of them and left the map as
it found it.

**Persistence.** `get_provisioner_info` persists `assigned_node_ip` and nothing else, and
`load_provisioner_info` reads it back; the container name is not persisted.
-/

set_option autoImplicit false

namespace RemoteProvisioners

section Teardown

variable (w : World)

/-- `ContainerProvisioner.kill(restart)`; its entry is recorded as a `kill` call. -/
def kill (restart : Bool) : Py Unit := do
  Py.emit (.kill restart)
  if (PyVal.ofOption (← Py.getSelf).containerName).truthy then
    let calls ← Py.history
    Py.emit (.terminateContainerResources restart)
    match w.terminateContainerFails calls with
    | some e => throw e
    | none => return ()

/-- `ContainerProvisioner.terminate(restart)`, which defers to `kill`. -/
def terminate (restart : Bool) : Py Unit := kill w restart

/-- `process.terminate()` on the tunnel child of a handle. -/
def terminateTunnelProcess (handle : Nat) : Py Unit := do
  let calls ← Py.history
  Py.emit (.terminateTunnel handle)
  match w.terminateFails calls handle with
  | some e => throw e
  | none => return ()

/-- The `for kernel_channel, process in self.tunnel_processes.items()` loop of `cleanup`. -/
def terminateTunnels : List (String × Nat) → Py Unit
  | [] => return ()
  | (_, handle) :: rest => do
      terminateTunnelProcess w handle
      terminateTunnels rest

/-- `RemoteProvisionerBase.cleanup`. -/
def baseCleanup : Py Unit := do
  Py.modifySelf fun self => { self with assignedIp := none }
  terminateTunnels w (← Py.getSelf).tunnelProcesses.entries
  Py.modifySelf fun self => { self with tunnelProcesses := .empty }

/-- `ContainerProvisioner.cleanup(restart)`: `await self.kill()`, then the base class's cleanup.
Neither reads `restart`. -/
def cleanup : Py Unit := do
  kill w false
  baseCleanup w

/-! ## Frames

A frame lemma says that a sequenced property (`Sequenced`) holds of a method once it holds of the
calls the method records and the fields it assigns. Each relation a run keeps is derived from it.
-/

section Frames

variable {Q : ∀ {α : Type}, Py α → Prop} (steps : Sequenced Q)
include steps

theorem kill_frame (entry : ∀ restart, Q (Py.emit (.kill restart)))
    (terminates : ∀ restart, Q (Py.emit (.terminateContainerResources restart)))
    (restart : Bool) : Q (kill w restart) := by
  refine steps.bind (entry restart) fun _ => steps.bind steps.getSelf fun _ => ?_
  split
  · refine steps.bind steps.history fun _ => steps.bind (terminates restart) fun _ => ?_
    split
    exacts [steps.throw _, steps.pure _]
  · exact steps.pure _

theorem terminateTunnelProcess_frame (terminates : ∀ handle, Q (Py.emit (.terminateTunnel handle)))
    (handle : Nat) : Q (terminateTunnelProcess w handle) := by
  refine steps.bind steps.history fun _ => steps.bind (terminates handle) fun _ => ?_
  split
  exacts [steps.throw _, steps.pure _]

theorem baseCleanup_frame (terminates : ∀ handle, Q (Py.emit (.terminateTunnel handle)))
    (forgetsIp : Q (Py.modifySelf fun self => { self with assignedIp := none }))
    (empties : Q (Py.modifySelf fun self => { self with tunnelProcesses := .empty })) :
    Q (baseCleanup w) := by
  have loop : ∀ entries, Q (terminateTunnels w entries) := by
    intro entries
    induction entries with
    | nil => exact steps.pure _
    | cons entry rest ih =>
        obtain ⟨_, handle⟩ := entry
        exact steps.bind (terminateTunnelProcess_frame w steps terminates handle) fun _ => ih
  exact steps.bind forgetsIp fun _ => steps.bind steps.getSelf fun _ =>
    steps.bind (loop _) fun _ => empties

theorem cleanup_frame (kills : Q (kill w false)) (cleans : Q (baseCleanup w)) : Q (cleanup w) :=
  steps.bind kills fun _ => cleans

end Frames

theorem kill_opensTunnels (restart : Bool) : Keeps OpensTunnels (kill w restart) :=
  kill_frame w OpensTunnels.composes.sequenced (fun _ => OpensTunnels.emit _ rfl)
    (fun _ => OpensTunnels.emit _ rfl) restart

/-! ## Kill -/

/-- `kill` leaves the object alone and touches no tunnel: it adds its entry, and the call on the
container manager when there is a container, which may raise. -/
theorem kill_spec (restart : Bool) (s : Sys) :
    ∃ new, terminatedTunnels new = [] ∧ spawnedTunnels new = [] ∧
      new.countP Call.isKill = 1 ∧
      (kill w restart s = .ok () (s.extend new) ∨
        ∃ e calls, w.terminateContainerFails calls = some e ∧
          kill w restart s = .error e (s.extend new)) := by
  simp only [kill, run_bind, run_emit, run_getSelf, run_history]
  split
  · rcases fails : w.terminateContainerFails (s.calls ++ [.kill restart]) with _ | e
    · exact ⟨[.kill restart, .terminateContainerResources restart], rfl, rfl, rfl,
        .inl (by simp [run_bind, fails, Sys.extend])⟩
    · exact ⟨[.kill restart, .terminateContainerResources restart], rfl, rfl, rfl,
        .inr ⟨e, _, fails, by simp [run_bind, fails, Sys.extend]⟩⟩
  · exact ⟨[.kill restart], rfl, rfl, rfl, .inl (by simp [Sys.extend])⟩

/-! ## The tunnel loop -/

theorem terminateTunnelProcess_eq (handle : Nat) (s : Sys) :
    terminateTunnelProcess w handle s =
      match w.terminateFails s.calls handle with
      | some e => .error e (s.extend [.terminateTunnel handle])
      | none => .ok () (s.extend [.terminateTunnel handle]) := by
  simp only [terminateTunnelProcess, run_bind, run_history, run_emit]
  rcases w.terminateFails s.calls handle with _ | e <;> rfl

theorem terminatedTunnels_map_terminateTunnel (handles : List Nat) :
    terminatedTunnels (handles.map .terminateTunnel) = handles := by
  induction handles with
  | nil => rfl
  | cons handle rest ih => simpa [terminatedTunnels, Call.terminated] using ih

/-- The loop terminates the tunnels in order, up to the first whose `terminate()` raises. -/
theorem terminateTunnels_spec (entries : List (String × Nat)) (s : Sys) :
    ∃ done, done <+: entries.map Prod.snd ∧
      (terminateTunnels w entries s = .ok () (s.extend (done.map .terminateTunnel)) ∧
          done = entries.map Prod.snd ∨
        ∃ e, terminateTunnels w entries s = .error e (s.extend (done.map .terminateTunnel)) ∧
          ∃ handle ∈ done, ∃ calls, w.terminateFails calls handle = some e) := by
  induction entries generalizing s with
  | nil => exact ⟨[], List.nil_prefix, .inl ⟨by simp [terminateTunnels], rfl⟩⟩
  | cons entry rest ih =>
      obtain ⟨name, handle⟩ := entry
      rcases fails : w.terminateFails s.calls handle with _ | e
      · obtain ⟨done, initial, result⟩ := ih (s.extend [.terminateTunnel handle])
        refine ⟨handle :: done, List.prefix_cons_inj handle |>.2 initial, ?_⟩
        simp only [terminateTunnels, run_bind, terminateTunnelProcess_eq, fails,
          Sys.extend_extend] at result ⊢
        rcases result with ⟨loop, all⟩ | ⟨e, loop, raised⟩
        · exact .inl ⟨loop, by rw [all]; rfl⟩
        · obtain ⟨culprit, mem, calls, raises⟩ := raised
          exact .inr ⟨e, loop, culprit, List.mem_cons_of_mem _ mem, calls, raises⟩
      · refine ⟨[handle], by simp,
          .inr ⟨e, ?_, handle, List.mem_singleton_self _, _, fails⟩⟩
        simp [terminateTunnels, run_bind, terminateTunnelProcess_eq, fails]

/-! ## Cleanup -/

theorem baseCleanup_eq (s : Sys) :
    baseCleanup w s =
      match terminateTunnels w s.self.tunnelProcesses.entries
          { s with self := { s.self with assignedIp := none } } with
      | .ok () s' => .ok () { s' with self := { s'.self with tunnelProcesses := .empty } }
      | .error e s' => .error e s' := by
  simp only [baseCleanup, run_bind, run_modifySelf, run_getSelf]
  rcases terminateTunnels w _ _ with ⟨⟨⟩, s'⟩ | ⟨e, s'⟩ <;> rfl

/-- **Cleanup, whatever raises.** A `cleanup` that returns has called `terminate()` on every
tunnel tracked when it started, once each and in order, and left `tunnel_processes` empty. One
that raises, because `terminate_container_resources` or a tunnel's `terminate()` raised, has
terminated a prefix of the tracked tunnels and left `tunnel_processes` as it found it. -/
theorem cleanup_releases_tunnels (s : Sys) :
    (∃ s', cleanup w s = .ok () s' ∧
      terminatedTunnels s'.calls =
        terminatedTunnels s.calls ++ s.self.tunnelProcesses.entries.map Prod.snd ∧
      s'.self.tunnelProcesses.entries = []) ∨
    ∃ e s' done, cleanup w s = .error e s' ∧
      done <+: s.self.tunnelProcesses.entries.map Prod.snd ∧
      terminatedTunnels s'.calls = terminatedTunnels s.calls ++ done ∧
      s'.self.tunnelProcesses = s.self.tunnelProcesses ∧
      ((∃ calls, w.terminateContainerFails calls = some e) ∨
        ∃ handle ∈ done, ∃ calls, w.terminateFails calls handle = some e) := by
  obtain ⟨new, quiet, -, -, killed⟩ := kill_spec w false s
  rcases killed with killed | ⟨e, calls, raises, killed⟩
  · obtain ⟨done, initial, result⟩ := terminateTunnels_spec w
      (s.extend new).self.tunnelProcesses.entries
      { s.extend new with self := { (s.extend new).self with assignedIp := none } }
    have run : cleanup w s = baseCleanup w (s.extend new) := by
      simp only [cleanup, run_bind, killed]
    rw [run, baseCleanup_eq]
    rcases result with ⟨loop, all⟩ | ⟨e, loop, raised⟩
    · refine .inl ⟨_, by rw [loop], ?_, rfl⟩
      simp only [Sys.extend, terminatedTunnels_append, quiet, terminatedTunnels_map_terminateTunnel,
        all, List.append_nil]
    · refine .inr ⟨e, _, done, by rw [loop], initial, ?_, ?_, .inr raised⟩
      · simp only [Sys.extend, terminatedTunnels_append, quiet,
          terminatedTunnels_map_terminateTunnel, List.append_nil]
      · rfl
  · refine .inr ⟨e, s.extend new, [], by simp only [cleanup, run_bind, killed], List.nil_prefix,
      ?_, rfl, .inl ⟨calls, raises⟩⟩
    simp [Sys.extend, terminatedTunnels_append, quiet]

/-- A provisioner with a container and a tracked shell tunnel, at a container manager whose
`terminate_container_resources` raises: `cleanup` raises, no tunnel has been terminated, and the
shell tunnel is still tracked. -/
theorem cleanup_raises_before_tunnels :
    (match cleanup { World.calm with terminateContainerFails := fun _ => some (.runtimeError "") }
        ⟨{ Provisioner.fresh 0 0 .empty with
            containerName := some "kernel-1", tunnelProcesses := PyDict.empty.setItem "SHELL" 0 },
          []⟩ with
      | .ok () _ => none
      | .error _ s' => some (terminatedTunnels s'.calls, s'.self.tunnelProcesses.entries)) =
      some ([], [("SHELL", 0)]) := by
  decide

/-! ## Persisting across a restart -/

/-- `ContainerProvisioner.has_process`. -/
def hasProcess (self : Provisioner) : Bool := self.containerName.isSome

/-- `ContainerProvisioner.get_provisioner_info()`: the base class's empty dictionary, updated with
`assigned_node_ip`. -/
def getProvisionerInfo : Py (PyDict PyVal) := do
  let provisionerInfo : PyDict PyVal := PyDict.empty
  let assignedNodeIp := PyVal.ofOption (← Py.getSelf).assignedNodeIp
  return provisionerInfo.update (PyDict.empty.setItem "assigned_node_ip" assignedNodeIp)

/-- `ContainerProvisioner.load_provisioner_info(provisioner_info)`; the base class's loads
nothing. -/
def loadProvisionerInfo (provisionerInfo : PyDict PyVal) : Py Unit := do
  let assignedNodeIp ← Py.ofExcept (getItem provisionerInfo "assigned_node_ip")
  Py.modifySelf fun self => { self with assignedNodeIp := assignedNodeIp.toOption }

end Teardown

end RemoteProvisioners
