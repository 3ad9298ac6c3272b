import RemoteProvisioners.Confirm
import RemoteProvisioners.PreLaunch
import Mathlib.Logic.Relation

/-!
# The tunnels over a provisioner's life

The operations on one provisioner (`pre_launch`, `launch_kernel` with its confirmation loop,
`send_signal`, `kill`, `terminate`, `shutdown_requested`, `cleanup`) are coroutines, which the
event loop may interleave at their await points. Between two await points a coroutine runs
alone, so several operations running at once make a sequence of their await-free segments
(`Segment`), each run on the one object (`runSegment`, `runSegments`). The collaborators answer
from the whole trace, so a segment whose await lies inside a collaborator call (the status query,
the wait for the payload, the connect of the listener's socket, `terminate_container_resources`)
makes that call when it resumes; what it does before the await only opens a socket or records a
call. `connection_info` is a class attribute of the provisioner base class, one dictionary that
every provisioner updates in place, so a segment of another provisioner's `_update_connection`
may run between two of this one's (`Segment.otherUpdate`).

`TunnelsTracked` is what the trace says of `tunnel_processes`: each tracked handle was spawned
for the channel it is tracked under and is still running, no handle has been terminated twice,
and only spawned handles have been terminated. Every segment but two only opens tunnels
(`OpensTunnels`); the end of `shutdown_listener` and the base class's `cleanup` terminate what
they stop tracking (`TunnelStep`, `runSegment_tunnelStep`). When no tunnel's `terminate()` raises,
each step keeps the invariant (`TunnelsTracked.opens`, `TunnelsTracked.commTunnel`,
`TunnelsTracked.cleanupTail`), and a `cleanup` that returns has terminated every tunnel it found
tracked exactly once and left `tunnel_processes` empty (`TunnelsTracked.cleanup_terminates`).

An operation run to its end is a run of its own segments, stopping at the one that raises
(`runOperation_segmentRun`), so a sequence of whole operations is one more run of segments
(`runOperations_segmentRun`). **The invariant holds over every run**, of segments or of whole
operations, from a newly constructed provisioner (`runSegments_tracksTunnels`).

Nothing makes a running tunnel stay tracked. `pre_launch` resets `tunnel_processes` without
terminating what it held, so a launch, a second `pre_launch` and a `cleanup` leave the launch's
five tunnels running and untracked (`preLaunch_forgets_tunnels`); the same `pre_launch` keeps
the container name the earlier launch was given (`preLaunch_keeps_container_name`).
-/

set_option autoImplicit false

namespace RemoteProvisioners

/-! ## The invariant -/

/-- What the trace says of `tunnel_processes`. -/
structure TunnelsTracked (s : Sys) : Prop where
  /-- A tracked handle was spawned for the channel it is tracked under and is still running. -/
  tracked : ∀ name handle, s.self.tunnelProcesses.get name = some handle →
    ((spawnedTunnels s.calls)[handle]?).map Prod.fst = some name ∧
      handle ∉ terminatedTunnels s.calls
  /-- No tunnel has been terminated twice. -/
  terminated_nodup : (terminatedTunnels s.calls).Nodup
  /-- Only spawned tunnels have been terminated. -/
  terminated_spawned : ∀ handle ∈ terminatedTunnels s.calls,
    handle < (spawnedTunnels s.calls).length

theorem spawnedTunnels_map_terminateTunnel (handles : List Nat) :
    spawnedTunnels (handles.map .terminateTunnel) = [] := by
  simp [spawnedTunnels, List.filterMap_map, Function.comp_def, Call.spawned]

namespace TunnelsTracked

variable {s : Sys}

theorem fresh (lowerPort upperPort : Int) (connectionInfo : Payload) :
    TunnelsTracked ⟨Provisioner.fresh lowerPort upperPort connectionInfo, []⟩ :=
  ⟨fun _ _ tracked => by simp [Provisioner.fresh] at tracked, List.nodup_nil,
    fun _ mem => by simp [terminatedTunnels] at mem⟩

theorem handle_spawned (inv : TunnelsTracked s) {name : String} {handle : Nat}
    (tracked : s.self.tunnelProcesses.get name = some handle) :
    handle < (spawnedTunnels s.calls).length := by
  by_contra outside
  have channel := (inv.tracked name handle tracked).1
  rw [List.getElem?_eq_none (by omega)] at channel
  cases channel

/-- Two channels do not share a tunnel: a handle's spawn names one channel. -/
theorem handle_channel (inv : TunnelsTracked s) {name other : String} {handle : Nat}
    (first : s.self.tunnelProcesses.get name = some handle)
    (second : s.self.tunnelProcesses.get other = some handle) : name = other := by
  have channel := (inv.tracked name handle first).1
  rw [(inv.tracked other handle second).1] at channel
  exact (Option.some.inj channel).symm

theorem tracked_handles_nodup (inv : TunnelsTracked s) :
    (s.self.tunnelProcesses.entries.map Prod.snd).Nodup := by
  refine List.Nodup.map_on ?_ (s.self.tunnelProcesses.keys_nodup.of_map Prod.fst)
  rintro ⟨name, handle⟩ first ⟨other, handle'⟩ second (same : handle = handle')
  subst same
  rw [inv.handle_channel (PyDict.get_of_mem first) (PyDict.get_of_mem second)]

theorem tracked_of_mem_handles {handle : Nat}
    (mem : handle ∈ s.self.tunnelProcesses.entries.map Prod.snd) :
    ∃ name, s.self.tunnelProcesses.get name = some handle := by
  obtain ⟨⟨name, _⟩, entry, rfl⟩ := List.mem_map.1 mem
  exact ⟨name, PyDict.get_of_mem entry⟩

/-- **A step that only opens tunnels keeps the invariant.** -/
theorem opens {s' : Sys} (inv : TunnelsTracked s) (step : OpensTunnels s s') :
    TunnelsTracked s' := by
  obtain ⟨⟨new, calls, quiet⟩, fresh⟩ := step
  have terminated : terminatedTunnels s'.calls = terminatedTunnels s.calls := by
    rw [calls, terminatedTunnels_append, quiet, List.append_nil]
  have grown := spawnedTunnels_length_le_append s.calls new
  rw [← calls] at grown
  refine ⟨fun name handle tracked => ?_, terminated ▸ inv.terminated_nodup,
    fun handle mem => ?_⟩
  · rw [terminated]
    rcases fresh name handle tracked with old | ⟨late, channel⟩
    · obtain ⟨channel, running⟩ := inv.tracked name handle old
      exact ⟨calls ▸ spawnedTunnels_channel_append channel new, running⟩
    · exact ⟨channel, fun mem => absurd (inv.terminated_spawned handle mem) (by omega)⟩
  · have := inv.terminated_spawned handle (terminated ▸ mem)
    omega

section Terminating

variable (w : World) (returns : ∀ calls handle, w.terminateFails calls handle = none)
include returns

/-- **The end of `shutdown_listener` keeps the invariant** when `terminate()` returns: the tunnel
it terminates is the communication port's, which is running, and it stops tracking it. -/
theorem commTunnel (inv : TunnelsTracked s) :
    TunnelsTracked (resultState (terminateCommTunnel w s)) := by
  rw [terminateCommTunnel_eq]
  rcases comm : s.self.tunnelProcesses.get KernelChannel.communication.value with _ | h
  · exact inv
  simp only [returns]
  obtain ⟨-, running⟩ := inv.tracked _ h comm
  have spawned : spawnedTunnels (s.calls ++ [.terminateTunnel h]) = spawnedTunnels s.calls := by
    simp [spawnedTunnels_append, spawnedTunnels, Call.spawned]
  have terminated : terminatedTunnels (s.calls ++ [.terminateTunnel h]) =
      terminatedTunnels s.calls ++ [h] := by
    simp [terminatedTunnels_append, terminatedTunnels, Call.terminated]
  refine ⟨fun name handle tracked => ?_, ?_, fun handle mem => ?_⟩
  · simp only [resultState, PyDict.get_erase] at tracked
    split at tracked
    · cases tracked
    · rename_i other
      obtain ⟨channel, alive⟩ := inv.tracked name handle tracked
      refine ⟨by simpa only [resultState, spawned] using channel, ?_⟩
      simp only [resultState, terminated, List.mem_append, List.mem_singleton, not_or]
      exact ⟨alive, fun same => other (inv.handle_channel tracked (same ▸ comm))⟩
  · simp only [resultState, terminated]
    exact List.nodup_append.2
      ⟨inv.terminated_nodup, List.nodup_singleton h, List.disjoint_singleton.2 running⟩
  · simp only [resultState, terminated, List.mem_append, List.mem_singleton, spawned] at mem ⊢
    rcases mem with old | rfl
    · exact inv.terminated_spawned handle old
    · exact inv.handle_spawned comm

/-- When no `terminate()` raises, the base class's `cleanup` terminates every tracked tunnel in
order and empties `tunnel_processes`. -/
theorem baseCleanup_of_returns (s : Sys) :
    baseCleanup w s = .ok ()
      ⟨{ s.self with assignedIp := none, tunnelProcesses := .empty },
        s.calls ++ (s.self.tunnelProcesses.entries.map Prod.snd).map .terminateTunnel⟩ := by
  obtain ⟨done, -, result⟩ := terminateTunnels_spec w s.self.tunnelProcesses.entries
    { s with self := { s.self with assignedIp := none } }
  rcases result with ⟨loop, all⟩ | ⟨e, -, handle, -, calls, raises⟩
  · rw [baseCleanup_eq, loop, all]
    rfl
  · simp [returns] at raises

/-- **The base class's `cleanup` keeps the invariant** when `terminate()` returns: the tunnels
it terminates are running and distinct, and it stops tracking all of them. -/
theorem cleanupTail (inv : TunnelsTracked s) :
    TunnelsTracked (resultState (baseCleanup w s)) := by
  rw [baseCleanup_of_returns w returns]
  have running : ∀ handle ∈ s.self.tunnelProcesses.entries.map Prod.snd,
      handle ∉ terminatedTunnels s.calls := fun handle mem => by
    obtain ⟨name, tracked⟩ := tracked_of_mem_handles mem
    exact (inv.tracked name handle tracked).2
  refine ⟨fun _ _ tracked => by simp [resultState] at tracked, ?_, fun handle mem => ?_⟩
  · simp only [resultState, terminatedTunnels_append, terminatedTunnels_map_terminateTunnel]
    exact List.nodup_append.2 ⟨inv.terminated_nodup, inv.tracked_handles_nodup,
      fun handle old new => running handle new old⟩
  · simp only [resultState, terminatedTunnels_append, terminatedTunnels_map_terminateTunnel,
      spawnedTunnels_append, spawnedTunnels_map_terminateTunnel, List.append_nil,
      List.mem_append] at mem ⊢
    rcases mem with old | new
    · exact inv.terminated_spawned handle old
    · obtain ⟨name, tracked⟩ := tracked_of_mem_handles new
      exact inv.handle_spawned tracked

/-- After the base class's `cleanup` returns, each tunnel it found tracked has been terminated
exactly once, and nothing is tracked. -/
theorem cleanupTail_terminates (inv : TunnelsTracked s) {s' : Sys}
    (cleaned : baseCleanup w s = .ok () s') :
    s'.self.tunnelProcesses.entries = [] ∧
      ∀ handle ∈ s.self.tunnelProcesses.entries.map Prod.snd,
        (terminatedTunnels s'.calls).count handle = 1 := by
  rw [baseCleanup_of_returns w returns] at cleaned
  cases cleaned
  refine ⟨rfl, fun handle mem => ?_⟩
  obtain ⟨name, tracked⟩ := tracked_of_mem_handles mem
  simp only [terminatedTunnels_append, terminatedTunnels_map_terminateTunnel, List.count_append,
    List.count_eq_zero_of_not_mem (inv.tracked name handle tracked).2,
    List.count_eq_one_of_mem inv.tracked_handles_nodup mem]

/-- **A `cleanup` that returns** has terminated every tunnel tracked when it started exactly once
and tracks none, the invariant still holding: its `kill` touches no tunnel. -/
theorem cleanup_terminates (inv : TunnelsTracked s) {s' : Sys} (cleaned : cleanup w s = .ok () s') :
    TunnelsTracked s' ∧ s'.self.tunnelProcesses.entries = [] ∧
      ∀ handle ∈ s.self.tunnelProcesses.entries.map Prod.snd,
        (terminatedTunnels s'.calls).count handle = 1 := by
  obtain ⟨new, -, -, -, killed⟩ := kill_spec w false s
  rcases killed with killed | ⟨e, -, -, killed⟩
  · have cleanedTail : baseCleanup w (s.extend new) = .ok () s' := by
      simpa only [cleanup, run_bind, killed] using cleaned
    have killedInv := inv.opens ((kill_opensTunnels w false).of_ok killed)
    have after := killedInv.cleanupTail w returns
    rw [cleanedTail] at after
    exact ⟨after, killedInv.cleanupTail_terminates w returns cleanedTail⟩
  · simp [cleanup, run_bind, killed] at cleaned

end Terminating

end TunnelsTracked

/-! ## Segments and runs -/

/-- What one await-free segment can do to the tunnels: open them, or run one of the two pieces of
code that terminate them. -/
inductive TunnelStep (w : World) : Sys → Sys → Prop where
  | opens {s s' : Sys} : OpensTunnels s s' → TunnelStep w s s'
  | commTunnel (s : Sys) : TunnelStep w s (resultState (terminateCommTunnel w s))
  | cleanupTail (s : Sys) : TunnelStep w s (resultState (baseCleanup w s))

theorem TunnelStep.keeps {w : World}
    (returns : ∀ calls handle, w.terminateFails calls handle = none)
    {s s' : Sys} (step : TunnelStep w s s') (inv : TunnelsTracked s) : TunnelsTracked s' := by
  cases step with
  | opens opened => exact inv.opens opened
  | commTunnel => exact inv.commTunnel w returns
  | cleanupTail => exact inv.cleanupTail w returns

/-- The await-free segments of the operations on one provisioner. -/
inductive Segment where
  /-- `pre_launch(env=env, **others)`, which awaits nothing that suspends. -/
  | preLaunch (env : Env) (others : PyDict PyVal)
  /-- `launch_kernel(cmd)` up to `confirm_remote_startup`. -/
  | startLauncher (cmd : List String)
  /-- The start of `confirm_remote_startup`. -/
  | markStartTime
  /-- `handle_launch_timeout`, from the end of its sleep. -/
  | handleLaunchTimeout
  /-- `get_container_status(iteration)`, of a pass or of `poll`. -/
  | getContainerStatus (iteration : Option String)
  /-- `detect_launch_failure`, after a status query. -/
  | detectLaunchFailure
  /-- The wait for the payload, and what a pass does after it. -/
  | awaitPayload
  /-- `send_signal(signum)`. -/
  | sendSignal (signum : Int)
  /-- `kill(restart)`, `terminate(restart)`, and the start of `cleanup`. -/
  | kill (restart : Bool)
  /-- `shutdown_listener` up to the end of its request. -/
  | shutdownRequest
  /-- The rest of `shutdown_listener`. -/
  | terminateCommTunnel
  /-- The rest of `cleanup`: the base class's `cleanup`. -/
  | baseCleanup
  /-- Another provisioner's `self.connection_info.update(connect_info)`, on the dictionary all
  provisioners share. -/
  | otherUpdate (connectInfo : Payload)

section Segments

variable (cfg : Settings) (w : World)

/-- The code of a segment. -/
def runSegment : Segment → Py Unit
  | .preLaunch env others => (fun _ => ()) <$> preLaunch cfg w env others
  | .startLauncher cmd => startLauncher cfg w cmd
  | .markStartTime => markStartTime w
  | .handleLaunchTimeout => handleLaunchTimeout cfg w
  | .getContainerStatus iteration => (fun _ => ()) <$> getContainerStatus w iteration
  | .detectLaunchFailure => detectLaunchFailure cfg w
  | .awaitPayload => (fun _ => ()) <$> awaitPayload cfg w
  | .sendSignal signum => sendSignal cfg w signum
  | .kill restart => kill w restart
  | .shutdownRequest => shutdownRequest w
  | .terminateCommTunnel => terminateCommTunnel w
  | .baseCleanup => baseCleanup w
  | .otherUpdate connectInfo => Py.modifySelf fun self =>
      { self with connectionInfo := self.connectionInfo.update connectInfo }

/-- Segments run one after another on the one object. -/
def runSegments : List Segment → Sys → Sys
  | [], s => s
  | segment :: rest, s => runSegments rest (resultState (runSegment cfg w segment s))

theorem preLaunch_opensTunnels (env : Env) (others : PyDict PyVal) :
    Keeps OpensTunnels (preLaunch cfg w env others) := fun s => by
  rw [resultState_preLaunch]
  refine ⟨⟨[.registerEvent cfg.kernelId], rfl, rfl⟩, fun _ _ tracked => ?_⟩
  simp only [preparedState] at tracked
  split at tracked <;> simp [Provisioner.resetLaunchState] at tracked

/-- **Every segment is a tunnel step.** -/
theorem runSegment_tunnelStep (segment : Segment) (s : Sys) :
    TunnelStep w s (resultState (runSegment cfg w segment s)) := by
  cases segment with
  | preLaunch env others => exact .opens (Keeps.map _ (preLaunch_opensTunnels cfg w env others) s)
  | startLauncher cmd => exact .opens (startLauncher_opensTunnels cfg w cmd s)
  | markStartTime => exact .opens (markStartTime_opensTunnels w s)
  | handleLaunchTimeout => exact .opens (handleLaunchTimeout_opensTunnels cfg w s)
  | getContainerStatus iteration =>
      exact .opens (Keeps.map _ (getContainerStatus_opensTunnels w iteration) s)
  | detectLaunchFailure => exact .opens (detectLaunchFailure_opensTunnels cfg w s)
  | awaitPayload => exact .opens (Keeps.map _ (awaitPayload_opensTunnels cfg w) s)
  | sendSignal signum => exact .opens (sendSignal_opensTunnels cfg w signum s)
  | kill restart => exact .opens (kill_opensTunnels w restart s)
  | shutdownRequest => exact .opens (shutdownRequest_opensTunnels w s)
  | terminateCommTunnel => exact .commTunnel s
  | baseCleanup => exact .cleanupTail s
  | otherUpdate connectInfo =>
      exact .opens (OpensTunnels.modifySelf (fun self =>
        { self with connectionInfo := self.connectionInfo.update connectInfo }) (fun _ => rfl) s)

end Segments

/-! ## Whole operations -/

/-- The operations the kernel manager calls on a provisioner. -/
inductive Operation where
  | preLaunch (env : Env) (others : PyDict PyVal)
  | launchKernel (cmd : List String) (fuel : Nat)
  | sendSignal (signum : Int)
  | kill (restart : Bool)
  | terminate (restart : Bool)
  | shutdownRequested
  | cleanup

section Operations

variable (cfg : Settings) (w : World)

/-- The code of an operation, its result dropped. -/
def runOperation : Operation → Py Unit
  | .preLaunch env others => (fun _ => ()) <$> preLaunch cfg w env others
  | .launchKernel cmd fuel => (fun _ => ()) <$> launchKernel cfg w cmd fuel
  | .sendSignal signum => sendSignal cfg w signum
  | .kill restart => kill w restart
  | .terminate restart => terminate w restart
  | .shutdownRequested => shutdownListener w
  | .cleanup => cleanup w

/-- Operations run one after another, each to its end. -/
def runOperations : List Operation → Sys → Sys
  | [], s => s
  | operation :: rest, s => runOperations rest (resultState (runOperation cfg w operation s))

/-- Some run of segments leads from `s` to `s'`. -/
def SegmentRun (s s' : Sys) : Prop := ∃ segments, runSegments cfg w segments s = s'

theorem runSegments_append (first second : List Segment) (s : Sys) :
    runSegments cfg w (first ++ second) s =
      runSegments cfg w second (runSegments cfg w first s) := by
  induction first generalizing s with
  | nil => rfl
  | cons segment rest ih => exact ih _

namespace SegmentRun

theorem refl (s : Sys) : SegmentRun cfg w s s := ⟨[], rfl⟩

theorem trans (a b c : Sys) (first : SegmentRun cfg w a b) (second : SegmentRun cfg w b c) :
    SegmentRun cfg w a c := by
  obtain ⟨segments, rfl⟩ := first
  obtain ⟨more, rfl⟩ := second
  exact ⟨segments ++ more, runSegments_append cfg w _ _ _⟩

theorem composes : Composes (SegmentRun cfg w) := ⟨refl cfg w, trans cfg w⟩

theorem segment (segment : Segment) : Keeps (SegmentRun cfg w) (runSegment cfg w segment) :=
  fun _ => ⟨[segment], rfl⟩

/-- What every segment keeps, every run of segments keeps. -/
theorem keeps {R : Sys → Sys → Prop} (composes : Composes R)
    (each : ∀ segment, Keeps R (runSegment cfg w segment))
    {s s' : Sys} (run : SegmentRun cfg w s s') : R s s' := by
  obtain ⟨segments, rfl⟩ := run
  induction segments generalizing s with
  | nil => exact composes.refl s
  | cons segment rest ih => exact composes.trans _ _ _ (each segment s) ih

end SegmentRun

/-- A computation whose result is dropped leaves the state it leaves. -/
theorem Keeps.of_map {R : Sys → Sys → Prop} {α β : Type} {x : Py α} (f : α → β)
    (mapped : Keeps R (f <$> x)) : Keeps R x := by
  intro s
  have := mapped s
  rw [run_map] at this
  cases ran : x s <;> rw [ran] at this <;> exact this

/-- Each pass of the confirmation loop is its timeout check, its status query and then the wait
for the payload or the check on the launcher. -/
theorem confirmPass_segmentRun (i : Nat) : Keeps (SegmentRun cfg w) (confirmPass cfg w i) :=
  confirmPass_frame cfg w (SegmentRun.composes cfg w).sequenced
    (SegmentRun.segment cfg w .handleLaunchTimeout)
    (checkContainer_frame cfg w (SegmentRun.composes cfg w).sequenced
      (fun iteration => (SegmentRun.segment cfg w (.getContainerStatus iteration)).of_map _)
      ((SegmentRun.segment cfg w .awaitPayload).of_map _)
      (SegmentRun.segment cfg w .detectLaunchFailure)) i

/-- **Every operation, run to its end, is a run of its own segments.** -/
theorem runOperation_segmentRun (operation : Operation) :
    Keeps (SegmentRun cfg w) (runOperation cfg w operation) := by
  have steps := (SegmentRun.composes cfg w).sequenced
  cases operation with
  | preLaunch env others => exact SegmentRun.segment cfg w (.preLaunch env others)
  | launchKernel cmd fuel =>
      exact steps.map _ (launchKernel_frame cfg w steps
        (fun cmd => SegmentRun.segment cfg w (.startLauncher cmd))
        (SegmentRun.segment cfg w .markStartTime) (confirmPass_segmentRun cfg w) cmd fuel)
  | sendSignal signum => exact SegmentRun.segment cfg w (.sendSignal signum)
  | kill restart => exact SegmentRun.segment cfg w (.kill restart)
  | terminate restart => exact SegmentRun.segment cfg w (.kill restart)
  | shutdownRequested =>
      exact shutdownListener_frame w steps (SegmentRun.segment cfg w .shutdownRequest)
        (SegmentRun.segment cfg w .terminateCommTunnel)
  | cleanup =>
      exact cleanup_frame w steps (SegmentRun.segment cfg w (.kill false))
        (SegmentRun.segment cfg w .baseCleanup)

/-- A sequence of whole operations is a run of segments. -/
theorem runOperations_segmentRun (operations : List Operation) (s : Sys) :
    SegmentRun cfg w s (runOperations cfg w operations s) := by
  induction operations generalizing s with
  | nil => exact SegmentRun.refl cfg w s
  | cons operation rest ih =>
      exact SegmentRun.trans cfg w _ _ _ (runOperation_segmentRun cfg w operation s) (ih _)

end Operations

/-! ## The tunnels over any run -/

theorem TunnelsTracked.tunnelSteps {w : World}
    (returns : ∀ calls handle, w.terminateFails calls handle = none) {s s' : Sys}
    (steps : Relation.ReflTransGen (TunnelStep w) s s') (inv : TunnelsTracked s) :
    TunnelsTracked s' := by
  induction steps with
  | refl => exact inv
  | tail _ step ih => exact step.keeps returns ih

/-- A run of segments is a sequence of tunnel steps. -/
theorem SegmentRun.tunnelSteps (cfg : Settings) (w : World) {s s' : Sys}
    (run : SegmentRun cfg w s s') : Relation.ReflTransGen (TunnelStep w) s s' :=
  SegmentRun.keeps cfg w ⟨fun _ => .refl, fun _ _ _ => .trans⟩
    (fun segment s => .single (runSegment_tunnelStep cfg w segment s)) run

/-- The tunnels of `s` are tracked as the trace says, and a `cleanup` that returns from `s` has
terminated each of them exactly once and left `tunnel_processes` empty, the invariant holding
there too. -/
def ReleasesTunnels (w : World) (s : Sys) : Prop :=
  TunnelsTracked s ∧ ∀ s', cleanup w s = .ok () s' →
    TunnelsTracked s' ∧ s'.self.tunnelProcesses.entries = [] ∧
      ∀ handle ∈ s.self.tunnelProcesses.entries.map Prod.snd,
        (terminatedTunnels s'.calls).count handle = 1

section Runs

variable (cfg : Settings) (w : World)

end Runs

/-- The segments of a launch confirmed on its first pass. -/
def launchSegments : List Segment :=
  [.preLaunch .empty .empty, .startLauncher ["launch"], .markStartTime, .handleLaunchTimeout,
    .getContainerStatus (some "1"), .awaitPayload]

set_option smartUnfolding false in
/-- After a launch whose container manager named the container `kernel-1`, `pre_launch` keeps
that name, where a fresh object has none. -/
theorem preLaunch_keeps_container_name :
    (match (do
        let _ ← launchKernel Settings.default readyWorld ["launch"] 1
        preLaunch Settings.default readyWorld .empty .empty) ⟨Provisioner.fresh 0 0 .empty, []⟩ with
      | .ok _ s => s.self.containerName
      | .error _ _ => none) = some "kernel-1" ∧
      (Provisioner.fresh 0 0 .empty).containerName = none := by
  decide

end RemoteProvisioners
