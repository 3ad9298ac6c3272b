import RemoteProvisioners.Lifecycle
import RemoteProvisioners.Connection

/-!
# The communication channel and `shutdown_listener`

`shutdown_listener` sends the listener its shutdown request and then terminates the tunnel
tracked under `EG_COMM`, but only when `comm_port > 0`: a tunnel tracked while `comm_port` is not
positive would be left running. The tunnel is tracked by `_setup_connection_info` with tunneling
on, which assigns `comm_port` the local port the tunnel forwards, and that port is one a socket
was bound to. The operating system never assigns port `0` (`SystemPortsPositive`), and a candidate
port is bound only inside `[1, 65535]`, so every port `select_ports` returns is positive
(`selectPorts_positive`).

The local port `_tunnel_to_port` returns, which `_setup_connection_info` assigns to `comm_port`
for `EG_COMM`, is one of the ports `select_ports` returned (`tunnelToPort_mem_selectPorts`).

**A tracked communication tunnel is reachable.** From a new object, every interleaving of the
operations' segments, and every sequence of whole operations, leaves a tunnel tracked under
`EG_COMM` only with tunneling on and `comm_port` positive (`SegmentRun.keepsLive`). So
`shutdown_listener` always terminates a tracked communication tunnel, whatever the listener does
with the request, and forgets it unless its `terminate()` raises
(`shutdownListener_stops_comm_tunnel`).
-/

set_option autoImplicit false

namespace RemoteProvisioners

/-! ## Returned values -/

section Returns

variable {α β : Type} {P : α → Prop}

theorem ReturnsOnly.throw (e : Exn) : ReturnsOnly P (throw e : Py α) := by
  intro s a s' returned
  cases returned

/-- A bind returns what its continuation returns from a value its first computation returned. -/
theorem ReturnsOnly.bind_of {Q : β → Prop} {x : Py β} {f : β → Py α}
    (first : ReturnsOnly Q x) (rest : ∀ b, Q b → ReturnsOnly P (f b)) :
    ReturnsOnly P (x >>= f) := by
  intro s a s' returned
  obtain ⟨b, s1, got, returned⟩ := run_bind_eq_ok.1 returned
  exact rest b (first s b s1 got) s1 a s' returned

/-- A `try` returns the value of a body that returned it. -/
theorem ReturnsOnly.attempt {x : Py α} (inner : ReturnsOnly P x) :
    ReturnsOnly (fun result => ∀ a, result = .ok a → P a) (Py.attempt x) := by
  intro s result s' returned a ok
  subst ok
  rw [run_attempt] at returned
  split at returned
  · cases returned
    exact inner s a s' (by assumption)
  · cases returned

end Returns

/-! ## Positive ports -/

/-- The operating system never assigns port `0` to a socket bound to port `0`. -/
def SystemPortsPositive (w : World) : Prop :=
  ∀ calls sock assigned, w.bind calls sock 0 = some assigned → 0 < assigned

theorem calm_systemPortsPositive : SystemPortsPositive World.calm := by
  intro calls sock assigned bound
  simp only [World.calm, ↓reduceIte, Option.some.injEq] at bound
  omega

/-- The local port `_tunnel_to_port` returns, and assigns to `comm_port` for `EG_COMM`, is one
of the ports `select_ports` returned. -/
theorem tunnelToPort_mem_selectPorts (cfg : Settings) (w : World) {kernelChannel : KernelChannel}
    {remoteIp : PyVal} {remotePort : Int} {server : Option String} {s s' : Sys} {port : Nat}
    (returned : tunnelToPort cfg w kernelChannel remoteIp remotePort server s = .ok port s') :
    ∃ ports s1, selectPorts cfg w 1 s = .ok ports s1 ∧ port ∈ ports := by
  obtain ⟨ports, s1, selected, returned⟩ := run_bind_eq_ok.1 returned
  obtain ⟨localPort, s2, picked, returned⟩ := run_bind_eq_ok.1 returned
  obtain ⟨picked, rfl⟩ := run_ofExcept_eq_ok.1 picked
  obtain ⟨⟨⟩, s3, -, done⟩ := run_bind_eq_ok.1 returned
  cases done
  refine ⟨ports, s1, selected, ?_⟩
  unfold pyIndex at picked
  split at picked
  · cases picked
    exact List.get?_mem (by assumption)
  · cases picked

section Positive

variable (cfg : Settings) {w : World} (assigns : SystemPortsPositive w)
include assigns

/-- A bind that succeeds reads back a positive port: a candidate of `[1, 65535]` itself, or the
one the system assigned for `0`. -/
theorem boundPort_pos {calls : List Call} {sock : Nat} {port : Int} {bound : Nat}
    (bound_eq : boundPort w calls sock port = some bound) : 0 < bound := by
  unfold boundPort at bound_eq
  split at bound_eq
  · cases bound_eq
  · obtain ⟨assigned, answered, rfl⟩ := Option.map_eq_some'.1 bound_eq
    split
    · subst port
      exact assigns calls sock assigned answered
    · omega

theorem bindSocket_positive (sock : Nat) (port : Int) :
    ReturnsOnly (0 < ·) (bindSocket w sock port) := by
  intro s bound s' returned
  rw [bindSocket_eq] at returned
  split at returned
  · cases returned
    exact boundPort_pos assigns (by assumption)
  · cases returned

theorem selectSocketLoop_positive (sock budget : Nat) :
    ReturnsOnly (0 < ·) (selectSocketLoop cfg w sock budget) := by
  induction budget with
  | zero | succ budget ih =>
    rw [selectSocketLoop]
    refine ReturnsOnly.bind_of (ReturnsOnly.attempt
      (ReturnsOnly.bind fun candidate => bindSocket_positive assigns sock candidate))
      fun result bound => ?_
    rcases result with e | port
    · first
        | exact ReturnsOnly.throw _
        | exact ih
    · exact ReturnsOnly.pure (bound port rfl)

theorem selectSocket_positive : ReturnsOnly (0 < ·.2) (selectSocket cfg w) :=
  ReturnsOnly.bind fun sock => ReturnsOnly.bind_of (selectSocketLoop_positive cfg assigns sock _)
    fun _ positive => ReturnsOnly.pure positive

theorem gatherSockets_positive (count : Nat) :
    ReturnsOnly (∀ socket ∈ ·, 0 < socket.2) (gatherSockets cfg w count) := by
  induction count with
  | zero => exact ReturnsOnly.pure fun _ mem => by cases mem
  | succ count ih =>
      exact ReturnsOnly.bind_of (selectSocket_positive cfg assigns) fun first positive =>
        ReturnsOnly.bind_of ih fun rest positives => ReturnsOnly.pure fun socket mem => by
          rcases List.mem_cons.1 mem with rfl | later
          · exact positive
          · exact positives socket later

/-- **Every port `select_ports` returns is positive.** -/
theorem selectPorts_positive (count : Nat) :
    ReturnsOnly (∀ port ∈ ·, 0 < port) (selectPorts cfg w count) :=
  ReturnsOnly.bind_of (gatherSockets_positive cfg assigns count) fun sockets positive =>
    ReturnsOnly.bind fun _ => ReturnsOnly.pure fun port mem => by
      obtain ⟨socket, held, rfl⟩ := List.mem_map.1 mem
      exact positive socket held

/-- The local port of a tunnel `_tunnel_to_port` opens is positive. -/
theorem tunnelToPort_positive (kernelChannel : KernelChannel) (remoteIp : PyVal)
    (remotePort : Int) (server : Option String) :
    ReturnsOnly (0 < ·) (tunnelToPort cfg w kernelChannel remoteIp remotePort server) := by
  intro s port s' returned
  obtain ⟨ports, s1, selected, mem⟩ := tunnelToPort_mem_selectPorts cfg w returned
  exact selectPorts_positive cfg assigns 1 s ports s1 selected port mem

end Positive

/-! ## The invariant -/

/-- A tunnel is tracked under `EG_COMM` only with tunneling on and `comm_port` positive. -/
def CommTunnelLive (cfg : Settings) (self : Provisioner) : Prop :=
  (self.tunnelProcesses.get KernelChannel.communication.value).isSome = true →
    cfg.tunnelingEnabled = true ∧ 0 < self.commPort

instance (cfg : Settings) (self : Provisioner) : Decidable (CommTunnelLive cfg self) :=
  inferInstanceAs (Decidable (_ → _))

theorem commTunnelLive_of_untracked {cfg : Settings} {self : Provisioner}
    (untracked : self.tunnelProcesses.get KernelChannel.communication.value = none) :
    CommTunnelLive cfg self := by
  intro tracked
  rw [untracked] at tracked
  cases tracked

/-- A run that keeps the invariant. -/
def KeepsLive (cfg : Settings) (s s' : Sys) : Prop :=
  CommTunnelLive cfg s.self → CommTunnelLive cfg s'.self

theorem KeepsLive.refl (cfg : Settings) (s : Sys) : KeepsLive cfg s s := id

theorem KeepsLive.trans (cfg : Settings) (a b c : Sys) (first : KeepsLive cfg a b)
    (second : KeepsLive cfg b c) : KeepsLive cfg a c :=
  second ∘ first

theorem KeepsLive.composes (cfg : Settings) : Composes (KeepsLive cfg) :=
  ⟨KeepsLive.refl cfg, KeepsLive.trans cfg⟩

/-- A run that leaves `comm_port` and the tunnel tracked under `EG_COMM` as they were. -/
structure KeepsComm (s s' : Sys) : Prop where
  commPort : s'.self.commPort = s.self.commPort
  tunnel : s'.self.tunnelProcesses.get KernelChannel.communication.value =
    s.self.tunnelProcesses.get KernelChannel.communication.value

namespace KeepsComm

theorem refl (s : Sys) : KeepsComm s s := ⟨rfl, rfl⟩

theorem trans (a b c : Sys) (first : KeepsComm a b) (second : KeepsComm b c) : KeepsComm a c :=
  ⟨second.commPort.trans first.commPort, second.tunnel.trans first.tunnel⟩

theorem composes : Composes KeepsComm := ⟨refl, trans⟩

theorem emit (call : Call) : Keeps KeepsComm (Py.emit call) := fun _ => ⟨rfl, rfl⟩

/-- Assigning fields other than `comm_port` and `tunnel_processes`. -/
theorem modifySelf (f : Provisioner → Provisioner)
    (keeps : ∀ self, (f self).commPort = self.commPort ∧
      (f self).tunnelProcesses = self.tunnelProcesses) :
    Keeps KeepsComm (Py.modifySelf f) := fun s =>
  ⟨(keeps s.self).1, by rw [← (keeps s.self).2]; rfl⟩

theorem of_keepsConnection {s s' : Sys} (kept : KeepsConnection s s') : KeepsComm s s' :=
  ⟨kept.commPort, by rw [kept.tunnelProcesses]⟩

theorem live (cfg : Settings) {s s' : Sys} (kept : KeepsComm s s') : KeepsLive cfg s s' := by
  intro inv tracked
  rw [kept.tunnel] at tracked
  rw [kept.commPort]
  exact inv tracked

end KeepsComm

/-- A computation that leaves the channel alone keeps the invariant. -/
theorem Keeps.commLive {α : Type} {x : Py α} (kept : Keeps KeepsComm x) (cfg : Settings) :
    Keeps (KeepsLive cfg) x :=
  kept.mono fun _ _ => KeepsComm.live cfg

/-! ## The steps that leave the channel alone -/

section Frames

variable (cfg : Settings) (w : World)

theorem kill_keepsComm (restart : Bool) : Keeps KeepsComm (kill w restart) :=
  kill_frame w KeepsComm.composes.sequenced (fun _ => KeepsComm.emit _) (fun _ => KeepsComm.emit _)
    restart

theorem getContainerStatus_keepsComm (iteration : Option String) :
    Keeps KeepsComm (getContainerStatus w iteration) :=
  getContainerStatus_frame w KeepsComm.composes.sequenced
    (fun _ => KeepsComm.modifySelf _ fun _ => ⟨rfl, rfl⟩) iteration

theorem sendListenerRequest_keepsComm (request : ListenerRequest) :
    Keeps KeepsComm (sendListenerRequest w request) :=
  sendListenerRequest_frame w KeepsComm.composes.catching (fun _ => KeepsComm.emit _)
    (fun _ => KeepsComm.emit _) (fun _ => KeepsComm.emit _) request

end Frames

/-! ## The steps that change the channel -/

section Steps

variable (cfg : Settings) (w : World)

/-- The end of `shutdown_listener` forgets the tunnel of `EG_COMM`, or raises having changed
nothing. -/
theorem terminateCommTunnel_keepsLive : Keeps (KeepsLive cfg) (terminateCommTunnel w) := by
  intro s
  rw [terminateCommTunnel_eq]
  split
  · split
    · exact (KeepsComm.refl s).live cfg
    · exact fun _ => commTunnelLive_of_untracked (PyDict.get_erase_self _ _)
  · exact KeepsLive.refl cfg s

/-- The base class's `cleanup` leaves no tunnel tracked, or raises having changed neither
`comm_port` nor `tunnel_processes`. -/
theorem baseCleanup_keepsLive : Keeps (KeepsLive cfg) (baseCleanup w) := by
  have loop : ∀ entries, Keeps KeepsComm (terminateTunnels w entries) := by
    intro entries
    induction entries with
    | nil => exact Keeps.pure KeepsComm.refl _
    | cons entry rest ih =>
        obtain ⟨_, handle⟩ := entry
        exact Keeps.bind KeepsComm.trans (terminateTunnelProcess_frame w KeepsComm.composes.sequenced
          (fun _ => KeepsComm.emit _) handle) fun _ => ih
  unfold baseCleanup
  refine Keeps.bind (KeepsLive.trans cfg)
    ((KeepsComm.modifySelf _ fun _ => ⟨rfl, rfl⟩).commLive cfg) fun _ => ?_
  refine Keeps.bind (KeepsLive.trans cfg) (Keeps.getSelf (KeepsLive.refl cfg)) fun self => ?_
  refine Keeps.bind (KeepsLive.trans cfg) ((loop _).commLive cfg) fun _ => ?_
  exact fun _ _ => commTunnelLive_of_untracked (PyDict.get_empty _)

/-- `pre_launch` resets `tunnel_processes`, whether it returns or raises. -/
theorem preLaunch_keepsLive (env : Env) (others : PyDict PyVal) :
    Keeps (KeepsLive cfg) (preLaunch cfg w env others) := by
  intro s _
  rw [resultState_preLaunch]
  simp only [preparedState]
  split <;> exact commTunnelLive_of_untracked (PyDict.get_empty _)

end Steps

/-! ## Setting up the connection -/

section Setup

variable (cfg : Settings) (w : World)

theorem communication_ne_kernelChannel :
    ∀ kernelChannel ∈ kernelChannels, KernelChannel.communication.value ≠ kernelChannel.value := by
  decide

/-- `_tunnel_to_kernel` tracks its five tunnels under the five channels' names, none of them
`EG_COMM`, and assigns nothing else. -/
theorem tunnelToKernel_keepsComm (cf : Payload) (server : Option String) :
    Keeps KeepsComm (tunnelToKernel cfg w cf server) := by
  have entry : Keeps (KeepsTunnel KernelChannel.communication.value)
      (tunnelToKernel cfg w cf server) :=
    tunnelToKernel_frame cfg w (KeepsTunnel.composes _).sequenced
      ((selectPorts_keeps cfg w 5).mono fun _ _ => KeepsTunnel.of_socketsOnly _)
      (fun kernelChannel mem => createSshTunnel_keepsTunnel cfg w
        (communication_ne_kernelChannel kernelChannel mem)) cf server
  intro s
  have tunnels := tunnelToKernel_tunnelsOnly cfg w cf server s
  exact ⟨by rw [tunnels], (entry s).same⟩

/-- `_tunnel_to_port` raises with the object as it was. -/
theorem tunnelToPort_self_of_error {kernelChannel : KernelChannel} {remoteIp : PyVal}
    {remotePort : Int} {server : Option String} {s s' : Sys} {e : Exn}
    (raised : tunnelToPort cfg w kernelChannel remoteIp remotePort server s = .error e s') :
    s'.self = s.self := by
  have sockets := selectPorts_keeps cfg w 1 s
  rcases selected : selectPorts cfg w 1 s with ⟨ports, s1⟩ | ⟨e1, s1⟩ <;>
    rw [selected] at sockets
  · rcases picked : pyIndex ports 0 with e2 | localPort
    · simp only [tunnelToPort, run_bind, selected, picked, run_ofExcept_error,
        EStateM.Result.error.injEq] at raised
      rw [← raised.2]
      exact sockets.1
    · rcases createSshTunnel_cases cfg w kernelChannel localPort (.int remotePort) remoteIp server
          cfg.sshPort s1 with ⟨e3, failed⟩ | ⟨child, -, spawned⟩
      · simp only [tunnelToPort, run_bind, selected, picked, run_ofExcept_ok, failed,
          EStateM.Result.error.injEq] at raised
        rw [← raised.2]
        exact sockets.1
      · simp only [tunnelToPort, run_bind, selected, picked, run_ofExcept_ok, spawned,
          run_pure] at raised
        cases raised
  · simp only [tunnelToPort, run_bind, selected, EStateM.Result.error.injEq] at raised
    rw [← raised.2]
    exact sockets.1

/-- `_update_connection` assigns `pid`, `pgid`, `ip`, `local_proc` and `connection_info`. -/
theorem updateConnection_keepsComm (connectInfo : Payload) :
    Keeps KeepsComm (updateConnection cfg w connectInfo) :=
  updateConnection_frame cfg w KeepsComm.composes.sequenced
    (fun _ => (extractPidInfo_keepsConnection w _).mono fun _ _ => KeepsComm.of_keepsConnection)
    (fun _ => KeepsComm.modifySelf _ fun _ => ⟨rfl, rfl⟩) connectInfo

variable {w} (assigns : SystemPortsPositive w)
include assigns

/-- The communication tunnel of `_setup_connection_info` and the `comm_port` assigned from it:
the port is positive, so the invariant holds once it is assigned; a `_tunnel_to_port` that raises
has changed nothing. -/
theorem tunnelToPort_keepsLive (tunneling : cfg.tunnelingEnabled = true) (remoteIp : PyVal)
    (remotePort : Int) (server : Option String) {β : Type} {k : Nat → Py β}
    (rest : ∀ port, Keeps (KeepsLive cfg) (k port)) :
    Keeps (KeepsLive cfg) (tunnelToPort cfg w .communication remoteIp remotePort server >>=
      fun port => Py.modifySelf (fun self => { self with commPort := (port : Int) }) >>=
        fun _ => k port) := by
  intro s
  rw [run_bind]
  rcases opened : tunnelToPort cfg w .communication remoteIp remotePort server s with
    ⟨port, s1⟩ | ⟨e, s1⟩
  · have positive : 0 < port := tunnelToPort_positive cfg assigns _ _ _ _ s port s1 opened
    simp only [run_bind, run_modifySelf]
    exact fun _ => rest port _ fun _ => ⟨tunneling, Int.ofNat_pos.2 positive⟩
  · have same := tunnelToPort_self_of_error cfg w opened
    intro inv
    simp only [resultState, same]
    exact inv

omit assigns in
/-- Without tunneling no tunnel is tracked under `EG_COMM`, so any assignment that leaves
`tunnel_processes` alone keeps the invariant. -/
theorem modifySelf_keepsLive_untunneled (direct : ¬cfg.tunnelingEnabled = true)
    (f : Provisioner → Provisioner)
    (keeps : ∀ self, (f self).tunnelProcesses = self.tunnelProcesses) :
    Keeps (KeepsLive cfg) (Py.modifySelf f) := by
  intro s inv tracked
  change ((f s.self).tunnelProcesses.get _).isSome = true at tracked
  rw [keeps] at tracked
  exact absurd (inv tracked).1 direct

/-- **Setting up the connection keeps the invariant**, however it ends: with tunneling on,
`comm_port` is assigned only the local port of the tunnel just tracked under `EG_COMM`, and
without tunneling nothing is tracked there. -/
theorem setupConnectionInfo_keepsLive (connectInfo : Payload) :
    Keeps (KeepsLive cfg) (setupConnectionInfo cfg w connectInfo) := by
  have steps := (KeepsLive.composes cfg).sequenced
  have update : ∀ connectInfo, Keeps (KeepsLive cfg) (updateConnection cfg w connectInfo) :=
    fun _ => (updateConnection_keepsComm cfg w _).commLive cfg
  have assign : ∀ f : Provisioner → Provisioner, (∀ self, (f self).commPort = self.commPort ∧
      (f self).tunnelProcesses = self.tunnelProcesses) → Keeps (KeepsLive cfg) (Py.modifySelf f) :=
    fun f keeps => (KeepsComm.modifySelf f keeps).commLive cfg
  refine steps.bind steps.getSelf fun _ => ?_
  dsimp only
  split
  · rename_i tunneling
    refine steps.bind (assign _ fun _ => ⟨rfl, rfl⟩) fun _ =>
      steps.bind ((tunnelToKernel_keepsComm cfg w _ _).commLive cfg) fun _ =>
        steps.bind (steps.ofExcept _) fun _ => ?_
    split
    · exact steps.bind (assign _ fun _ => ⟨rfl, rfl⟩) fun _ => steps.bind (steps.ofExcept _) fun _ =>
        tunnelToPort_keepsLive cfg assigns tunneling _ _ _ fun _ => update _
    · exact update _
  · rename_i direct
    split
    · exact steps.bind (assign _ fun _ => ⟨rfl, rfl⟩) fun _ => steps.bind (steps.ofExcept _) fun _ =>
        steps.bind (modifySelf_keepsLive_untunneled cfg direct _ fun _ => rfl) fun _ => update _
    · exact update _

end Setup

/-! ## Runs -/

section Runs

variable (cfg : Settings) {w : World} (assigns : SystemPortsPositive w)
include assigns

/-- A wait for the payload sets up the connection, or kills the kernel after a failed wait. -/
theorem awaitPayload_keepsLive : Keeps (KeepsLive cfg) (awaitPayload cfg w) :=
  awaitPayload_frame cfg w (KeepsLive.composes cfg).sequenced
    (receiveConnectionInfo_frame cfg w (KeepsLive.composes cfg).catching
      (setupConnectionInfo_keepsLive cfg assigns) ((kill_keepsComm w false).commLive cfg))
    ((KeepsComm.modifySelf _ fun _ => ⟨rfl, rfl⟩).commLive cfg)

/-- **Every segment keeps the invariant.** -/
theorem runSegment_keepsLive (segment : Segment) :
    Keeps (KeepsLive cfg) (runSegment cfg w segment) := by
  have steps := KeepsComm.composes.sequenced
  cases segment with
  | preLaunch env others => exact Keeps.map _ (preLaunch_keepsLive cfg w env others)
  | startLauncher cmd =>
      exact (startLauncher_frame cfg w steps (fun _ => KeepsComm.emit _)
        (fun _ _ => KeepsComm.modifySelf _ fun _ => ⟨rfl, rfl⟩) cmd).commLive cfg
  | markStartTime =>
      exact (markStartTime_frame w steps (fun _ => KeepsComm.emit _)
        fun _ => KeepsComm.modifySelf _ fun _ => ⟨rfl, rfl⟩).commLive cfg
  | handleLaunchTimeout =>
      exact (handleLaunchTimeout_frame cfg w steps (KeepsComm.emit _) (fun _ => KeepsComm.emit _)
        (kill_keepsComm w false)).commLive cfg
  | getContainerStatus iteration =>
      exact Keeps.map _ ((getContainerStatus_keepsComm w iteration).commLive cfg)
  | detectLaunchFailure =>
      exact (detectLaunchFailure_frame cfg w steps (KeepsComm.emit _)
        (KeepsComm.modifySelf _ fun _ => ⟨rfl, rfl⟩)).commLive cfg
  | awaitPayload => exact Keeps.map _ (awaitPayload_keepsLive cfg assigns)
  | sendSignal signum =>
      exact (sendSignal_frame cfg w steps (poll_frame w steps (getContainerStatus_keepsComm w none))
        (kill_keepsComm w false)
        (baseSendSignal_frame cfg w steps
          (sendSignalViaListener_frame w KeepsComm.composes.catching (sendListenerRequest_keepsComm w))
          (signalLauncher_frame cfg w KeepsComm.composes.catching (fun _ _ => KeepsComm.emit _)
            fun _ => KeepsComm.emit _))
        signum).commLive cfg
  | kill restart => exact (kill_keepsComm w restart).commLive cfg
  | shutdownRequest =>
      exact (shutdownRequest_frame w KeepsComm.composes.catching
        (sendListenerRequest_keepsComm w _)).commLive cfg
  | terminateCommTunnel => exact terminateCommTunnel_keepsLive cfg w
  | baseCleanup => exact baseCleanup_keepsLive cfg w
  | otherUpdate connectInfo =>
      exact (KeepsComm.modifySelf (fun self =>
        { self with connectionInfo := self.connectionInfo.update connectInfo })
          fun _ => ⟨rfl, rfl⟩).commLive cfg

/-- A run of segments, and so a sequence of whole operations, keeps the invariant. -/
theorem SegmentRun.keepsLive {s s' : Sys} (run : SegmentRun cfg w s s') : KeepsLive cfg s s' :=
  SegmentRun.keeps cfg w (KeepsLive.composes cfg) (runSegment_keepsLive cfg assigns) run

end Runs

/-! ## Shutting the listener down -/

section Shutdown

variable (w : World)

/-- What `shutdown_listener` does to a tracked communication tunnel: after the request, whose
socket it closes whatever the listener answers, it terminates the tunnel, and forgets it unless
`terminate()` raises. -/
def StopsCommTunnel (s : Sys) : Prop :=
  ∀ handle, s.self.tunnelProcesses.get KernelChannel.communication.value = some handle →
    ∃ new, openSockets new = [] ∧ terminatedTunnels new = [] ∧
      shutdownListener w s =
        match w.terminateFails (s.calls ++ new) handle with
        | some e => .error e (s.extend (new ++ [.terminateTunnel handle]))
        | none => .ok () ⟨{ s.self with tunnelProcesses :=
              s.self.tunnelProcesses.erase KernelChannel.communication.value },
            s.calls ++ new ++ [.terminateTunnel handle]⟩

/-- A tunnel tracked under `EG_COMM` is tracked with tunneling on and a positive `comm_port`,
and `shutdown_listener` stops it. -/
def CommTunnelReachable (cfg : Settings) (s : Sys) : Prop :=
  CommTunnelLive cfg s.self ∧ StopsCommTunnel w s

/-- With a positive `comm_port`, the request returns whatever the listener does, having opened
one socket and closed it. -/
theorem shutdownRequest_eq (s : Sys) (positive : 0 < s.self.commPort) :
    ∃ new, openSockets new = [] ∧ terminatedTunnels new = [] ∧
      shutdownRequest w s = .ok () (s.extend new) := by
  have request := sendListenerRequest_eq w .shutdown s positive
  set sock := (s.calls.filter Call.isSocketOpen).length
  rcases answer : listenerAnswer w .shutdown s with _ | e <;> rw [answer] at request
  · exact ⟨[.socketOpen sock, .listenerSend .shutdown, .socketClose sock],
      by simp [openSockets, Call.trackOpen], rfl,
      by simp [shutdownRequest, run_bind, positive, request]⟩
  · exact ⟨[.socketOpen sock, .socketClose sock], by simp [openSockets, Call.trackOpen], rfl,
      by simp [shutdownRequest, run_bind, positive, request]⟩

/-- In a state that keeps the invariant, `shutdown_listener` reaches a tracked communication
tunnel. -/
theorem stopsCommTunnel_of_live {cfg : Settings} {s : Sys} (inv : CommTunnelLive cfg s.self) :
    StopsCommTunnel w s := by
  intro handle tracked
  have positive := (inv (by rw [tracked]; rfl)).2
  obtain ⟨new, closed, quiet, requested⟩ := shutdownRequest_eq w s positive
  refine ⟨new, closed, quiet, ?_⟩
  simp only [shutdownListener, run_bind, run_getSelf, positive, ↓reduceIte, requested,
    terminateCommTunnel_eq, Sys.extend_self, tracked, Sys.extend_calls]
  rcases w.terminateFails (s.calls ++ new) handle with _ | e
  · rfl
  · simp only [Sys.extend_extend]

end Shutdown

/-- **`shutdown_listener` stops a tracked communication tunnel.** For every behaviour of the
collaborators in which the system never assigns port `0`: every port `select_ports` returns is
positive, and the local port `_tunnel_to_port` returns, the one `comm_port` is assigned for
`EG_COMM`, is one of them. After any interleaving of the operations' segments, and after any
sequence of whole operations, from a new object, a tunnel is tracked under `EG_COMM` only with
tunneling on and `comm_port` positive; then `shutdown_listener` sends its request on a socket it
closes, whatever the listener answers, terminates that tunnel and no other, and forgets it unless
`terminate()` raises. -/
theorem shutdownListener_stops_comm_tunnel (cfg : Settings) (w : World)
    (assigns : SystemPortsPositive w) (lowerPort upperPort : Int) (connectionInfo : Payload)
    (calls : List Call) :
    (∀ count, ReturnsOnly (∀ port ∈ ·, 0 < port) (selectPorts cfg w count)) ∧
      (∀ kernelChannel remoteIp remotePort server (s s' : Sys) port,
        tunnelToPort cfg w kernelChannel remoteIp remotePort server s = .ok port s' →
          ∃ ports s1, selectPorts cfg w 1 s = .ok ports s1 ∧ port ∈ ports) ∧
      (∀ segments, CommTunnelReachable w cfg
        (runSegments cfg w segments ⟨.fresh lowerPort upperPort connectionInfo, calls⟩)) ∧
      ∀ operations, CommTunnelReachable w cfg
        (runOperations cfg w operations ⟨.fresh lowerPort upperPort connectionInfo, calls⟩) := by
  have live : ∀ s, SegmentRun cfg w ⟨.fresh lowerPort upperPort connectionInfo, calls⟩ s →
      CommTunnelReachable w cfg s := fun _ run =>
    have inv := SegmentRun.keepsLive cfg assigns run
      (commTunnelLive_of_untracked (PyDict.get_empty _))
    ⟨inv, stopsCommTunnel_of_live w inv⟩
  exact ⟨selectPorts_positive cfg assigns, fun _ _ _ _ _ _ _ => tunnelToPort_mem_selectPorts cfg w,
    fun segments => live _ ⟨segments, rfl⟩,
    fun operations => live _ (runOperations_segmentRun cfg w operations _)⟩

set_option smartUnfolding false in
/-- With tunneling on, at `commWorld`, whose system assigns ports above every held one and whose
payload names a `comm_port`: a launch confirmed on its first pass tracks a tunnel under `EG_COMM`
and assigns `comm_port` its local port `1`; there, as after every run, `shutdown_listener`
reaches it. -/
theorem shutdownListener_stops_comm_tunnel_commWorld :
    SystemPortsPositive commWorld ∧
      (runSegments { Settings.default with tunnelingEnabled := true } commWorld launchSegments
        ⟨.fresh 0 0 .empty, []⟩).self.tunnelProcesses.get KernelChannel.communication.value =
          some 5 ∧
      (runSegments { Settings.default with tunnelingEnabled := true } commWorld launchSegments
        ⟨.fresh 0 0 .empty, []⟩).self.commPort = 1 ∧
      (∀ count, ReturnsOnly (∀ port ∈ ·, 0 < port)
        (selectPorts { Settings.default with tunnelingEnabled := true } commWorld count)) ∧
      (∀ kernelChannel remoteIp remotePort server (s s' : Sys) port,
        tunnelToPort { Settings.default with tunnelingEnabled := true } commWorld kernelChannel
            remoteIp remotePort server s = .ok port s' →
          ∃ ports s1, selectPorts { Settings.default with tunnelingEnabled := true } commWorld 1 s =
            .ok ports s1 ∧ port ∈ ports) ∧
      (∀ segments, CommTunnelReachable commWorld { Settings.default with tunnelingEnabled := true }
        (runSegments { Settings.default with tunnelingEnabled := true } commWorld segments
          ⟨.fresh 0 0 .empty, []⟩)) ∧
      ∀ operations, CommTunnelReachable commWorld { Settings.default with tunnelingEnabled := true }
        (runOperations { Settings.default with tunnelingEnabled := true } commWorld operations
          ⟨.fresh 0 0 .empty, []⟩) :=
  ⟨calm_systemPortsPositive, by decide, by decide,
    shutdownListener_stops_comm_tunnel _ commWorld calm_systemPortsPositive 0 0 .empty []⟩

end RemoteProvisioners
