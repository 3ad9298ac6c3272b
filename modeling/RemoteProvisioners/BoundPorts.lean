import RemoteProvisioners.Lifecycle

/-!
# The ports a provisioner binds over its life

The constructor fixes `lower_port` and `upper_port` once, from what `_validate_port_range`
returns for `port_range`, and every local port of a tunnel is meant to come from that range.
Only `select_socket` binds a socket, and it binds the candidate `_get_candidate_port` draws:
`0` for an empty range, a port of the range otherwise. `KeepsPortRange` is what that says of one
step: the two bounds are left alone, and every `bind` asked for a candidate of the range and got
that candidate whenever it was not `0`. Every segment of every operation is such a step
(`runSegment_keepsPortRange`), and so is every run of segments and every sequence of whole
operations, which is one (`SegmentRun.keepsPortRange`).

**Ports over any run.** When the constructor accepted the configured `port_range`, any
interleaving of the operations' segments, and any sequence of whole operations, leaves the bounds
as validated, and every port a `bind` of the run got lies inside the range whenever the range is
not empty (`bindsInRange`). The validation is what makes this hold: a range it accepts is empty
or lies above `1024`, so a candidate of a non-empty range is never the `0` for which the system
picks the port.
-/

set_option autoImplicit false

namespace RemoteProvisioners

/-! ## One step -/

/-- A call the range `[lower, upper]` allows: a `bind` asked for a candidate that
`_get_candidate_port` can draw, and bound that candidate unless it was `0`. -/
def Call.FitsRange (lower upper : Int) : Call → Prop
  | .bind _ candidate bound =>
      (upper - lower = 0 → candidate = 0) ∧
        (upper - lower ≠ 0 → lower ≤ candidate ∧ candidate ≤ upper) ∧
        ∀ port, bound = some port → candidate ≠ 0 → (port : Int) = candidate
  | _ => True

/-- What a step may do to the port range: keep its bounds, and bind only candidates drawn from
it. -/
structure KeepsPortRange (s s' : Sys) : Prop where
  lower : s'.self.lowerPort = s.self.lowerPort
  upper : s'.self.upperPort = s.self.upperPort
  binds : ∃ new, s'.calls = s.calls ++ new ∧
    ∀ call ∈ new, call.FitsRange s.self.lowerPort s.self.upperPort

namespace KeepsPortRange

theorem refl (s : Sys) : KeepsPortRange s s :=
  ⟨rfl, rfl, [], (List.append_nil _).symm, fun _ mem => absurd mem (List.not_mem_nil _)⟩

theorem trans (a b c : Sys) (first : KeepsPortRange a b) (second : KeepsPortRange b c) :
    KeepsPortRange a c := by
  obtain ⟨lowerAB, upperAB, new, callsAB, fitsAB⟩ := first
  obtain ⟨lowerBC, upperBC, more, callsBC, fitsBC⟩ := second
  refine ⟨lowerBC.trans lowerAB, upperBC.trans upperAB, new ++ more,
    by rw [callsBC, callsAB, List.append_assoc], fun call mem => ?_⟩
  rcases List.mem_append.1 mem with inNew | inMore
  · exact fitsAB call inNew
  · rw [← lowerAB, ← upperAB]
    exact fitsBC call inMore

theorem composes : Composes KeepsPortRange := ⟨refl, trans⟩

/-- Recording a call that is not a `bind`. -/
theorem emit (call : Call) (other : call.isBind = false) : Keeps KeepsPortRange (Py.emit call) :=
  fun _ => ⟨rfl, rfl, [call], rfl,
    List.forall_mem_singleton.2 (by cases call <;> trivial)⟩

/-- Assigning fields other than the two bounds. -/
theorem modifySelf (f : Provisioner → Provisioner)
    (keeps : ∀ self, (f self).lowerPort = self.lowerPort ∧ (f self).upperPort = self.upperPort) :
    Keeps KeepsPortRange (Py.modifySelf f) := fun s =>
  ⟨(keeps s.self).1, (keeps s.self).2, [], (List.append_nil _).symm,
    fun _ mem => absurd mem (List.not_mem_nil _)⟩

end KeepsPortRange

/-! ## The allocator -/

section Allocation

variable (cfg : Settings) (w : World)

/-- A bind that asked for a candidate other than `0` and returned got that candidate. -/
theorem boundPort_of_ne_zero {calls : List Call} {sock : Nat} {port : Int} {bound : Nat}
    (bound_eq : boundPort w calls sock port = some bound) (nonzero : port ≠ 0) :
    (bound : Int) = port := by
  unfold boundPort at bound_eq
  split at bound_eq
  · cases bound_eq
  · obtain ⟨_, -, rfl⟩ := Option.map_eq_some'.1 bound_eq
    omega

theorem resultState_bindSocket (sock : Nat) (port : Int) (s : Sys) :
    resultState (bindSocket w sock port s) =
      s.extend [.bind sock port (boundPort w s.calls sock port)] := by
  rw [bindSocket_eq]
  split <;> rename_i bound_eq <;> rw [bound_eq] <;> rfl

/-- **The body of the bind loop binds a candidate of the range.** -/
theorem candidateBind_keepsPortRange (sock : Nat) :
    Keeps KeepsPortRange (do bindSocket w sock (← getCandidatePort w)) := fun s => by
  rw [run_bind]
  rcases getCandidatePort_spec w s with ⟨candidate, drawn, zero, inRange⟩ | ⟨e, failed⟩
  · rw [drawn]
    show KeepsPortRange s (resultState (bindSocket w sock candidate s))
    rw [resultState_bindSocket]
    exact ⟨rfl, rfl, _, rfl, List.forall_mem_singleton.2
      ⟨zero, inRange, fun _ bound nonzero => boundPort_of_ne_zero w bound nonzero⟩⟩
  · rw [failed]
    exact KeepsPortRange.refl s

theorem selectSocketLoop_keepsPortRange (sock budget : Nat) :
    Keeps KeepsPortRange (selectSocketLoop cfg w sock budget) := by
  induction budget with
  | zero | succ budget ih =>
    unfold selectSocketLoop
    refine Keeps.bind KeepsPortRange.trans (Keeps.attempt (candidateBind_keepsPortRange w sock))
      fun result => ?_
    rcases result with e | port
    · first
        | exact Keeps.logAndRaise KeepsPortRange.refl _
        | exact ih
    · exact Keeps.pure KeepsPortRange.refl port

theorem selectPorts_keepsPortRange (count : Nat) :
    Keeps KeepsPortRange (selectPorts cfg w count) :=
  selectPorts_frame cfg w KeepsPortRange.composes.sequenced (fun _ => KeepsPortRange.emit _ rfl)
    (selectSocketLoop_keepsPortRange cfg w) (fun _ => KeepsPortRange.emit _ rfl) count

end Allocation

/-! ## The segments -/

section Segments

variable (cfg : Settings) (w : World)

theorem kill_keepsPortRange (restart : Bool) : Keeps KeepsPortRange (kill w restart) :=
  kill_frame w KeepsPortRange.composes.sequenced (fun _ => KeepsPortRange.emit _ rfl)
    (fun _ => KeepsPortRange.emit _ rfl) restart

theorem createSshTunnel_keepsPortRange (kernelChannel : KernelChannel) (localPort : Nat)
    (remotePort remoteIp : PyVal) (server : Option String) (port : Int) :
    Keeps KeepsPortRange
      (createSshTunnel cfg w kernelChannel localPort remotePort remoteIp server port) :=
  createSshTunnel_frame cfg w KeepsPortRange.composes.catching
    (fun _ _ => KeepsPortRange.emit _ rfl)
    (fun _ _ => KeepsPortRange.modifySelf _ fun _ => ⟨rfl, rfl⟩)
    kernelChannel localPort remotePort remoteIp server port

/-- `_setup_connection_info` binds only through `select_ports`. -/
theorem setupConnectionInfo_keepsPortRange (connectInfo : Payload) :
    Keeps KeepsPortRange (setupConnectionInfo cfg w connectInfo) :=
  setupConnectionInfo_frame cfg w KeepsPortRange.composes.sequenced
    (tunnelToKernel_frame cfg w KeepsPortRange.composes.sequenced
      (selectPorts_keepsPortRange cfg w 5) fun _ _ => createSshTunnel_keepsPortRange cfg w _)
    (tunnelToPort_frame cfg w KeepsPortRange.composes.sequenced
      (selectPorts_keepsPortRange cfg w 1) (createSshTunnel_keepsPortRange cfg w))
    (fun _ => KeepsPortRange.modifySelf _ fun _ => ⟨rfl, rfl⟩)
    (fun _ => KeepsPortRange.modifySelf _ fun _ => ⟨rfl, rfl⟩)
    (fun _ => KeepsPortRange.modifySelf _ fun _ => ⟨rfl, rfl⟩)
    (updateConnection_frame cfg w KeepsPortRange.composes.sequenced
      (extractPidInfo_frame w KeepsPortRange.composes.sequenced
        (fun _ => KeepsPortRange.modifySelf _ fun _ => ⟨rfl, rfl⟩)
        (fun _ => KeepsPortRange.modifySelf _ fun _ => ⟨rfl, rfl⟩)
        (fun _ => KeepsPortRange.modifySelf _ fun _ => ⟨rfl, rfl⟩)
        (KeepsPortRange.modifySelf _ fun _ => ⟨rfl, rfl⟩))
      fun _ => KeepsPortRange.modifySelf _ fun _ => ⟨rfl, rfl⟩)
    connectInfo

theorem getContainerStatus_keepsPortRange (iteration : Option String) :
    Keeps KeepsPortRange (getContainerStatus w iteration) :=
  getContainerStatus_frame w KeepsPortRange.composes.sequenced
    (fun _ => KeepsPortRange.modifySelf _ fun _ => ⟨rfl, rfl⟩) iteration

theorem sendListenerRequest_keepsPortRange (request : ListenerRequest) :
    Keeps KeepsPortRange (sendListenerRequest w request) :=
  sendListenerRequest_frame w KeepsPortRange.composes.catching
    (fun _ => KeepsPortRange.emit _ rfl) (fun _ => KeepsPortRange.emit _ rfl)
    (fun _ => KeepsPortRange.emit _ rfl) request

theorem terminateTunnelProcess_keepsPortRange (handle : Nat) :
    Keeps KeepsPortRange (terminateTunnelProcess w handle) :=
  terminateTunnelProcess_frame w KeepsPortRange.composes.sequenced
    (fun _ => KeepsPortRange.emit _ rfl) handle

theorem preLaunch_keepsPortRange (env : Env) (others : PyDict PyVal) :
    Keeps KeepsPortRange (preLaunch cfg w env others) := fun s => by
  rw [resultState_preLaunch]
  refine ⟨?_, ?_, _, rfl, List.forall_mem_singleton.2 trivial⟩ <;>
    simp only [preparedState] <;> split <;> rfl

/-- **Every segment keeps the port range.** -/
theorem runSegment_keepsPortRange (segment : Segment) :
    Keeps KeepsPortRange (runSegment cfg w segment) := by
  have steps := KeepsPortRange.composes.sequenced
  cases segment with
  | preLaunch env others => exact steps.map _ (preLaunch_keepsPortRange cfg w env others)
  | startLauncher cmd =>
      exact startLauncher_frame cfg w steps (fun _ => KeepsPortRange.emit _ rfl)
        (fun _ _ => KeepsPortRange.modifySelf _ fun _ => ⟨rfl, rfl⟩) cmd
  | markStartTime =>
      exact markStartTime_frame w steps (fun _ => KeepsPortRange.emit _ rfl)
        fun _ => KeepsPortRange.modifySelf _ fun _ => ⟨rfl, rfl⟩
  | handleLaunchTimeout =>
      exact handleLaunchTimeout_frame cfg w steps (KeepsPortRange.emit _ rfl)
        (fun _ => KeepsPortRange.emit _ rfl) (kill_keepsPortRange w false)
  | getContainerStatus iteration => exact steps.map _ (getContainerStatus_keepsPortRange w iteration)
  | detectLaunchFailure =>
      exact detectLaunchFailure_frame cfg w steps (KeepsPortRange.emit _ rfl)
        (KeepsPortRange.modifySelf _ fun _ => ⟨rfl, rfl⟩)
  | awaitPayload =>
      exact steps.map _ (awaitPayload_frame cfg w steps
        (receiveConnectionInfo_frame cfg w KeepsPortRange.composes.catching
          (setupConnectionInfo_keepsPortRange cfg w) (kill_keepsPortRange w false))
        (KeepsPortRange.modifySelf _ fun _ => ⟨rfl, rfl⟩))
  | sendSignal signum =>
      exact sendSignal_frame cfg w steps (poll_frame w steps (getContainerStatus_keepsPortRange w none))
        (kill_keepsPortRange w false)
        (baseSendSignal_frame cfg w steps
          (sendSignalViaListener_frame w KeepsPortRange.composes.catching
            (sendListenerRequest_keepsPortRange w))
          (signalLauncher_frame cfg w KeepsPortRange.composes.catching
            (fun _ _ => KeepsPortRange.emit _ rfl) fun _ => KeepsPortRange.emit _ rfl))
        signum
  | kill restart => exact kill_keepsPortRange w restart
  | shutdownRequest =>
      exact shutdownRequest_frame w KeepsPortRange.composes.catching
        (sendListenerRequest_keepsPortRange w _)
  | terminateCommTunnel =>
      exact terminateCommTunnel_frame w steps (terminateTunnelProcess_keepsPortRange w)
        (KeepsPortRange.modifySelf _ fun _ => ⟨rfl, rfl⟩)
  | baseCleanup =>
      exact baseCleanup_frame w steps (fun _ => KeepsPortRange.emit _ rfl)
        (KeepsPortRange.modifySelf _ fun _ => ⟨rfl, rfl⟩)
        (KeepsPortRange.modifySelf _ fun _ => ⟨rfl, rfl⟩)
  | otherUpdate connectInfo =>
      exact KeepsPortRange.modifySelf (fun self =>
        { self with connectionInfo := self.connectionInfo.update connectInfo }) fun _ => ⟨rfl, rfl⟩

/-- A run of segments, and so a sequence of whole operations, keeps the port range. -/
theorem SegmentRun.keepsPortRange {s s' : Sys} (run : SegmentRun cfg w s s') :
    KeepsPortRange s s' :=
  SegmentRun.keeps cfg w KeepsPortRange.composes (runSegment_keepsPortRange cfg w) run

end Segments

/-! ## Ports over any run -/

/-- A run that leaves the bounds as they were and binds only ports of the range, when the range is
not empty. -/
structure StaysInRange (s s' : Sys) : Prop where
  lower : s'.self.lowerPort = s.self.lowerPort
  upper : s'.self.upperPort = s.self.upperPort
  bound : ∃ new, s'.calls = s.calls ++ new ∧
    ∀ sock candidate (port : Nat), .bind sock candidate (some port) ∈ new →
      PortInRange s.self port

/-- Over an accepted range, a step that keeps the range binds only ports inside it. -/
theorem KeepsPortRange.staysInRange {minPortRangeSize : Int} {s s' : Sys}
    (accepted : RangeAccepted minPortRangeSize s.self.lowerPort s.self.upperPort)
    (kept : KeepsPortRange s s') : StaysInRange s s' := by
  obtain ⟨lower, upper, new, calls, fits⟩ := kept
  refine ⟨lower, upper, new, calls, fun sock candidate port mem nonempty => ?_⟩
  obtain ⟨-, inRange, same⟩ := fits _ mem
  obtain ⟨low, high⟩ := inRange (by omega)
  have positive : 1024 ≤ s.self.lowerPort := by
    rcases accepted with empty | ⟨-, above, -⟩
    · exact absurd empty.symm nonempty
    · exact above
  rw [same port rfl (by omega)]
  exact ⟨low, high⟩

/-- **Ports over any run.** On a provisioner whose bounds are what the constructor's
`_validate_port_range` returned for the configured `port_range`, any interleaving of the
operations' segments and any sequence of whole operations leave the bounds as they were, and
every port a `bind` of the run got lies inside the range whenever the range is not empty. -/
theorem bindsInRange (cfg : Settings) (w : World) (s : Sys)
    (accepted : validatePortRange cfg.portRange cfg.minPortRangeSize =
      .ok (s.self.lowerPort, s.self.upperPort)) :
    (∀ segments, StaysInRange s (runSegments cfg w segments s)) ∧
      ∀ operations, StaysInRange s (runOperations cfg w operations s) :=
  have range := rangeAccepted_of_validatePortRange accepted
  ⟨fun segments => (SegmentRun.keepsPortRange cfg w ⟨segments, rfl⟩).staysInRange range,
    fun operations =>
      (SegmentRun.keepsPortRange cfg w (runOperations_segmentRun cfg w operations s)).staysInRange
        range⟩

/-- `commWorld` under a random draw that moves on with the trace. -/
def drawingWorld : World := { commWorld with draw := fun calls => calls.length }

set_option smartUnfolding false in
/-- A provisioner built from the range `40000..42000`, with tunneling on, at `drawingWorld`: a
launch confirmed on its first pass binds six ports, and over every run the bounds stay as
validated and every port bound lies in the range. -/
theorem bindsInRange_wide :
    validatePortRange "40000..42000" 1000 = .ok (40000, 42000) ∧
      ((runSegments { Settings.default with portRange := "40000..42000", tunnelingEnabled := true }
        drawingWorld launchSegments ⟨Provisioner.fresh 40000 42000 .empty, []⟩).calls.filter
          Call.isBind).length = 6 ∧
      (∀ segments, StaysInRange ⟨Provisioner.fresh 40000 42000 .empty, []⟩
        (runSegments { Settings.default with portRange := "40000..42000", tunnelingEnabled := true }
          drawingWorld segments ⟨Provisioner.fresh 40000 42000 .empty, []⟩)) ∧
      ∀ operations, StaysInRange ⟨Provisioner.fresh 40000 42000 .empty, []⟩
        (runOperations { Settings.default with portRange := "40000..42000", tunnelingEnabled := true }
          drawingWorld operations ⟨Provisioner.fresh 40000 42000 .empty, []⟩) :=
  ⟨by decide, by decide,
    bindsInRange { Settings.default with portRange := "40000..42000", tunnelingEnabled := true }
      drawingWorld _ (by decide)⟩

end RemoteProvisioners
