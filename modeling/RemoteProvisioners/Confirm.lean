import RemoteProvisioners.Signal

/-!
# Waiting for the kernel to start

`launch_kernel` starts the launcher process and awaits `confirm_remote_startup`, which loops until
the kernel's connection payload has arrived. Each pass sleeps `poll_interval` and checks the launch
timeout (`handle_launch_timeout`, which kills the kernel and raises `TimeoutError` once the time
since the start exceeds `launch_timeout`), asks the container manager for the container's status,
and then either waits for the payload, when the container has a status and a host, or checks
whether the local launcher has faulted (`detect_launch_failure`).

The loop runs here on fuel, one unit a pass; running out of fuel is the result `false`, which the
source never produces. Under a clock that a sleep of `poll_interval` moves on by at least that
much, `floor(launch_timeout / poll_interval) + 1` passes are enough: the loop has then returned
or raised (`confirmRemoteStartup_bounded`). It returns only from a pass whose payload was set up,
it kills the kernel at most once, and a run in which no payload arrives and nothing else raises
ends in `TimeoutError` after exactly one kill.

`detect_launch_failure` only raises for a positive return code of the launcher: a launcher killed
by a signal, with a negative one, leaves the loop polling until the launch timeout
(`detectLaunchFailure_ignores_signalled_launcher`).

A launch terminates no tunnel (`launchKernel_opensTunnels`). A pass that waited for the payload
zeroes `pid` and `pgid` but keeps `local_proc`, so that after a confirmed launch `send_signal`
still reaches the launcher's process (`sendSignal_reaches_launcher_after_confirm`).
-/

set_option autoImplicit false

namespace RemoteProvisioners

section Confirm

variable (cfg : Settings) (w : World)

/-- `get_current_time()`, in milliseconds; the reading is recorded. -/
def getCurrentTime : Py Nat := do
  let now := w.clock (← Py.history)
  Py.emit (.readClock now)
  return now

/-- `str(launch_timeout)` for the float number of seconds `launch_timeout` holds, given in
milliseconds: the whole seconds, a point, and the fraction without its trailing zeros. -/
def secondsText (ms : Nat) : String :=
  let whole := ms / 1000
  let fraction := ((toString (ms % 1000 + 1000)).drop 1).dropRightWhile (· = '0')
  let fractionText := if fraction.isEmpty then "0" else fraction
  s!"{whole}.{fractionText}"

/-- The message of the `TimeoutError` of `handle_launch_timeout`. -/
def launchTimeoutMessage : String :=
  let timeoutText := secondsText cfg.launchTimeout
  let reason := s!"Waited too long ({timeoutText}s) to get connection file"
  let kernelId := cfg.kernelId
  s!"KernelID: '{kernelId}' launch timeout due to: {reason}"

/-- `handle_launch_timeout()`. The time since `start_time` is compared in milliseconds. -/
def handleLaunchTimeout : Py Unit := do
  let calls ← Py.history
  Py.emit (.sleep cfg.pollInterval)
  if let some e := w.sleepFails calls then throw e
  let now ← getCurrentTime w
  let start ← match (← Py.getSelf).startTime with
    | some start => pure start
    | none => throw (.typeError "unsupported operand type(s) for -: 'int' and 'NoneType'")
  if (cfg.launchTimeout : Int) < (now : Int) - start then
    kill w false
    logAndRaise (.timeoutError (launchTimeoutMessage cfg))

/-- Whether an exception is a `socket.timeout` or a `TimeoutError`, which
`receive_connection_info` waits through. -/
def Exn.isTimeout : Exn → Bool
  | .timeoutError _ => true
  | _ => false

/-- `receive_connection_info()`: whether the payload arrived and was set up. A wait that times out
is `false`; any other exception, from the wait or from the set-up, kills the kernel and raises. -/
def receiveConnectionInfo : Py Bool := do
  let received ← Py.attempt do
    let connectInfo ← Py.ofExcept (w.connectionInfo (← Py.history))
    setupConnectionInfo cfg w connectInfo
  match received with
  | .ok () => return true
  | .error e =>
      if e.isTimeout then return false
      else
        let kernelId := cfg.kernelId
        let host := (← Py.getSelf).assignedHost
        let text := e.text
        kill w false
        logAndRaise (.runtimeError s!"Exception occurred waiting for connection file response for KernelId '{kernelId}' on host '{host}': {text}")

/-- The message of the `RuntimeError` of `detect_launch_failure`. -/
def launchFailureMessage : String :=
  let kernelId := cfg.kernelId
  s!"Error occurred during launch of KernelID: {kernelId}.  Check Enterprise Gateway log for more information."

/-- `detect_launch_failure()`. -/
def detectLaunchFailure : Py Unit := do
  if (← Py.getSelf).localProc.isSome then
    if let some pollResult := w.launcherPoll (← Py.history) then
      if 0 < pollResult then
        Py.emit .procWait
        Py.modifySelf fun self => { self with localProc := none }
        logAndRaise (.runtimeError (launchFailureMessage cfg))

/-- The wait for the payload in a pass of `confirm_remote_startup`, and the zeroing of `pid` and
`pgid` that follows it: the new value of `ready_to_connect`. -/
def awaitPayload : Py Bool := do
  let ready ← receiveConnectionInfo cfg w
  Py.modifySelf fun self => { self with pid := 0, pgid := 0 }
  return ready

/-- The `i`-th pass of the `while not ready_to_connect` loop of `confirm_remote_startup` after its
timeout check: the status query, then the wait for the payload or the check on the launcher; the
new value of `ready_to_connect`. -/
def checkContainer (i : Nat) : Py Bool := do
  let containerStatus ← getContainerStatus w (some (toString i))
  if (PyVal.ofOption containerStatus).truthy then
    if (← Py.getSelf).assignedHost ≠ "" then awaitPayload cfg w
    else return false
  else
    detectLaunchFailure cfg w
    return false

/-- The `i`-th pass of the `while not ready_to_connect` loop of `confirm_remote_startup`. -/
def confirmPass (i : Nat) : Py Bool := do
  handleLaunchTimeout cfg w
  checkContainer cfg w i

/-- The loop of `confirm_remote_startup` after `i` passes, with fuel for `fuel` more: `true` once a
pass is ready to connect, `false` when the fuel runs out first. -/
def confirmLoop (i : Nat) : Nat → Py Bool
  | 0 => return false
  | fuel + 1 => do
      if ← confirmPass cfg w (i + 1) then return true
      else confirmLoop (i + 1) fuel

/-- The start of `confirm_remote_startup`: `start_time`. -/
def markStartTime : Py Unit := do
  let now ← getCurrentTime w
  Py.modifySelf fun self => { self with startTime := some now }

/-- `ContainerProvisioner.confirm_remote_startup()`, with fuel for `fuel` passes. -/
def confirmRemoteStartup (fuel : Nat) : Py Bool := do
  markStartTime w
  confirmLoop cfg w 0 fuel

/-- The part of `launch_kernel(cmd)` before it awaits `confirm_remote_startup`: the launcher's
process, whose handle is the place of its launch in the trace, and the fields it sets. -/
def startLauncher (cmd : List String) : Py Unit := do
  let calls ← Py.history
  if let some e := w.launchFails calls then throw e
  Py.emit (.launchKernel cmd)
  let pid := w.launcherPid calls
  Py.modifySelf fun self =>
    { self with localProc := some calls.length, pid := pid, ip := some cfg.localIp }

/-- `launch_kernel(cmd)`, with fuel for `fuel` passes of the confirmation loop: the connection
information, or `none` when the fuel ran out. -/
def launchKernel (cmd : List String) (fuel : Nat) : Py (Option Payload) := do
  startLauncher cfg w cmd
  if ← confirmRemoteStartup cfg w fuel then
    return some (← Py.getSelf).connectionInfo
  else return none

end Confirm

/-! ## Frames

What each method records and assigns, as in `Teardown`.
-/

section Frames

variable (cfg : Settings) (w : World) {Q : ∀ {α : Type}, Py α → Prop}

theorem getCurrentTime_frame (steps : Sequenced Q) (reads : ∀ now, Q (Py.emit (.readClock now))) :
    Q (getCurrentTime w) :=
  steps.bind steps.history fun _ => steps.bind (reads _) fun _ => steps.pure _

/-- `handle_launch_timeout` sleeps, reads the clock, and may kill the kernel. -/
theorem handleLaunchTimeout_frame (steps : Sequenced Q) (sleeps : Q (Py.emit (.sleep cfg.pollInterval)))
    (reads : ∀ now, Q (Py.emit (.readClock now))) (kills : Q (kill w false)) :
    Q (handleLaunchTimeout cfg w) := by
  have rest : ∀ now start : Nat, Q (if (cfg.launchTimeout : Int) < (now : Int) - (start : Int) then do
      kill w false
      logAndRaise (.timeoutError (launchTimeoutMessage cfg))
    else pure PUnit.unit) := by
    intro now start
    split
    exacts [steps.bind kills fun _ => steps.logAndRaise _, steps.pure _]
  refine steps.bind steps.history fun _ => steps.bind sleeps fun _ => ?_
  dsimp only
  split <;> refine steps.bind ?_ fun _ => steps.bind (getCurrentTime_frame w steps reads) fun _ =>
    steps.bind steps.getSelf fun _ => ?_
  any_goals split
  exacts [steps.throw _, steps.bind (steps.pure _) fun _ => rest _ _,
    steps.bind (steps.throw _) fun _ => rest _ _, steps.pure _,
    steps.bind (steps.pure _) fun _ => rest _ _, steps.bind (steps.throw _) fun _ => rest _ _]

/-- `receive_connection_info` sets up the connection, and kills the kernel when that raises
anything but a timeout. -/
theorem receiveConnectionInfo_frame (steps : Catching Q)
    (setsUp : ∀ connectInfo, Q (setupConnectionInfo cfg w connectInfo)) (kills : Q (kill w false)) :
    Q (receiveConnectionInfo cfg w) := by
  refine steps.bind (steps.attempt (steps.bind steps.history fun _ =>
    steps.bind (steps.ofExcept _) fun _ => setsUp _)) fun received => ?_
  rcases received with e | ⟨⟩
  · dsimp only
    split
    · exact steps.pure _
    · exact steps.bind steps.getSelf fun _ => steps.bind kills fun _ => steps.logAndRaise _
  · exact steps.pure _

/-- `detect_launch_failure` may wait on the launcher and forget it. -/
theorem detectLaunchFailure_frame (steps : Sequenced Q) (waits : Q (Py.emit .procWait))
    (dropsProc : Q (Py.modifySelf fun self => { self with localProc := none })) :
    Q (detectLaunchFailure cfg w) := by
  refine steps.bind steps.getSelf fun _ => ?_
  split
  · refine steps.bind steps.history fun _ => ?_
    repeat' split
    all_goals first
      | exact steps.pure _
      | exact steps.bind waits fun _ => steps.bind dropsProc fun _ => steps.logAndRaise _
  · exact steps.pure _

theorem awaitPayload_frame (steps : Sequenced Q) (receives : Q (receiveConnectionInfo cfg w))
    (zeroes : Q (Py.modifySelf fun self => { self with pid := 0, pgid := 0 })) :
    Q (awaitPayload cfg w) :=
  steps.bind receives fun _ => steps.bind zeroes fun _ => steps.pure _

theorem checkContainer_frame (steps : Sequenced Q)
    (status : ∀ iteration, Q (getContainerStatus w iteration)) (awaits : Q (awaitPayload cfg w))
    (detects : Q (detectLaunchFailure cfg w)) (i : Nat) : Q (checkContainer cfg w i) := by
  refine steps.bind (status _) fun _ => ?_
  split
  · refine steps.bind steps.getSelf fun _ => ?_
    split
    exacts [awaits, steps.pure _]
  · exact steps.bind detects fun _ => steps.pure _

theorem confirmPass_frame (steps : Sequenced Q) (timeouts : Q (handleLaunchTimeout cfg w))
    (checks : ∀ i, Q (checkContainer cfg w i)) (i : Nat) : Q (confirmPass cfg w i) :=
  steps.bind timeouts fun _ => checks i

theorem confirmLoop_frame (steps : Sequenced Q) (passes : ∀ i, Q (confirmPass cfg w i)) :
    ∀ i fuel, Q (confirmLoop cfg w i fuel)
  | _, 0 => steps.pure _
  | i, fuel + 1 => steps.bind (passes (i + 1)) fun
    | true => steps.pure _
    | false => confirmLoop_frame steps passes (i + 1) fuel

theorem markStartTime_frame (steps : Sequenced Q) (reads : ∀ now, Q (Py.emit (.readClock now)))
    (marks : ∀ now, Q (Py.modifySelf fun self => { self with startTime := some now })) :
    Q (markStartTime w) :=
  steps.bind (getCurrentTime_frame w steps reads) fun _ => marks _

/-- The start of `launch_kernel` records the launch and assigns the launcher's process. -/
theorem startLauncher_frame (steps : Sequenced Q) (launches : ∀ cmd, Q (Py.emit (.launchKernel cmd)))
    (starts : ∀ proc pid, Q (Py.modifySelf fun self =>
      { self with localProc := some proc, pid := pid, ip := some cfg.localIp }))
    (cmd : List String) : Q (startLauncher cfg w cmd) := by
  refine steps.bind steps.history fun _ => ?_
  dsimp only
  split <;> refine steps.bind ?_ fun _ => steps.bind (launches _) fun _ => starts _ _
  exacts [steps.throw _, steps.pure _]

/-- `launch_kernel` starts the launcher, confirms the start-up, and reads the connection. -/
theorem launchKernel_frame (steps : Sequenced Q) (starts : ∀ cmd, Q (startLauncher cfg w cmd))
    (marks : Q (markStartTime w)) (passes : ∀ i, Q (confirmPass cfg w i)) (cmd : List String)
    (fuel : Nat) : Q (launchKernel cfg w cmd fuel) := by
  refine steps.bind (starts cmd) fun _ =>
    steps.bind (steps.bind marks fun _ => confirmLoop_frame cfg w steps passes 0 fuel) fun _ => ?_
  split
  exacts [steps.bind steps.getSelf fun _ => steps.pure _, steps.pure _]

end Frames

/-! ## One pass -/

section Pass

variable (cfg : Settings) (w : World)

theorem getCurrentTime_eq (s : Sys) :
    getCurrentTime w s = .ok (w.clock s.calls) (s.extend [.readClock (w.clock s.calls)]) := rfl

/-- `handle_launch_timeout` returns, the time it read within the timeout; or its sleep raises; or
the time is past the timeout, and it kills the kernel once and raises the `TimeoutError`, or what
the kill raised. -/
theorem handleLaunchTimeout_spec (s : Sys) {start : Nat} (started : s.self.startTime = some start) :
    let now := w.clock (s.calls ++ [.sleep cfg.pollInterval])
    (handleLaunchTimeout cfg w s = .ok () (s.extend [.sleep cfg.pollInterval, .readClock now]) ∧
        (now : Int) - start ≤ cfg.launchTimeout) ∨
      (∃ e, w.sleepFails s.calls = some e ∧
        handleLaunchTimeout cfg w s = .error e (s.extend [.sleep cfg.pollInterval])) ∨
      ((cfg.launchTimeout : Int) < (now : Int) - start ∧
        ∃ new e, new.countP Call.isKill = 1 ∧
          handleLaunchTimeout cfg w s =
            .error e (s.extend (.sleep cfg.pollInterval :: .readClock now :: new)) ∧
          (e = .timeoutError (launchTimeoutMessage cfg) ∨
            ∃ calls, w.terminateContainerFails calls = some e)) := by
  dsimp only
  rcases asleep : w.sleepFails s.calls with _ | e
  · by_cases late : (cfg.launchTimeout : Int) <
        (w.clock (s.calls ++ [.sleep cfg.pollInterval]) : Int) - start
    · obtain ⟨new, -, -, kills, killed⟩ := kill_spec w false (s.extend
        [.sleep cfg.pollInterval, .readClock (w.clock (s.calls ++ [.sleep cfg.pollInterval]))])
      rcases killed with killed | ⟨e, calls, raises, killed⟩
      · refine .inr (.inr ⟨late, new, _, kills, ?_, .inl rfl⟩)
        simp [handleLaunchTimeout, run_bind, asleep, getCurrentTime_eq, started, late, killed,
          Sys.extend_extend]
      · refine .inr (.inr ⟨late, new, e, kills, ?_, .inr ⟨calls, raises⟩⟩)
        simp [handleLaunchTimeout, run_bind, asleep, getCurrentTime_eq, started, late, killed,
          Sys.extend_extend]
    · exact .inl ⟨by simp [handleLaunchTimeout, run_bind, asleep, getCurrentTime_eq, started,
        late, Sys.extend_extend], by omega⟩
  · exact .inr (.inl ⟨e, rfl, by simp [handleLaunchTimeout, run_bind, asleep]⟩)

theorem countP_isKill_eq_zero {new : List Call} (setup : ∀ call ∈ new, call.isTunnelSetup) :
    new.countP Call.isKill = 0 :=
  List.countP_eq_zero.2 fun call mem => by
    have := setup call mem
    cases call <;> first | exact Bool.false_ne_true | exact absurd this Bool.false_ne_true

/-- `receive_connection_info` returns `true` exactly after a payload arrived and was set up;
returns `false`, having done no more than set up tunnels, when the wait or the set-up timed out;
and otherwise kills the kernel once and raises. -/
theorem receiveConnectionInfo_spec (s : Sys) :
    (∃ payload s', w.connectionInfo s.calls = .ok payload ∧
        setupConnectionInfo cfg w payload s = .ok () s' ∧
        receiveConnectionInfo cfg w s = .ok true s') ∨
      (∃ s', receiveConnectionInfo cfg w s = .ok false s' ∧ SetsUpTunnels s s') ∨
      ∃ e s' new, receiveConnectionInfo cfg w s = .error e s' ∧ s'.calls = s.calls ++ new ∧
        new.countP Call.isKill = 1 := by
  rcases waited : w.connectionInfo s.calls with e | payload
  · cases timeout : e.isTimeout
    · obtain ⟨new, -, -, kills, killed⟩ := kill_spec w false s
      refine .inr (.inr ?_)
      rcases killed with killed | ⟨e', -, -, killed⟩ <;>
        exact ⟨_, s.extend new, new, by
          simp [receiveConnectionInfo, run_bind, waited, timeout, killed]; rfl, rfl, kills⟩
    · exact .inr (.inl ⟨s, by simp [receiveConnectionInfo, run_bind, waited, timeout],
        .refl s⟩)
  · have setsUp := setupConnectionInfo_setsUpTunnels cfg w payload s
    rcases setup : setupConnectionInfo cfg w payload s with ⟨⟨⟩, s'⟩ | ⟨e, s'⟩
    · exact .inl ⟨payload, s', rfl, setup,
        by simp [receiveConnectionInfo, run_bind, waited, setup]⟩
    · rw [setup] at setsUp
      cases timeout : e.isTimeout
      · obtain ⟨setupCalls, extended, onlySetup⟩ := setsUp.only_setup
        obtain ⟨new, -, -, kills, killed⟩ := kill_spec w false s'
        refine .inr (.inr ?_)
        have count : (setupCalls ++ new).countP Call.isKill = 1 := by
          rw [List.countP_append, countP_isKill_eq_zero onlySetup, kills]
        rcases killed with killed | ⟨e', -, -, killed⟩ <;>
          exact ⟨_, s'.extend new, setupCalls ++ new, by
            simp [receiveConnectionInfo, run_bind, waited, setup, timeout, killed]; rfl,
            by simp [resultState] at extended; simp [extended], count⟩
      · exact .inr (.inl ⟨s', by simp [receiveConnectionInfo, run_bind, waited, setup, timeout],
          setsUp⟩)

/-- A wait that times out makes `receive_connection_info` return `false` with nothing done. -/
theorem receiveConnectionInfo_of_timeout (s : Sys) {text : String}
    (waited : w.connectionInfo s.calls = .error (.timeoutError text)) :
    receiveConnectionInfo cfg w s = .ok false s := by
  simp [receiveConnectionInfo, run_bind, waited, Exn.isTimeout]

/-- `detect_launch_failure` does nothing, or raises the launch failure after a launcher that
exited with a positive code. -/
theorem detectLaunchFailure_spec (s : Sys) :
    detectLaunchFailure cfg w s = .ok () s ∨
      ∃ code, w.launcherPoll s.calls = some code ∧ 0 < code ∧
        detectLaunchFailure cfg w s = .error (.runtimeError (launchFailureMessage cfg))
          ⟨{ s.self with localProc := none }, s.calls ++ [.procWait]⟩ := by
  by_cases running : s.self.localProc.isSome
  · rcases polled : w.launcherPoll s.calls with _ | code
    · exact .inl (by simp [detectLaunchFailure, run_bind, running, polled])
    · by_cases faulted : 0 < code
      · exact .inr ⟨code, rfl, faulted, by
          simp [detectLaunchFailure, run_bind, running, polled, faulted]⟩
      · exact .inl (by simp [detectLaunchFailure, run_bind, running, polled, faulted])
  · exact .inl (by simp [detectLaunchFailure, run_bind, running])

/-- After its timeout check, a pass returns, having killed nothing and kept `start_time`, and
returns `true` only after a payload arrived and was set up; or it raises, having killed the kernel
at most once. -/
theorem checkContainer_spec (i : Nat) (s : Sys) :
    (∃ ready s' rest, checkContainer cfg w i s = .ok ready s' ∧
        s'.self.startTime = s.self.startTime ∧ s'.calls = s.calls ++ rest ∧
        rest.countP Call.isKill = 0 ∧
        (ready = true → ∃ s1 payload s2, w.connectionInfo s1.calls = .ok payload ∧
          setupConnectionInfo cfg w payload s1 = .ok () s2 ∧
          s' = ⟨{ s2.self with pid := 0, pgid := 0 }, s2.calls⟩)) ∨
      ∃ e s' new, checkContainer cfg w i s = .error e s' ∧ s'.calls = s.calls ++ new ∧
        new.countP Call.isKill ≤ 1 := by
  rcases status : w.containerStatus s.calls (some (toString i)) with e | containerStatus
  · exact .inr ⟨e, s, [], by simp [checkContainer, run_bind, getContainerStatus_eq, status],
      by simp, by simp⟩
  set placed : Sys := ⟨s.self.place (w.placement s.calls s.self.placement), s.calls⟩
  have queried : getContainerStatus w (some (toString i)) s = .ok containerStatus placed := by
    simp [getContainerStatus_eq, status, placed]
  by_cases truthy : (PyVal.ofOption containerStatus).truthy
  · by_cases hosted : (w.placement s.calls s.self.placement).assignedHost = ""
    · exact .inl ⟨false, placed, [], by simp [checkContainer, run_bind, queried, truthy, hosted],
        by simp [placed], by simp [placed], rfl, by simp⟩
    · have entered : checkContainer cfg w i s = awaitPayload cfg w placed := by
        simp [checkContainer, run_bind, queried, truthy, hosted, placed]
      rcases receiveConnectionInfo_spec cfg w placed with
        ⟨payload, s2, waited, setup, received⟩ | ⟨s2, received, setsUp⟩ |
          ⟨e, s2, new, received, extended, kills⟩
      · have setsUp := setupConnectionInfo_setsUpTunnels cfg w payload placed
        rw [setup] at setsUp
        obtain ⟨-, ⟨rest, extended, onlySetup⟩, start⟩ := setsUp
        exact .inl ⟨true, ⟨{ s2.self with pid := 0, pgid := 0 }, s2.calls⟩, rest,
          by simp [entered, awaitPayload, run_bind, received], by simpa [placed] using start,
          extended, countP_isKill_eq_zero onlySetup,
          fun _ => ⟨placed, payload, s2, waited, setup, rfl⟩⟩
      · obtain ⟨-, ⟨rest, extended, onlySetup⟩, start⟩ := setsUp
        exact .inl ⟨false, ⟨{ s2.self with pid := 0, pgid := 0 }, s2.calls⟩, rest,
          by simp [entered, awaitPayload, run_bind, received], by simpa [placed] using start,
          extended, countP_isKill_eq_zero onlySetup, by simp⟩
      · exact .inr ⟨e, s2, new, by simp [entered, awaitPayload, run_bind, received], extended,
          by omega⟩
  · rcases detectLaunchFailure_spec cfg w placed with detected | ⟨code, -, -, detected⟩
    · exact .inl ⟨false, placed, [],
        by simp [checkContainer, run_bind, queried, truthy, detected], by simp [placed],
        by simp [placed], rfl, by simp⟩
    · exact .inr ⟨.runtimeError (launchFailureMessage cfg),
        ⟨{ placed.self with localProc := none }, placed.calls ++ [.procWait]⟩,
        [.procWait], by simp [checkContainer, run_bind, queried, truthy, detected], rfl,
        by simp [Call.isKill]⟩

/-- A pass returns, its clock reading within the timeout, having killed nothing and kept
`start_time`, and returns `true` only after a payload arrived and was set up; or it raises,
having killed the kernel at most once. -/
theorem confirmPass_spec (i : Nat) (s : Sys) {start : Nat}
    (started : s.self.startTime = some start) :
    let now := w.clock (s.calls ++ [.sleep cfg.pollInterval])
    (∃ ready s' rest, confirmPass cfg w i s = .ok ready s' ∧
        (now : Int) - start ≤ cfg.launchTimeout ∧ s'.self.startTime = some start ∧
        s'.calls = s.calls ++ .sleep cfg.pollInterval :: rest ∧ rest.countP Call.isKill = 0 ∧
        (ready = true → ∃ s1 payload s2, w.connectionInfo s1.calls = .ok payload ∧
          setupConnectionInfo cfg w payload s1 = .ok () s2 ∧
          s' = ⟨{ s2.self with pid := 0, pgid := 0 }, s2.calls⟩)) ∨
      ∃ e s' new, confirmPass cfg w i s = .error e s' ∧ s'.calls = s.calls ++ new ∧
        new.countP Call.isKill ≤ 1 := by
  rcases handleLaunchTimeout_spec cfg w s started with
    ⟨timed, inTime⟩ | ⟨e, -, timed⟩ | ⟨-, new, e, kills, timed, -⟩
  · rcases checkContainer_spec cfg w i (s.extend [.sleep cfg.pollInterval,
        .readClock (w.clock (s.calls ++ [.sleep cfg.pollInterval]))]) with
      ⟨ready, s', rest, checked, start, extended, quiet, received⟩ |
        ⟨e, s', new, checked, extended, kills⟩
    · exact .inl ⟨ready, s', .readClock (w.clock (s.calls ++ [.sleep cfg.pollInterval])) :: rest,
        by simp [confirmPass, run_bind, timed, checked], inTime, by simpa [started] using start,
        by simp [extended], by simp [List.countP_cons, quiet, Call.isKill], received⟩
    · exact .inr ⟨e, s', [.sleep cfg.pollInterval,
        .readClock (w.clock (s.calls ++ [.sleep cfg.pollInterval]))] ++ new,
        by simp [confirmPass, run_bind, timed, checked], by simp [extended],
        by simpa [Call.isKill] using kills⟩
  · exact .inr ⟨e, s.extend [.sleep cfg.pollInterval], [.sleep cfg.pollInterval],
      by simp [confirmPass, run_bind, timed], rfl, by simp [Call.isKill]⟩
  · exact .inr ⟨e, s.extend (.sleep cfg.pollInterval ::
      .readClock (w.clock (s.calls ++ [.sleep cfg.pollInterval])) :: new), _,
      by simp [confirmPass, run_bind, timed], rfl, by simp [Call.isKill, kills]⟩

end Pass

/-! ## What a launch does to the tunnels -/

section Tunnels

variable (cfg : Settings) (w : World)

theorem handleLaunchTimeout_opensTunnels : Keeps OpensTunnels (handleLaunchTimeout cfg w) :=
  handleLaunchTimeout_frame cfg w OpensTunnels.composes.sequenced (OpensTunnels.emit _ rfl)
    (fun _ => OpensTunnels.emit _ rfl) (kill_opensTunnels w false)

theorem awaitPayload_opensTunnels : Keeps OpensTunnels (awaitPayload cfg w) :=
  awaitPayload_frame cfg w OpensTunnels.composes.sequenced
    (receiveConnectionInfo_frame cfg w OpensTunnels.composes.catching
      (fun _ => (setupConnectionInfo_setsUpTunnels cfg w _).mono fun _ _ setsUp => setsUp.opens)
      (kill_opensTunnels w false))
    (OpensTunnels.modifySelf _ fun _ => rfl)

theorem detectLaunchFailure_opensTunnels : Keeps OpensTunnels (detectLaunchFailure cfg w) :=
  detectLaunchFailure_frame cfg w OpensTunnels.composes.sequenced (OpensTunnels.emit _ rfl)
    (OpensTunnels.modifySelf _ fun _ => rfl)

theorem confirmPass_opensTunnels (i : Nat) : Keeps OpensTunnels (confirmPass cfg w i) :=
  confirmPass_frame cfg w OpensTunnels.composes.sequenced (handleLaunchTimeout_opensTunnels cfg w)
    (checkContainer_frame cfg w OpensTunnels.composes.sequenced (getContainerStatus_opensTunnels w)
      (awaitPayload_opensTunnels cfg w) (detectLaunchFailure_opensTunnels cfg w)) i

theorem startLauncher_opensTunnels (cmd : List String) :
    Keeps OpensTunnels (startLauncher cfg w cmd) :=
  startLauncher_frame cfg w OpensTunnels.composes.sequenced (fun _ => OpensTunnels.emit _ rfl)
    (fun _ _ => OpensTunnels.modifySelf _ fun _ => rfl) cmd

theorem markStartTime_opensTunnels : Keeps OpensTunnels (markStartTime w) :=
  markStartTime_frame w OpensTunnels.composes.sequenced (fun _ => OpensTunnels.emit _ rfl)
    fun _ => OpensTunnels.modifySelf _ fun _ => rfl

/-- **A launch terminates no tunnel.** However it ends, `launch_kernel` calls no tunnel's
`terminate()`, and every tunnel it leaves tracked was tracked before or was spawned by it for the
channel it is tracked under. -/
theorem launchKernel_opensTunnels (cmd : List String) (fuel : Nat) :
    Keeps OpensTunnels (launchKernel cfg w cmd fuel) :=
  launchKernel_frame cfg w OpensTunnels.composes.sequenced (startLauncher_opensTunnels cfg w)
    (markStartTime_opensTunnels w) (confirmPass_opensTunnels cfg w) cmd fuel

end Tunnels

/-! ## A wait in which nothing arrives -/

/-- The collaborators of `confirm_remote_startup` raise nothing and no payload arrives: every wait
for the payload times out, no sleep is cancelled, every status query answers, the launcher never
exits with a positive code, and `terminate_container_resources` returns. -/
structure NeverAnswers (w : World) : Prop where
  waits : ∀ calls, ∃ text, w.connectionInfo calls = .error (.timeoutError text)
  sleeps : ∀ calls, w.sleepFails calls = none
  statuses : ∀ calls iteration, ∃ status, w.containerStatus calls iteration = .ok status
  launcher : ∀ calls code, w.launcherPoll calls = some code → code ≤ 0
  terminates : ∀ calls, w.terminateContainerFails calls = none

section Silent

variable (cfg : Settings) {w : World} (quiet : NeverAnswers w)
include quiet

/-- When nothing arrives and nothing raises, the part of a pass after its timeout check returns
`false` and calls nothing but what the status query and the wait call. -/
theorem checkContainer_of_neverAnswers (i : Nat) (s : Sys) :
    ∃ s', checkContainer cfg w i s = .ok false s' ∧ s'.self.startTime = s.self.startTime ∧
      s'.calls = s.calls := by
  obtain ⟨containerStatus, status⟩ := quiet.statuses s.calls (some (toString i))
  obtain ⟨text, waited⟩ := quiet.waits s.calls
  set placed : Sys := ⟨s.self.place (w.placement s.calls s.self.placement), s.calls⟩
  have queried : getContainerStatus w (some (toString i)) s = .ok containerStatus placed := by
    simp [getContainerStatus_eq, status, placed]
  have detected : detectLaunchFailure cfg w placed = .ok () placed := by
    rcases detectLaunchFailure_spec cfg w placed with detected | ⟨code, polled, faulted, -⟩
    · exact detected
    · exact absurd (quiet.launcher _ code polled) (by omega)
  by_cases truthy : (PyVal.ofOption containerStatus).truthy
  · by_cases hosted : (w.placement s.calls s.self.placement).assignedHost = ""
    · exact ⟨placed, by simp [checkContainer, run_bind, queried, truthy, hosted],
        by simp [placed], rfl⟩
    · exact ⟨⟨{ placed.self with pid := 0, pgid := 0 }, s.calls⟩, by
        simp [checkContainer, awaitPayload, run_bind, queried, truthy, hosted,
          receiveConnectionInfo_of_timeout cfg w placed waited], by simp [placed], rfl⟩
  · exact ⟨placed, by simp [checkContainer, run_bind, queried, truthy, detected],
      by simp [placed], rfl⟩

/-- When nothing arrives and nothing raises, a pass returns `false` with its clock reading within
the timeout, or raises the launch timeout's `TimeoutError` after one kill. -/
theorem confirmPass_of_neverAnswers (i : Nat) (s : Sys) {start : Nat}
    (started : s.self.startTime = some start) :
    let now := w.clock (s.calls ++ [.sleep cfg.pollInterval])
    (∃ s', confirmPass cfg w i s = .ok false s' ∧ (now : Int) - start ≤ cfg.launchTimeout ∧
        s'.self.startTime = some start ∧
        s'.calls = s.calls ++ [.sleep cfg.pollInterval, .readClock now]) ∨
      ∃ new, new.countP Call.isKill = 1 ∧
        confirmPass cfg w i s =
          .error (.timeoutError (launchTimeoutMessage cfg)) (s.extend new) := by
  rcases handleLaunchTimeout_spec cfg w s started with
    ⟨timed, inTime⟩ | ⟨e, asleep, -⟩ |
      ⟨-, new, e, kills, timed, timeout | ⟨calls, raised⟩⟩
  · obtain ⟨s', checked, start, extended⟩ := checkContainer_of_neverAnswers cfg quiet i (s.extend
      [.sleep cfg.pollInterval, .readClock (w.clock (s.calls ++ [.sleep cfg.pollInterval]))])
    exact .inl ⟨s', by simp [confirmPass, run_bind, timed, checked], inTime,
      by simpa [started] using start, by simp [extended]⟩
  · simp [quiet.sleeps] at asleep
  · exact .inr ⟨.sleep cfg.pollInterval ::
      .readClock (w.clock (s.calls ++ [.sleep cfg.pollInterval])) :: new,
      by simpa [Call.isKill] using kills, by simp [confirmPass, run_bind, timed, timeout]⟩
  · simp [quiet.terminates] at raised

end Silent

/-! ## The loop -/

/-- A clock that has moved on by at least `ms` over every stretch of the run that holds a sleep of
`ms` milliseconds. -/
def SleepsAdvance (w : World) (ms : Nat) : Prop :=
  ∀ calls more, .sleep ms ∈ more → w.clock calls + ms ≤ w.clock (calls ++ more)

section Loop

variable (cfg : Settings) (w : World)

/-- From any pass on, the loop kills the kernel at most once, and returns `true` only from a pass
whose payload arrived and was set up. -/
theorem confirmLoop_spec (fuel i : Nat) (s : Sys) {start : Nat}
    (started : s.self.startTime = some start) :
    ∃ new, (resultState (confirmLoop cfg w i fuel s)).calls = s.calls ++ new ∧
      new.countP Call.isKill ≤ 1 ∧
      ∀ s', confirmLoop cfg w i fuel s = .ok true s' → ∃ s1 payload s2,
        w.connectionInfo s1.calls = .ok payload ∧
        setupConnectionInfo cfg w payload s1 = .ok () s2 ∧
        s' = ⟨{ s2.self with pid := 0, pgid := 0 }, s2.calls⟩ := by
  induction fuel generalizing i s with
  | zero => exact ⟨[], by simp [confirmLoop, resultState], by simp, by simp [confirmLoop]⟩
  | succ fuel ih =>
    rcases confirmPass_spec cfg w (i + 1) s started with
      ⟨ready, s', pass, passed, -, start, extended, quiet, received⟩ |
        ⟨e, s', new, passed, extended, kills⟩
    · cases ready
      · obtain ⟨more, loopCalls, kills, loopReceived⟩ := ih (i + 1) s' start
        have run : confirmLoop cfg w i (fuel + 1) s = confirmLoop cfg w (i + 1) fuel s' := by
          simp [confirmLoop, run_bind, passed]
        refine ⟨(.sleep cfg.pollInterval :: pass) ++ more,
          by rw [run, loopCalls, extended, List.append_assoc], ?_,
          fun s'' done => loopReceived s'' (run ▸ done)⟩
        simpa [List.countP_cons, quiet, Call.isKill] using kills
      · refine ⟨.sleep cfg.pollInterval :: pass,
          by simp [confirmLoop, run_bind, passed, resultState, extended], ?_, fun s'' done => ?_⟩
        · simp [List.countP_cons, quiet, Call.isKill]
        · simp only [confirmLoop, run_bind, passed, ↓reduceIte, run_pure,
            EStateM.Result.ok.injEq, true_and] at done
          exact done ▸ received rfl
    · exact ⟨new, by simp [confirmLoop, run_bind, passed, resultState, extended], kills,
        fun s'' done => by simp [confirmLoop, run_bind, passed] at done⟩

/-- The clock arithmetic of a pass. A pass whose reading is within the timeout, made after a
reading `i` poll intervals past the start, reads at least `i + 1` intervals past it, so that
`i + 1` passes fit in `launch_timeout / poll_interval`. -/
theorem elapsed_step (positive : 0 < cfg.pollInterval) (clock : SleepsAdvance w cfg.pollInterval)
    {reading more : List Call} {i start : Nat}
    (elapsed : start + i * cfg.pollInterval ≤ w.clock reading)
    (inTime : (w.clock (reading ++ more ++ [.sleep cfg.pollInterval]) : Int) - start ≤
      cfg.launchTimeout) :
    start + (i + 1) * cfg.pollInterval ≤
        w.clock (reading ++ more ++ [.sleep cfg.pollInterval]) ∧
      i + 1 ≤ cfg.launchTimeout / cfg.pollInterval := by
  have advanced := clock reading (more ++ [.sleep cfg.pollInterval]) (by simp)
  rw [← List.append_assoc] at advanced
  have later : start + (i + 1) * cfg.pollInterval ≤
      w.clock (reading ++ more ++ [.sleep cfg.pollInterval]) := by
    rw [Nat.add_one_mul]
    omega
  exact ⟨later, (Nat.le_div_iff_mul_le positive).2 (by omega)⟩

/-- With fuel past `launch_timeout / poll_interval` passes, counted from a reading `i` intervals
past the start, the loop does not run out of fuel: it returns `true` or raises. -/
theorem confirmLoop_ends (positive : 0 < cfg.pollInterval)
    (clock : SleepsAdvance w cfg.pollInterval)
    (fuel i : Nat) (s : Sys) {start : Nat} (started : s.self.startTime = some start)
    (reading more : List Call) (calls : s.calls = reading ++ more)
    (elapsed : start + i * cfg.pollInterval ≤ w.clock reading)
    (within : i ≤ cfg.launchTimeout / cfg.pollInterval)
    (enough : cfg.launchTimeout / cfg.pollInterval < i + fuel) (s' : Sys) :
    confirmLoop cfg w i fuel s ≠ .ok false s' := by
  induction fuel generalizing i s reading more with
  | zero => omega
  | succ fuel ih =>
    rcases confirmPass_spec cfg w (i + 1) s started with
      ⟨ready, s1, rest, passed, inTime, start, extended, -, -⟩ | ⟨e, s1, new, passed, -, -⟩
    · rw [calls] at inTime extended
      obtain ⟨later, fits⟩ := elapsed_step cfg w positive clock elapsed inTime
      cases ready
      · have run : confirmLoop cfg w i (fuel + 1) s = confirmLoop cfg w (i + 1) fuel s1 := by
          simp [confirmLoop, run_bind, passed]
        rw [run]
        exact ih (i + 1) s1 start (reading ++ more ++ [.sleep cfg.pollInterval]) rest
          (by simp [extended]) later fits (by omega)
      · simp [confirmLoop, run_bind, passed]
    · simp [confirmLoop, run_bind, passed]

/-- When nothing arrives and nothing raises, the loop, with enough fuel, raises the launch
timeout's `TimeoutError` after exactly one kill. -/
theorem confirmLoop_times_out (positive : 0 < cfg.pollInterval)
    (clock : SleepsAdvance w cfg.pollInterval) (quiet : NeverAnswers w)
    (fuel i : Nat) (s : Sys) {start : Nat} (started : s.self.startTime = some start)
    (reading more : List Call) (calls : s.calls = reading ++ more)
    (elapsed : start + i * cfg.pollInterval ≤ w.clock reading)
    (within : i ≤ cfg.launchTimeout / cfg.pollInterval)
    (enough : cfg.launchTimeout / cfg.pollInterval < i + fuel) :
    ∃ s' new,
      confirmLoop cfg w i fuel s = .error (.timeoutError (launchTimeoutMessage cfg)) s' ∧
      s'.calls = s.calls ++ new ∧ new.countP Call.isKill = 1 := by
  induction fuel generalizing i s reading more with
  | zero => omega
  | succ fuel ih =>
    rcases confirmPass_of_neverAnswers cfg quiet (i + 1) s started with
      ⟨s1, passed, inTime, start, extended⟩ | ⟨new, kills, passed⟩
    · have passCalls := extended
      rw [calls] at inTime extended
      obtain ⟨later, fits⟩ := elapsed_step cfg w positive clock elapsed inTime
      obtain ⟨s', new, looped, loopCalls, kills⟩ := ih (i + 1) s1 start
        (reading ++ more ++ [.sleep cfg.pollInterval])
        [.readClock (w.clock (reading ++ more ++ [.sleep cfg.pollInterval]))] (by simp [extended])
        later fits (by omega)
      refine ⟨s', [.sleep cfg.pollInterval,
          .readClock (w.clock (s.calls ++ [.sleep cfg.pollInterval]))] ++ new, by simpa [confirmLoop, run_bind, passed] using looped,
        by simp [loopCalls, passCalls], by simpa [Call.isKill] using kills⟩
    · exact ⟨s.extend new, new, by simp [confirmLoop, run_bind, passed], rfl, kills⟩

/-- **The confirmation loop.** With `floor(launch_timeout / poll_interval) + 1` passes of fuel,
under a clock that every sleep moves on by at least `poll_interval > 0`, `confirm_remote_startup`
does not run out of fuel; it kills the kernel at most once; it returns only from a pass whose
payload arrived and was set up; and when nothing arrives and nothing else raises, it raises the
launch timeout's `TimeoutError` after exactly one kill. -/
theorem confirmRemoteStartup_bounded (positive : 0 < cfg.pollInterval)
    (clock : SleepsAdvance w cfg.pollInterval) (s : Sys) :
    (∀ s',
      confirmRemoteStartup cfg w (cfg.launchTimeout / cfg.pollInterval + 1) s ≠ .ok false s') ∧
    (∃ new,
      (resultState (confirmRemoteStartup cfg w (cfg.launchTimeout / cfg.pollInterval + 1) s)).calls =
        s.calls ++ new ∧ new.countP Call.isKill ≤ 1) ∧
    (∀ s',
      confirmRemoteStartup cfg w (cfg.launchTimeout / cfg.pollInterval + 1) s = .ok true s' →
      ∃ s1 payload s2, w.connectionInfo s1.calls = .ok payload ∧
        setupConnectionInfo cfg w payload s1 = .ok () s2 ∧
        s' = ⟨{ s2.self with pid := 0, pgid := 0 }, s2.calls⟩) ∧
    (NeverAnswers w → ∃ s' new,
      confirmRemoteStartup cfg w (cfg.launchTimeout / cfg.pollInterval + 1) s =
        .error (.timeoutError (launchTimeoutMessage cfg)) s' ∧
      s'.calls = s.calls ++ new ∧ new.countP Call.isKill = 1) := by
  let started : Sys := ⟨{ s.self with startTime := some (w.clock s.calls) },
    s.calls ++ [.readClock (w.clock s.calls)]⟩
  have run : ∀ fuel, confirmRemoteStartup cfg w fuel s = confirmLoop cfg w 0 fuel started :=
    fun _ => rfl
  simp only [run]
  obtain ⟨new, loopCalls, kills, received⟩ := confirmLoop_spec cfg w _ 0 started rfl
  refine ⟨confirmLoop_ends cfg w positive clock (cfg.launchTimeout / cfg.pollInterval + 1) 0
      started rfl s.calls _ rfl (by simp) (Nat.zero_le _) (by omega),
    ⟨.readClock (w.clock s.calls) :: new, by simp [loopCalls, started],
      by simpa [Call.isKill] using kills⟩, received, fun quiet => ?_⟩
  obtain ⟨s', more, timedOut, calls, kills⟩ := confirmLoop_times_out cfg w positive clock quiet
    (cfg.launchTimeout / cfg.pollInterval + 1) 0 started rfl s.calls _ rfl (by simp) (Nat.zero_le _)
    (by omega)
  exact ⟨s', .readClock (w.clock s.calls) :: more, timedOut, by simp [calls, started],
    by simpa [Call.isKill] using kills⟩

end Loop

/-! ## A clock that sleeps move -/

/-- The calm collaborators under a clock that each sleep of `ms` moves on by `ms`, and nothing
else moves. -/
def World.ticking (ms : Nat) : World :=
  { World.calm with clock := fun calls => ms * calls.count (.sleep ms) }

theorem ticking_sleepsAdvance (ms : Nat) : SleepsAdvance (World.ticking ms) ms := by
  intro calls more slept
  have once : ms ≤ ms * more.count (.sleep ms) :=
    Nat.le_mul_of_pos_right ms (List.count_pos_iff.2 slept)
  simp only [World.ticking, List.count_append, Nat.mul_add]
  omega

theorem ticking_neverAnswers (ms : Nat) : NeverAnswers (World.ticking ms) :=
  ⟨fun _ => ⟨"", rfl⟩, fun _ => rfl, fun _ _ => ⟨none, rfl⟩,
    fun _ _ polled => by simp [World.ticking, World.calm] at polled, fun _ => rfl⟩

/-- With the default settings and nothing arriving, a fresh provisioner's confirmation loop raises
the launch timeout's `TimeoutError` after one kill. -/
theorem confirmRemoteStartup_bounded_ticking :
    0 < Settings.default.pollInterval ∧
      SleepsAdvance (World.ticking Settings.default.pollInterval) Settings.default.pollInterval ∧
      ∃ s' new,
        confirmRemoteStartup Settings.default (World.ticking Settings.default.pollInterval)
          (Settings.default.launchTimeout / Settings.default.pollInterval + 1)
          ⟨Provisioner.fresh 0 0 .empty, []⟩ =
          .error (.timeoutError (launchTimeoutMessage Settings.default)) s' ∧
        s'.calls = [] ++ new ∧ new.countP Call.isKill = 1 :=
  ⟨by decide, ticking_sleepsAdvance _,
    (confirmRemoteStartup_bounded Settings.default (World.ticking Settings.default.pollInterval)
      (by decide) (ticking_sleepsAdvance _) ⟨Provisioner.fresh 0 0 .empty, []⟩).2.2.2
      (ticking_neverAnswers _)⟩


/-! ## Two launches -/

set_option smartUnfolding false in
/-- A launcher killed by `SIGKILL`, whose `poll()` returns `-9`, while the container manager
reports no container: `detect_launch_failure` lets every pass through, so the launch waits out
its timeout and raises the `TimeoutError`, not the launch failure, without waiting on the
launcher. -/
theorem detectLaunchFailure_ignores_signalled_launcher :
    (match launchKernel { Settings.default with launchTimeout := 1000 }
        { World.ticking 500 with launcherPoll := fun _ => some (-9) } ["launch"] 3
        ⟨Provisioner.fresh 0 0 .empty, []⟩ with
      | .error e s' => some (e.isTimeout, s'.calls.contains .procWait)
      | .ok _ _ => none) = some (true, false) := by
  decide

/-- A container manager that reports the kernel's container running on `node-1` at `10.0.0.5`
from the first query, and a launcher whose payload carries the five kernel ports and no `pid`,
`pgid` or `comm_port`. -/
def readyWorld : World :=
  { World.calm with
    containerStatus := fun _ _ => .ok (some "running")
    placement := fun _ placement =>
      { placement with
        containerName := some "kernel-1", assignedHost := "node-1", assignedIp := some "10.0.0.5" }
    connectionInfo := fun _ => .ok channelPayload }

/-- `readyWorld` with a launcher whose payload also carries the listener's `comm_port`,
`52005`. -/
def commWorld : World :=
  { readyWorld with connectionInfo := fun _ => .ok (channelPayload.setItem "comm_port" (.int 52005)) }

set_option smartUnfolding false in
/-- After a launch confirmed on the first pass, `send_signal(2)` signals the local launcher's
process: confirmation zeroed `pid` and `pgid` but kept `local_proc`. -/
theorem sendSignal_reaches_launcher_after_confirm :
    (match launchKernel Settings.default readyWorld ["launch"] 1 ⟨Provisioner.fresh 0 0 .empty, []⟩ with
      | .ok (some _) s =>
          match sendSignal Settings.default readyWorld 2 s with
          | .ok () s' => some (s'.calls.drop s.calls.length)
          | .error _ _ => none
      | _ => none) = some [.procSendSignal 2] := by
  decide

end RemoteProvisioners
