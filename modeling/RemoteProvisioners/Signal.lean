import RemoteProvisioners.Teardown

/-!
# Signals, the launcher's listener, and waiting for the kernel

A kernel launcher that reports a communication port listens on it for JSON requests:
`{"signum": n}` to signal the kernel, `{"shutdown": 1}` to stop. `_send_listener_request` opens a
socket, connects, sends, and closes the socket on every path. `send_signal` of a container
provisioner polls for signal `0`, kills for `SIGKILL`, and otherwise defers to the base class,
which tries the listener and, when that did not deliver, falls back on the local launcher's
process: its process group through `os.killpg` when `pgid > 0`, and the process itself when
there is no group or `os.killpg` raised an `OSError`.

`shutdown_listener` sends the shutdown request and then, after its await, terminates the tunnel
of the communication port and stops tracking it (`terminateCommTunnel`).

**Where a signal goes.** A signal other than `0` and `SIGKILL` reaches the local launcher, through
its process group or its process, exactly when the object holds the launcher's process and the
listener did not take the request (`ListenerTakes`, `sendSignal_routes`). A refused connection
counts as taken, so when the listener has gone away the signal reaches nothing, though the
launcher's process is at hand (`sendSignal_routes_refused`). What escapes is an exception of
`os.killpg` that is not an `OSError`, or one of `Popen.send_signal`, which lets through every
`OSError` of `os.kill` but `ProcessLookupError`.

None of this touches the tunnels except that last step (`sendSignal_opensTunnels`,
`shutdownRequest_opensTunnels`, `terminateCommTunnel_eq`).

`wait()` waits on the launcher's process when the object holds one, and otherwise polls the
container up to `max_poll_attempts` times, sleeping after each poll that finds it missing or in an
initial state (`wait_spec`). A container that is gone and one that is still starting look the same
to it, and with `max_poll_attempts` at `0` it reports `0`, the kernel ended, without a poll.

The listener's socket is closed on every path (`sendListenerRequest_closes`), while
`select_ports` closes its sockets only when it returns: `sockets_closed_unless_selectPorts_raises`
puts the two together, and `selectPorts_leaves_sockets_open` is a raising run that leaves two
sockets open.
-/

set_option autoImplicit false

namespace RemoteProvisioners

section Signals

variable (cfg : Settings) (w : World)

/-- `get_container_status(iteration)` of a container variant: the status it reports, after the
fields its query of the container manager assigns. -/
def getContainerStatus (iteration : Option String) : Py (Option String) := do
  let calls ← Py.history
  let status ← Py.ofExcept (w.containerStatus calls iteration)
  let placement := w.placement calls (← Py.getSelf).placement
  Py.modifySelf fun self => self.place placement
  return status

theorem getContainerStatus_eq (iteration : Option String) (s : Sys) :
    getContainerStatus w iteration s =
      match w.containerStatus s.calls iteration with
      | .ok status => .ok status ⟨s.self.place (w.placement s.calls s.self.placement), s.calls⟩
      | .error e => .error e s := by
  simp only [getContainerStatus, run_bind, run_history]
  rcases w.containerStatus s.calls iteration with e | status <;> rfl

/-- `ContainerProvisioner.poll()`: `None` while the container is missing or starting, else `0`. -/
def poll : Py (Option Int) := do
  match ← getContainerStatus w none with
  | none => return none
  | some status => if status ∈ w.initialStates then return none else return some 0

/-- `_send_listener_request(request, shutdown_socket)`. Whatever `sock.shutdown(SHUT_WR)` raises
is logged and dropped, so `shutdown_socket` changes nothing modelled here. -/
def sendListenerRequest (request : ListenerRequest) : Py Unit := do
  if 0 < (← Py.getSelf).commPort then
    let sock ← openSocket
    let calls ← Py.history
    let sent ← Py.attempt <|
      match w.listenerFails calls request with
      | some e => throw e
      | none => Py.emit (.listenerSend request)
    Py.emit (.socketClose sock)
    Py.ofExcept sent

/-- `_send_signal_via_listener(signum)`: whether the request counts as delivered. A refused
connection counts, since then there is no process to signal. -/
def sendSignalViaListener (signum : Int) : Py Bool := do
  if 0 < (← Py.getSelf).commPort then
    match ← Py.attempt (sendListenerRequest w (.signal signum)) with
    | .ok () => return true
    | .error e => return e.isConnRefused
  else return false

/-- `os.killpg(pgid, signum)`. -/
def killpg (pgid signum : Int) : Py Unit := do
  let calls ← Py.history
  Py.emit (.killpg pgid signum)
  if let some e := w.killpgFails calls then throw e

/-- `local_proc.send_signal(signum)`. -/
def procSendSignal (signum : Int) : Py Unit := do
  let calls ← Py.history
  Py.emit (.procSendSignal signum)
  if let some e := w.procSendSignalFails calls signum then throw e

/-- The fallback of `send_signal` on the local launcher's process: its group through
`os.killpg` when it has one, dropping an `OSError`, and the process itself when there is no group
or `os.killpg` raised an `OSError`. `hasattr(os, "killpg")` fails on Windows only. -/
def signalLauncher (pgid signum : Int) : Py Unit := do
  if 0 < pgid ∧ !cfg.isWin32 then
    match ← Py.attempt (killpg w pgid signum) with
    | .ok () => return
    | .error e => if !e.isOSError then throw e
  procSendSignal w signum

/-- `RemoteProvisionerBase.send_signal(signum)`. -/
def baseSendSignal (signum : Int) : Py Unit := do
  if !(← sendSignalViaListener w signum) then
    let self ← Py.getSelf
    if self.localProc.isSome then
      signalLauncher cfg w self.pgid signum

/-- `ContainerProvisioner.send_signal(signum)`. -/
def sendSignal (signum : Int) : Py Unit := do
  if signum = 0 then
    let _ ← poll w
  else if signum = sigkill then
    kill w false
  else
    baseSendSignal cfg w signum

/-- The end of `shutdown_listener`, after the request: terminate the communication port's tunnel
and stop tracking it. -/
def terminateCommTunnel : Py Unit := do
  match (← Py.getSelf).tunnelProcesses.get KernelChannel.communication.value with
  | some handle =>
      terminateTunnelProcess w handle
      Py.modifySelf fun self =>
        { self with
          tunnelProcesses := self.tunnelProcesses.erase KernelChannel.communication.value }
  | none => return ()

/-- The part of `shutdown_listener` up to its await: the shutdown request, whose exception is
logged and dropped. -/
def shutdownRequest : Py Unit := do
  if 0 < (← Py.getSelf).commPort then
    let _ ← Py.attempt (sendListenerRequest w .shutdown)

/-- `shutdown_listener()`, which `shutdown_requested` awaits. -/
def shutdownListener : Py Unit := do
  if 0 < (← Py.getSelf).commPort then
    shutdownRequest w
    terminateCommTunnel w

end Signals

/-! ## Frames

What each method records and assigns, as in `Teardown`.
-/

section Frames

variable (cfg : Settings) (w : World) {Q : ∀ {α : Type}, Py α → Prop}

theorem getContainerStatus_frame (steps : Sequenced Q)
    (places : ∀ placement, Q (Py.modifySelf fun self => self.place placement))
    (iteration : Option String) : Q (getContainerStatus w iteration) :=
  steps.bind steps.history fun _ => steps.bind (steps.ofExcept _) fun _ =>
    steps.bind steps.getSelf fun _ => steps.bind (places _) fun _ => steps.pure _

theorem poll_frame (steps : Sequenced Q) (status : Q (getContainerStatus w none)) : Q (poll w) := by
  refine steps.bind status fun status => ?_
  repeat' split
  all_goals exact steps.pure _

/-- `_send_listener_request` opens a socket, sends on it, and closes it. -/
theorem sendListenerRequest_frame (steps : Catching Q)
    (opens : ∀ sock, Q (Py.emit (.socketOpen sock)))
    (sends : ∀ request, Q (Py.emit (.listenerSend request)))
    (closes : ∀ sock, Q (Py.emit (.socketClose sock))) (request : ListenerRequest) :
    Q (sendListenerRequest w request) := by
  refine steps.bind steps.getSelf fun _ => ?_
  split
  · refine steps.bind (openSocket_frame steps.toSequenced opens) fun _ =>
      steps.bind steps.history fun _ => steps.bind (steps.attempt ?_) fun _ =>
        steps.bind (closes _) fun _ => steps.ofExcept _
    split
    exacts [steps.throw _, sends _]
  · exact steps.pure _

theorem sendSignalViaListener_frame (steps : Catching Q)
    (requests : ∀ request, Q (sendListenerRequest w request)) (signum : Int) :
    Q (sendSignalViaListener w signum) := by
  refine steps.bind steps.getSelf fun _ => ?_
  split
  · exact steps.bind (steps.attempt (requests _)) fun sent => by
      cases sent <;> exact steps.pure _
  · exact steps.pure _

theorem killpg_frame (steps : Sequenced Q) (kills : ∀ pgid signum, Q (Py.emit (.killpg pgid signum)))
    (pgid signum : Int) : Q (killpg w pgid signum) := by
  refine steps.bind steps.history fun _ => steps.bind (kills _ _) fun _ => ?_
  split
  exacts [steps.throw _, steps.pure _]

theorem procSendSignal_frame (steps : Sequenced Q)
    (signals : ∀ signum, Q (Py.emit (.procSendSignal signum))) (signum : Int) :
    Q (procSendSignal w signum) := by
  refine steps.bind steps.history fun _ => steps.bind (signals _) fun _ => ?_
  split
  exacts [steps.throw _, steps.pure _]

/-- The fallback on the launcher signals its process group, its process, or both. -/
theorem signalLauncher_frame (steps : Catching Q)
    (kills : ∀ pgid signum, Q (Py.emit (.killpg pgid signum)))
    (signals : ∀ signum, Q (Py.emit (.procSendSignal signum))) (pgid signum : Int) :
    Q (signalLauncher cfg w pgid signum) := by
  have signal := procSendSignal_frame w steps.toSequenced signals signum
  dsimp only [signalLauncher]
  split
  · refine steps.bind (steps.attempt (killpg_frame w steps.toSequenced kills pgid signum))
      fun killed => ?_
    rcases killed with e | ⟨⟩
    · dsimp only
      split <;> refine steps.bind ?_ fun _ => signal
      exacts [steps.throw _, steps.pure _]
    · exact steps.pure _
  · exact steps.bind (steps.pure _) fun _ => signal

theorem baseSendSignal_frame (steps : Sequenced Q)
    (listener : ∀ signum, Q (sendSignalViaListener w signum))
    (launcher : ∀ pgid signum, Q (signalLauncher cfg w pgid signum)) (signum : Int) :
    Q (baseSendSignal cfg w signum) := by
  refine steps.bind (listener signum) fun _ => ?_
  split
  · refine steps.bind steps.getSelf fun _ => ?_
    split
    exacts [launcher _ _, steps.pure _]
  · exact steps.pure _

theorem sendSignal_frame (steps : Sequenced Q) (polls : Q (poll w)) (kills : Q (kill w false))
    (defers : ∀ signum, Q (baseSendSignal cfg w signum)) (signum : Int) :
    Q (sendSignal cfg w signum) := by
  unfold sendSignal
  split
  · exact steps.bind polls fun _ => steps.pure _
  · split
    exacts [kills, defers _]

/-- The end of `shutdown_listener` terminates the tunnel of the communication port and stops
tracking it. -/
theorem terminateCommTunnel_frame (steps : Sequenced Q)
    (terminates : ∀ handle, Q (terminateTunnelProcess w handle))
    (forgets : Q (Py.modifySelf fun self => { self with
      tunnelProcesses := self.tunnelProcesses.erase KernelChannel.communication.value })) :
    Q (terminateCommTunnel w) := by
  refine steps.bind steps.getSelf fun _ => ?_
  split
  exacts [steps.bind (terminates _) fun _ => forgets, steps.pure _]

theorem shutdownRequest_frame (steps : Catching Q) (requests : Q (sendListenerRequest w .shutdown)) :
    Q (shutdownRequest w) := by
  refine steps.bind steps.getSelf fun _ => ?_
  split
  exacts [steps.bind (steps.attempt requests) fun _ => steps.pure _, steps.pure _]

theorem shutdownListener_frame (steps : Sequenced Q) (requests : Q (shutdownRequest w))
    (terminates : Q (terminateCommTunnel w)) : Q (shutdownListener w) := by
  refine steps.bind steps.getSelf fun _ => ?_
  split
  exacts [steps.bind requests fun _ => terminates, steps.pure _]

end Frames

/-! ## The fallback on the launcher -/

section Fallback

variable (cfg : Settings) (w : World)

/-- What the connection and the send of a listener request made from `s` raise, once its socket
is open. -/
def listenerAnswer (request : ListenerRequest) (s : Sys) : Option Exn :=
  w.listenerFails (s.calls ++ [.socketOpen (s.calls.filter Call.isSocketOpen).length]) request

/-- `_send_signal_via_listener` counts a signal as delivered: the object has a communication port,
and the request raised nothing, or a refused connection. -/
def ListenerTakes (signum : Int) (s : Sys) : Prop :=
  0 < s.self.commPort ∧ (listenerAnswer w (.signal signum) s).all Exn.isConnRefused

instance (signum : Int) (s : Sys) : Decidable (ListenerTakes w signum s) :=
  inferInstanceAs (Decidable (_ ∧ _))

/-- Whether a call signals the local launcher: `os.killpg` on its group, or `send_signal` on its
process. -/
def Call.signalsLauncher : Call → Bool
  | .killpg _ _ | .procSendSignal _ => true
  | _ => false

theorem sendListenerRequest_eq (request : ListenerRequest) (s : Sys)
    (positive : 0 < s.self.commPort) :
    sendListenerRequest w request s =
      match listenerAnswer w request s with
      | some e => .error e (s.extend [.socketOpen (s.calls.filter Call.isSocketOpen).length,
          .socketClose (s.calls.filter Call.isSocketOpen).length])
      | none => .ok () (s.extend [.socketOpen (s.calls.filter Call.isSocketOpen).length,
          .listenerSend request, .socketClose (s.calls.filter Call.isSocketOpen).length]) := by
  unfold listenerAnswer
  rcases fails : w.listenerFails (s.calls ++ [.socketOpen (s.calls.filter Call.isSocketOpen).length])
      request with _ | e <;>
    simp [sendListenerRequest, run_bind, positive, openSocket_eq, fails, Sys.extend_extend]

/-- `_send_signal_via_listener` reports whether the listener took the signal, raises nothing, and
signals no launcher. -/
theorem sendSignalViaListener_spec (signum : Int) (s : Sys) :
    ∃ new, sendSignalViaListener w signum s = .ok (decide (ListenerTakes w signum s)) (s.extend new) ∧
      new.any Call.signalsLauncher = false := by
  by_cases positive : 0 < s.self.commPort
  · have request := sendListenerRequest_eq w (.signal signum) s positive
    rcases answer : listenerAnswer w (.signal signum) s with _ | e <;> rw [answer] at request
    · refine ⟨[.socketOpen (s.calls.filter Call.isSocketOpen).length, .listenerSend (.signal signum),
        .socketClose (s.calls.filter Call.isSocketOpen).length], ?_, rfl⟩
      simp [sendSignalViaListener, run_bind, run_attempt, positive, request, ListenerTakes, answer]
    · refine ⟨[.socketOpen (s.calls.filter Call.isSocketOpen).length,
        .socketClose (s.calls.filter Call.isSocketOpen).length], ?_, rfl⟩
      simp [sendSignalViaListener, run_bind, run_attempt, positive, request, ListenerTakes, answer]
  · exact ⟨[], by simp [sendSignalViaListener, run_bind, positive, ListenerTakes], rfl⟩

theorem killpg_eq (pgid signum : Int) (s : Sys) :
    killpg w pgid signum s = match w.killpgFails s.calls with
      | some e => .error e (s.extend [.killpg pgid signum])
      | none => .ok () (s.extend [.killpg pgid signum]) := by
  simp only [killpg, run_bind, run_history, run_emit]
  rcases w.killpgFails s.calls with _ | e <;> rfl

theorem procSendSignal_eq (signum : Int) (s : Sys) :
    procSendSignal w signum s = match w.procSendSignalFails s.calls signum with
      | some e => .error e (s.extend [.procSendSignal signum])
      | none => .ok () (s.extend [.procSendSignal signum]) := by
  simp only [procSendSignal, run_bind, run_history, run_emit]
  rcases w.procSendSignalFails s.calls signum with _ | e <;> rfl

/-- What a stretch of the fallback on the launcher does: it signals the launcher, and raises only
an exception of `os.killpg` that is not an `OSError`, or one of `local_proc.send_signal`. -/
def SignalsLauncher (signum : Int) (x : Py Unit) (s : Sys) : Prop :=
  ∃ new, resultState (x s) = s.extend new ∧ new.any Call.signalsLauncher = true ∧
    ∀ e s', x s = .error e s' → (∃ calls, w.killpgFails calls = some e ∧ e.isOSError = false) ∨
      ∃ calls, w.procSendSignalFails calls signum = some e

theorem procSendSignal_signalsLauncher (signum : Int) (s : Sys) :
    SignalsLauncher w signum (procSendSignal w signum) s := by
  rw [SignalsLauncher, procSendSignal_eq]
  rcases fails : w.procSendSignalFails s.calls signum with _ | e
  · exact ⟨_, rfl, rfl, fun _ _ raised => by cases raised⟩
  · exact ⟨_, rfl, rfl, fun _ _ raised => by cases raised; exact .inr ⟨_, fails⟩⟩

theorem signalLauncher_signalsLauncher (pgid signum : Int) (s : Sys) :
    SignalsLauncher w signum (signalLauncher cfg w pgid signum) s := by
  unfold SignalsLauncher signalLauncher
  by_cases group : 0 < pgid ∧ !cfg.isWin32
  · rw [if_pos group, run_bind, run_attempt, killpg_eq]
    rcases killed : w.killpgFails s.calls with _ | e
    · exact ⟨[.killpg pgid signum], rfl, rfl, fun _ _ raised => by cases raised⟩
    · by_cases os : e.isOSError
      · obtain ⟨new, result, signals, raises⟩ :=
          procSendSignal_signalsLauncher w signum (s.extend [.killpg pgid signum])
        simp only [os, Bool.not_true, Bool.false_eq_true, ↓reduceIte, run_bind, run_pure]
        exact ⟨[.killpg pgid signum] ++ new, by rw [result, Sys.extend_extend], by
          simp [Call.signalsLauncher], raises⟩
      · simp only [os, Bool.not_false, ↓reduceIte, run_bind, run_throw]
        exact ⟨[.killpg pgid signum], rfl, rfl, fun _ _ raised => by
          cases raised; exact .inl ⟨s.calls, killed, by simpa using os⟩⟩
  · rw [if_neg group, run_bind, run_pure]
    exact procSendSignal_signalsLauncher w signum s

end Fallback

/-- Collaborators whose kernel listener refuses every connection. -/
def refusingWorld : World :=
  { World.calm with listenerFails := fun _ _ => some (.osError econnrefused "Connection refused") }

/-- A provisioner holding the launcher's process, with communication port `5000`. -/
def refusingLauncher : Sys :=
  ⟨{ Provisioner.fresh 0 0 .empty with commPort := 5000, localProc := some 0 }, []⟩

example : ListenerTakes refusingWorld 2 refusingLauncher ∧ refusingLauncher.self.localProc.isSome :=
  by decide

/-! ## Waiting for the kernel to end -/

section Wait

variable (cfg : Settings) (w : World)

/-- The `for i in range(max_poll_attempts)` loop of `wait()`, with `attempts` passes left and
`pollVal` the value the previous pass left, `0` before the first. -/
def waitLoop (pollVal : Option Int) : Nat → Py (Option Int)
  | 0 => return pollVal
  | attempts + 1 => do
      match ← poll w with
      | none =>
          let calls ← Py.history
          Py.emit (.sleep cfg.pollInterval)
          if let some e := w.sleepFails calls then throw e
          waitLoop none attempts
      | some code => return some code

/-- `RemoteProvisionerBase.wait()`, with `max_poll_attempts` passes; `exitCode` is what the
launcher's `wait()` returns. -/
def wait (maxPollAttempts : Nat) (exitCode : List Call → Int) : Py (Option Int) := do
  if (← Py.getSelf).localProc.isSome then
    let calls ← Py.history
    Py.emit .procWait
    return some (exitCode calls)
  else waitLoop cfg w (some 0) maxPollAttempts

/-- What `poll()` answers on a trace: `None` while the container is missing or in one of its
initial states, `0` once it reports another status, or the exception of the status query. -/
def pollAnswer (calls : List Call) : Except Exn (Option Int) :=
  match w.containerStatus calls none with
  | .ok none => .ok none
  | .ok (some status) => .ok (if status ∈ w.initialStates then none else some 0)
  | .error e => .error e

theorem poll_eq (s : Sys) :
    poll w s = match pollAnswer w s.calls with
      | .ok answer => .ok answer ⟨s.self.place (w.placement s.calls s.self.placement), s.calls⟩
      | .error e => .error e s := by
  unfold poll pollAnswer
  rw [run_bind, getContainerStatus_eq]
  rcases w.containerStatus s.calls none with e | _ | status
  · rfl
  · rfl
  · by_cases initial : status ∈ w.initialStates <;> simp [initial]

theorem pollAnswer_some {calls : List Call} {code : Int}
    (stopped : pollAnswer w calls = .ok (some code)) : code = 0 := by
  unfold pollAnswer at stopped
  split at stopped
  · cases stopped
  · split_ifs at stopped
    · cases stopped
    · cases stopped; rfl
  · cases stopped

/-- The trace after `k` sleeps of `wait()`. -/
def sleptTrace (calls : List Call) (k : Nat) : List Call :=
  calls ++ List.replicate k (.sleep cfg.pollInterval)

theorem sleptTrace_succ (calls : List Call) (k : Nat) :
    sleptTrace cfg (calls ++ [.sleep cfg.pollInterval]) k = sleptTrace cfg calls (k + 1) := by
  rw [sleptTrace, sleptTrace, List.append_assoc, List.singleton_append, List.replicate_succ]

/-- One pass of the polling loop: the poll, and the sleep after a poll that found the container
missing or starting. -/
theorem waitLoop_succ (pollVal : Option Int) (attempts : Nat) (s : Sys) :
    waitLoop cfg w pollVal (attempts + 1) s =
      match pollAnswer w s.calls with
      | .error e => .error e s
      | .ok (some code) => .ok (some code) ⟨s.self.place (w.placement s.calls s.self.placement), s.calls⟩
      | .ok none =>
          match w.sleepFails s.calls with
          | some e => .error e ⟨s.self.place (w.placement s.calls s.self.placement),
              s.calls ++ [.sleep cfg.pollInterval]⟩
          | none => waitLoop cfg w none attempts ⟨s.self.place (w.placement s.calls s.self.placement),
              s.calls ++ [.sleep cfg.pollInterval]⟩ := by
  rw [waitLoop, run_bind, poll_eq]
  rcases pollAnswer w s.calls with e | _ | code
  · rfl
  · simp only [run_bind, run_history, run_emit]
    rcases w.sleepFails s.calls with _ | e <;> rfl
  · rfl

/-- The polling loop of `wait()` sleeps once after each poll that finds the container missing or
starting, and ends at the first poll that finds it stopped, or after its last pass. -/
theorem waitLoop_spec (pollVal : Option Int) (attempts : Nat) (s : Sys) :
    ∃ k ≤ attempts, (resultState (waitLoop cfg w pollVal attempts s)).calls = sleptTrace cfg s.calls k ∧
      (∀ j < k, pollAnswer w (sleptTrace cfg s.calls j) = .ok none) ∧
      ∀ result s', waitLoop cfg w pollVal attempts s = .ok result s' →
        (k = attempts ∧ result = if attempts = 0 then pollVal else none) ∨
          (k < attempts ∧ result = some 0 ∧ pollAnswer w (sleptTrace cfg s.calls k) = .ok (some 0)) := by
  induction attempts generalizing s pollVal with
  | zero => exact ⟨0, le_rfl, by simp [waitLoop, sleptTrace, resultState], by simp, fun _ _ done => by
      simp only [waitLoop, run_pure, EStateM.Result.ok.injEq] at done
      exact .inl ⟨rfl, by simp [done.1]⟩⟩
  | succ attempts ih =>
      have first : pollAnswer w (sleptTrace cfg s.calls 0) = pollAnswer w s.calls := by
        rw [sleptTrace, List.replicate_zero, List.append_nil]
      rw [waitLoop_succ]
      rcases answer : pollAnswer w s.calls with e | _ | code
      · exact ⟨0, Nat.zero_le _, by simp [sleptTrace, resultState], by simp,
          fun _ _ done => by cases done⟩
      · rcases w.sleepFails s.calls with _ | e
        · obtain ⟨k, bound, calls, polls, ends⟩ := ih none
            ⟨s.self.place (w.placement s.calls s.self.placement), s.calls ++ [.sleep cfg.pollInterval]⟩
          simp only [sleptTrace_succ] at calls polls ends
          refine ⟨k + 1, by omega, calls, fun j below => ?_, fun result s' done => ?_⟩
          · cases j with
            | zero => rw [first, answer]
            | succ j => exact polls j (by omega)
          · rcases ends result s' done with ⟨rfl, rfl⟩ | ⟨below, rfl, stopped⟩
            · exact .inl ⟨rfl, by simp⟩
            · exact .inr ⟨by omega, rfl, stopped⟩
        · refine ⟨1, by omega, rfl, fun j below => ?_, fun _ _ done => by cases done⟩
          obtain rfl : j = 0 := by omega
          rw [first, answer]
      · obtain rfl : code = 0 := pollAnswer_some w answer
        refine ⟨0, Nat.zero_le _, by simp [sleptTrace, resultState], by simp,
          fun result s' done => ?_⟩
        cases done
        exact .inr ⟨by omega, rfl, by rw [first, answer]⟩

/-- **`wait()`.** With the launcher's process, `wait()` waits on it and returns its exit code,
polling nothing. Without it, `wait()` sleeps at most `max_poll_attempts` times, once after each
poll that finds the container missing or in an initial state. It returns `0` at the first poll
that finds the container in another state; after `max_poll_attempts` polls that all found it
missing or starting it returns `None`; and with `max_poll_attempts` at `0` it returns `0` without
polling. -/
theorem wait_spec (maxPollAttempts : Nat) (exitCode : List Call → Int) (s : Sys) :
    (s.self.localProc.isSome → wait cfg w maxPollAttempts exitCode s =
      .ok (some (exitCode s.calls)) (s.extend [.procWait])) ∧
    (s.self.localProc = none →
      ∃ k ≤ maxPollAttempts,
        (resultState (wait cfg w maxPollAttempts exitCode s)).calls = sleptTrace cfg s.calls k ∧
        (∀ j < k, pollAnswer w (sleptTrace cfg s.calls j) = .ok none) ∧
        ∀ result s', wait cfg w maxPollAttempts exitCode s = .ok result s' →
          (k = maxPollAttempts ∧ result = if maxPollAttempts = 0 then some 0 else none) ∨
            (k < maxPollAttempts ∧ result = some 0 ∧
              pollAnswer w (sleptTrace cfg s.calls k) = .ok (some 0))) := by
  refine ⟨fun launched => ?_, fun noLauncher => ?_⟩
  · simp [wait, run_bind, launched]
  · have loop : wait cfg w maxPollAttempts exitCode s = waitLoop cfg w (some 0) maxPollAttempts s := by
      simp [wait, run_bind, noLauncher]
    rw [loop]
    exact waitLoop_spec cfg w (some 0) maxPollAttempts s

end Wait

/-! ## What signalling does to the tunnels -/

section Tunnels

variable (cfg : Settings) (w : World)

theorem getContainerStatus_opensTunnels (iteration : Option String) :
    Keeps OpensTunnels (getContainerStatus w iteration) :=
  getContainerStatus_frame w OpensTunnels.composes.sequenced
    (fun _ => OpensTunnels.modifySelf _ fun _ => rfl) iteration

theorem sendListenerRequest_opensTunnels (request : ListenerRequest) :
    Keeps OpensTunnels (sendListenerRequest w request) :=
  sendListenerRequest_frame w OpensTunnels.composes.catching (fun _ => OpensTunnels.emit _ rfl)
    (fun _ => OpensTunnels.emit _ rfl) (fun _ => OpensTunnels.emit _ rfl) request

/-- `send_signal` calls no tunnel's `terminate()` and leaves `tunnel_processes` alone. -/
theorem sendSignal_opensTunnels (signum : Int) : Keeps OpensTunnels (sendSignal cfg w signum) :=
  sendSignal_frame cfg w OpensTunnels.composes.sequenced
    (poll_frame w OpensTunnels.composes.sequenced (getContainerStatus_opensTunnels w none))
    (kill_opensTunnels w false)
    (baseSendSignal_frame cfg w OpensTunnels.composes.sequenced
      (sendSignalViaListener_frame w OpensTunnels.composes.catching
        (sendListenerRequest_opensTunnels w))
      (signalLauncher_frame cfg w OpensTunnels.composes.catching (fun _ _ => OpensTunnels.emit _ rfl)
        fun _ => OpensTunnels.emit _ rfl))
    signum

theorem shutdownRequest_opensTunnels : Keeps OpensTunnels (shutdownRequest w) :=
  shutdownRequest_frame w OpensTunnels.composes.catching (sendListenerRequest_opensTunnels w _)

/-- The end of `shutdown_listener` terminates the tunnel tracked under `EG_COMM`, if any, and stops
tracking it unless its `terminate()` raised. -/
theorem terminateCommTunnel_eq (s : Sys) :
    terminateCommTunnel w s =
      match s.self.tunnelProcesses.get KernelChannel.communication.value with
      | some handle =>
          match w.terminateFails s.calls handle with
          | some e => .error e (s.extend [.terminateTunnel handle])
          | none => .ok ()
              ⟨{ s.self with tunnelProcesses :=
                  s.self.tunnelProcesses.erase KernelChannel.communication.value },
                s.calls ++ [.terminateTunnel handle]⟩
      | none => .ok () s := by
  simp only [terminateCommTunnel, run_bind, run_getSelf]
  rcases s.self.tunnelProcesses.get KernelChannel.communication.value with _ | handle
  · rfl
  · simp only [run_bind, terminateTunnelProcess_eq]
    rcases w.terminateFails s.calls handle with _ | e <;> rfl

end Tunnels

/-! ## Which sockets are closed -/

section Sockets

variable (cfg : Settings) (w : World)

/-- `_send_listener_request` closes the socket it opens, whether the connection or the send
raises or not. -/
theorem sendListenerRequest_closes (request : ListenerRequest) (s : Sys) :
    ∃ new, resultState (sendListenerRequest w request s) = s.extend new ∧ openSockets new = [] := by
  set sock := (s.calls.filter Call.isSocketOpen).length
  by_cases positive : 0 < s.self.commPort
  · rcases fails : w.listenerFails (s.calls ++ [.socketOpen sock]) request with _ | e
    · refine ⟨[.socketOpen sock, .listenerSend request, .socketClose sock], ?_, by
        simp [openSockets, Call.trackOpen]⟩
      simp [sendListenerRequest, run_bind, positive, openSocket_eq, fails, Sys.extend_extend]
      rfl
    · refine ⟨[.socketOpen sock, .socketClose sock], ?_, by simp [openSockets, Call.trackOpen]⟩
      simp [sendListenerRequest, run_bind, positive, openSocket_eq, fails, Sys.extend_extend]
      rfl
  · exact ⟨[], by simp [sendListenerRequest, run_bind, positive]; rfl, rfl⟩

/-- **Which sockets are closed.** For every count and every outcome of the binds, `select_ports`
has closed every socket it opened when it returns, and none of them when it raises, though it has
opened at least one; `_send_listener_request` closes its socket on every path. -/
theorem sockets_closed_unless_selectPorts_raises :
    (∀ count s, ∃ new,
      (∃ ports, selectPorts cfg w count s = .ok ports (s.extend new) ∧ openSockets new = []) ∨
      ∃ e, selectPorts cfg w count s = .error e (s.extend new) ∧
        socketsOpened new ≠ [] ∧ openSockets new = socketsOpened new) ∧
    ∀ request s, ∃ new, resultState (sendListenerRequest w request s) = s.extend new ∧
      openSockets new = [] :=
  ⟨selectPorts_openSockets cfg w, sendListenerRequest_closes w⟩

end Sockets

/-- `select_ports(2)` when the first bind succeeds and every later one fails: the
`RuntimeError` leaves open the bound socket `0` and the socket `1` it retried on. -/
theorem selectPorts_leaves_sockets_open :
    ∃ message calls, selectPorts Settings.default
        { World.calm with bind := fun calls _ _ => if calls.any Call.isBind then none else some 40000 }
        2 ⟨Provisioner.fresh 0 0 .empty, []⟩ =
        .error (.runtimeError message) ⟨Provisioner.fresh 0 0 .empty, calls⟩ ∧
      openSockets calls = [0, 1] := by
  have budget : Settings.default.maxPortRangeRetries.toNat = 5 := rfl
  simp only [selectPorts, gatherSockets, selectSocket, budget, selectSocketLoop]
  exact ⟨_, _, rfl, rfl⟩

end RemoteProvisioners
