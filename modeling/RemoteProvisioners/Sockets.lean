import RemoteProvisioners.Lifecycle
import RemoteProvisioners.Connection

/-!
# The sockets a run leaves open

Two pieces of code open sockets. `select_ports` holds one socket per port it hands out and closes
them all when it returns (`selectPorts_openSockets`), and `_send_listener_request` closes its
socket on every path (`sendListenerRequest_closes`). A `select_ports` that raises closes none of
the sockets it opened. Its exception, a `RuntimeError`, travels up through `_tunnel_to_kernel` or
`_tunnel_to_port` and `_setup_connection_info` into `receive_connection_info`, which waits
through timeouts only, so it kills the kernel and raises.

`ClosesSockets` says that a run adds to the trace a stretch that leaves no socket open, and
`ClosesUnless P` that a computation does so unless it raises an exception `P` holds of. The
sockets a stretch leaves open are those its first part leaves open and its second part does not
close, and those the second part leaves open (`openSockets_append`), so both compose along the
code. Every step but the wait for the payload keeps `ClosesSockets`, whatever it does; the set-up
of the connection closes what it opens unless it raises something other than a timeout
(`setupConnectionInfo_closesUnless`), and so the wait for the payload closes what it opens unless
it raises (`awaitPayload_closesUnless`).

**A socket stays open only after a failed launch.** Over any interleaving of the operations'
segments, every socket the run leaves open was opened, and left open, by a wait for the payload
that raised; over any sequence of whole operations, by a `launch_kernel` that raised
(`sockets_left_open_only_by_raising_launch`).
-/

set_option autoImplicit false

namespace RemoteProvisioners

/-! ## Stretches of trace that close what they open -/

/-- After a stretch of trace, the sockets open before it that it does not close are still open,
ahead of what the stretch itself leaves open. -/
theorem foldl_trackOpen_append (calls : List Call) (earlier opened : List Nat) :
    calls.foldl Call.trackOpen (earlier ++ opened) =
      earlier.filter (fun sock => Call.socketClose sock ∉ calls) ++
        calls.foldl Call.trackOpen opened := by
  induction calls generalizing earlier opened with
  | nil => simp
  | cons call rest ih =>
      cases call <;>
        simp [Call.trackOpen, ih, List.filter_filter, List.filter_append, Bool.and_comm]

theorem openSockets_append (first second : List Call) :
    openSockets (first ++ second) =
      (openSockets first).filter (fun sock => Call.socketClose sock ∉ second) ++
        openSockets second := by
  rw [openSockets, List.foldl_append, ← List.append_nil (List.foldl _ [] first),
    foldl_trackOpen_append]
  rfl

theorem mem_openSockets_append {first second : List Call} {sock : Nat}
    (mem : sock ∈ openSockets (first ++ second)) :
    sock ∈ openSockets first ∨ sock ∈ openSockets second := by
  rw [openSockets_append, List.mem_append] at mem
  exact mem.imp_left List.mem_of_mem_filter

/-- A run that adds to the trace a stretch leaving no socket open. -/
def ClosesSockets (s s' : Sys) : Prop :=
  ∃ new, s'.calls = s.calls ++ new ∧ openSockets new = []

namespace ClosesSockets

theorem refl (s : Sys) : ClosesSockets s s := ⟨[], (List.append_nil _).symm, rfl⟩

theorem trans (a b c : Sys) (first : ClosesSockets a b) (second : ClosesSockets b c) :
    ClosesSockets a c := by
  obtain ⟨new, calls, closed⟩ := first
  obtain ⟨more, calls', closed'⟩ := second
  refine ⟨new ++ more, by rw [calls', calls, List.append_assoc], ?_⟩
  rw [openSockets_append, closed, closed']
  rfl

theorem composes : Composes ClosesSockets := ⟨refl, trans⟩

theorem emit (call : Call) (notOpen : call.isSocketOpen = false) :
    Keeps ClosesSockets (Py.emit call) := fun _ =>
  ⟨[call], rfl, by cases call <;> first | rfl | cases notOpen⟩

theorem modifySelf (f : Provisioner → Provisioner) : Keeps ClosesSockets (Py.modifySelf f) :=
  fun _ => ⟨[], (List.append_nil _).symm, rfl⟩

theorem of_calls {s s' : Sys} (same : s'.calls = s.calls) : ClosesSockets s s' :=
  ⟨[], by rw [same, List.append_nil], rfl⟩

end ClosesSockets

/-- A computation that adds to the trace a stretch leaving no socket open, unless it raises an
exception `P` holds of. -/
def ClosesUnless (P : Exn → Prop) {α : Type} (x : Py α) : Prop :=
  ∀ s, ∃ new, (resultState (x s)).calls = s.calls ++ new ∧
    (openSockets new = [] ∨ ∃ e s', x s = .error e s' ∧ P e)

/-- `x`, run from `s`, raises and leaves `sock` open. -/
def RaisesLeavingOpen {α : Type} (x : Py α) (s : Sys) (sock : Nat) : Prop :=
  ∃ e s' stretch, x s = .error e s' ∧ s'.calls = s.calls ++ stretch ∧
    sock ∈ openSockets stretch

section ClosesUnless

variable {P : Exn → Prop} {α β : Type}

theorem Keeps.closesUnless {x : Py α} (kept : Keeps ClosesSockets x) : ClosesUnless P x :=
  fun s => let ⟨new, calls, closed⟩ := kept s; ⟨new, calls, .inl closed⟩

theorem ClosesUnless.pure (a : α) : ClosesUnless P (pure a : Py α) :=
  (Keeps.pure ClosesSockets.refl a).closesUnless

theorem ClosesUnless.getSelf : ClosesUnless P Py.getSelf :=
  (Keeps.getSelf ClosesSockets.refl).closesUnless

theorem ClosesUnless.history : ClosesUnless P Py.history :=
  (Keeps.history ClosesSockets.refl).closesUnless

theorem ClosesUnless.ofExcept (r : Except Exn α) : ClosesUnless P (Py.ofExcept r) :=
  (Keeps.ofExcept ClosesSockets.refl r).closesUnless

theorem ClosesUnless.logAndRaise (e : Exn) : ClosesUnless P (logAndRaise e : Py α) :=
  (Keeps.logAndRaise ClosesSockets.refl e).closesUnless

theorem ClosesUnless.modifySelf (f : Provisioner → Provisioner) :
    ClosesUnless P (Py.modifySelf f) :=
  (ClosesSockets.modifySelf f).closesUnless

/-- A stretch that leaves no socket open, followed by a computation that closes what it opens
unless it raises. -/
theorem ClosesUnless.after {y : Py β} (rest : ClosesUnless P y) {s s1 : Sys} {new : List Call}
    (calls : s1.calls = s.calls ++ new) (closed : openSockets new = []) :
    ∃ new, (resultState (y s1)).calls = s.calls ++ new ∧
      (openSockets new = [] ∨ ∃ e s', y s1 = .error e s' ∧ P e) := by
  obtain ⟨more, calls', outcome⟩ := rest s1
  refine ⟨new ++ more, by rw [calls', calls, List.append_assoc],
    outcome.imp_left fun closed' => ?_⟩
  rw [openSockets_append, closed, closed']
  rfl

theorem ClosesUnless.bind {x : Py α} {f : α → Py β} (first : ClosesUnless P x)
    (rest : ∀ a, ClosesUnless P (f a)) : ClosesUnless P (x >>= f) := by
  intro s
  obtain ⟨new, calls, outcome⟩ := first s
  rw [run_bind]
  cases ran : x s with
  | ok a s1 =>
      rw [ran] at calls outcome
      rcases outcome with closed | ⟨_, _, raised, _⟩
      · exact (rest a).after calls closed
      · cases raised
  | error e s1 =>
      rw [ran] at calls outcome
      exact ⟨new, calls, outcome.imp_right fun ⟨e', s', raised, holds⟩ =>
        ⟨e', s', by cases raised; rfl, holds⟩⟩

theorem ClosesUnless.ite {c : Prop} [Decidable c] {x y : Py α} (yes : ClosesUnless P x)
    (no : ClosesUnless P y) : ClosesUnless P (if c then x else y) := by
  split <;> assumption

theorem ClosesUnless.mono {Q : Exn → Prop} {x : Py α} (inner : ClosesUnless P x)
    (weaker : ∀ e, P e → Q e) : ClosesUnless Q x := fun s =>
  let ⟨new, calls, outcome⟩ := inner s
  ⟨new, calls, outcome.imp_right fun ⟨e, s', raised, holds⟩ =>
    ⟨e, s', raised, weaker e holds⟩⟩

theorem ClosesUnless.map {x : Py α} (f : α → β) (inner : ClosesUnless P x) :
    ClosesUnless P (f <$> x) := by
  intro s
  obtain ⟨new, calls, outcome⟩ := inner s
  rw [run_map]
  cases ran : x s with
  | ok a s1 =>
      rw [ran] at calls outcome
      exact ⟨new, calls, outcome.imp_right fun ⟨_, _, raised, _⟩ => nomatch raised⟩
  | error e s1 =>
      rw [ran] at calls outcome
      exact ⟨new, calls, outcome.imp_right fun ⟨e', s', raised, holds⟩ =>
        ⟨e', s', by cases raised; rfl, holds⟩⟩

theorem ClosesUnless.sequenced : Sequenced fun x => ClosesUnless P x where
  pure := ClosesUnless.pure
  throw e := (Keeps.throw ClosesSockets.refl e).closesUnless
  getSelf := ClosesUnless.getSelf
  history := ClosesUnless.history
  bind := ClosesUnless.bind

/-- Catching what `x` raises: when `x` raises an exception `Q` holds of, having left sockets open,
the handler raises in turn. -/
theorem ClosesUnless.attempt_bind {Q : Exn → Prop} {x : Py α} {k : Except Exn α → Py β}
    (inner : ClosesUnless Q x) (handled : ∀ r, ClosesUnless P (k r))
    (reraises : ∀ e, Q e → ∀ s, ∃ e' s', k (.error e) s = .error e' s' ∧ P e') :
    ClosesUnless P (Py.attempt x >>= k) := by
  intro s
  obtain ⟨new, calls, outcome⟩ := inner s
  rw [run_bind, run_attempt]
  cases ran : x s with
  | ok a s1 =>
      rw [ran] at calls outcome
      rcases outcome with closed | ⟨_, _, raised, _⟩
      · exact (handled (.ok a)).after calls closed
      · cases raised
  | error e s1 =>
      rw [ran] at calls outcome
      rcases outcome with closed | ⟨_, _, raised, holds⟩
      · exact (handled (.error e)).after calls closed
      · cases raised
        replace calls : s1.calls = s.calls ++ new := calls
        obtain ⟨more, calls', -⟩ := handled (.error e) s1
        exact ⟨new ++ more, by rw [calls', calls, List.append_assoc],
          .inr (reraises e holds s1)⟩

end ClosesUnless

/-! ## Which exceptions `select_ports` raises -/

/-- A computation that raises only exceptions `P` holds of. -/
def RaisesOnly (P : Exn → Prop) {α : Type} (x : Py α) : Prop :=
  ∀ s e s', x s = .error e s' → P e

section RaisesOnly

variable {P : Exn → Prop} {α β : Type}

theorem RaisesOnly.pure (a : α) : RaisesOnly P (pure a : Py α) := fun _ _ _ raised =>
  nomatch raised

theorem RaisesOnly.emit (call : Call) : RaisesOnly P (Py.emit call) := fun _ _ _ raised =>
  nomatch raised

theorem RaisesOnly.history : RaisesOnly P Py.history := fun _ _ _ raised => nomatch raised

theorem RaisesOnly.logAndRaise {e : Exn} (holds : P e) : RaisesOnly P (logAndRaise e : Py α) := by
  intro s e' s' raised
  cases raised
  exact holds

theorem RaisesOnly.attempt (x : Py α) : RaisesOnly P (Py.attempt x) := by
  intro s e s' raised
  rw [run_attempt] at raised
  split at raised <;> cases raised

theorem RaisesOnly.bind {x : Py α} {f : α → Py β} (first : RaisesOnly P x)
    (rest : ∀ a, RaisesOnly P (f a)) : RaisesOnly P (x >>= f) := by
  intro s e s' raised
  rw [run_bind] at raised
  split at raised
  · exact rest _ _ _ _ raised
  · cases raised
    exact first _ _ _ ‹_›

end RaisesOnly

section Allocation

variable (cfg : Settings) (w : World)

/-- Every exception of `select_ports` is the `RuntimeError` of a `select_socket` that ran out of
retries: `select_ports` raises only exceptions a property of every `RuntimeError` holds of. -/
theorem selectPorts_raisesOnly {P : Exn → Prop} (runtime : ∀ message, P (.runtimeError message))
    (count : Nat) : RaisesOnly P (selectPorts cfg w count) := by
  have loop : ∀ sock budget, RaisesOnly P (selectSocketLoop cfg w sock budget) := by
    intro sock budget
    induction budget with
    | zero | succ budget ih =>
      rw [selectSocketLoop]
      refine RaisesOnly.bind (RaisesOnly.attempt _) fun result => ?_
      rcases result with e | port
      · first
          | exact RaisesOnly.logAndRaise (runtime _)
          | exact ih
      · exact RaisesOnly.pure port
  have select : RaisesOnly P (selectSocket cfg w) :=
    RaisesOnly.bind (RaisesOnly.bind RaisesOnly.history fun _ =>
      RaisesOnly.bind (RaisesOnly.emit _) fun _ => RaisesOnly.pure _) fun sock =>
        RaisesOnly.bind (loop sock _) fun _ => RaisesOnly.pure _
  have gather : ∀ n, RaisesOnly P (gatherSockets cfg w n) := by
    intro n
    induction n with
    | zero => exact RaisesOnly.pure _
    | succ n ih =>
        exact RaisesOnly.bind select fun _ => RaisesOnly.bind ih fun _ => RaisesOnly.pure _
  have close : ∀ socks, RaisesOnly P (closeSockets socks) := by
    intro socks
    induction socks with
    | nil => exact RaisesOnly.pure _
    | cons sock rest ih => exact RaisesOnly.bind (RaisesOnly.emit _) fun _ => ih
  exact RaisesOnly.bind (gather count) fun _ =>
    RaisesOnly.bind (close _) fun _ => RaisesOnly.pure _

/-- `select_ports` closes what it opens unless it raises its `RuntimeError`, which is not a
timeout. -/
theorem selectPorts_closesUnless (count : Nat) :
    ClosesUnless (fun e => e.isTimeout = false) (selectPorts cfg w count) := by
  intro s
  obtain ⟨new, result⟩ := selectPorts_openSockets cfg w count s
  rcases result with ⟨ports, returned, closed⟩ | ⟨e, raised, -, -⟩
  · exact ⟨new, by rw [returned]; rfl, .inl closed⟩
  · exact ⟨new, by rw [raised]; rfl,
      .inr ⟨_, _, raised, selectPorts_raisesOnly cfg w (P := fun e => e.isTimeout = false)
        (fun _ => rfl) count _ _ _ raised⟩⟩

end Allocation

/-! ## The steps that close what they open -/

section Frames

variable (cfg : Settings) (w : World)

theorem kill_closesSockets (restart : Bool) : Keeps ClosesSockets (kill w restart) :=
  kill_frame w ClosesSockets.composes.sequenced (fun _ => ClosesSockets.emit _ rfl)
    (fun _ => ClosesSockets.emit _ rfl) restart

theorem getContainerStatus_closesSockets (iteration : Option String) :
    Keeps ClosesSockets (getContainerStatus w iteration) :=
  getContainerStatus_frame w ClosesSockets.composes.sequenced (fun _ => ClosesSockets.modifySelf _)
    iteration

theorem handleLaunchTimeout_closesSockets : Keeps ClosesSockets (handleLaunchTimeout cfg w) :=
  handleLaunchTimeout_frame cfg w ClosesSockets.composes.sequenced (ClosesSockets.emit _ rfl)
    (fun _ => ClosesSockets.emit _ rfl) (kill_closesSockets w false)

theorem detectLaunchFailure_closesSockets : Keeps ClosesSockets (detectLaunchFailure cfg w) :=
  detectLaunchFailure_frame cfg w ClosesSockets.composes.sequenced (ClosesSockets.emit _ rfl)
    (ClosesSockets.modifySelf _)

theorem startLauncher_closesSockets (cmd : List String) :
    Keeps ClosesSockets (startLauncher cfg w cmd) :=
  startLauncher_frame cfg w ClosesSockets.composes.sequenced (fun _ => ClosesSockets.emit _ rfl)
    (fun _ _ => ClosesSockets.modifySelf _) cmd

theorem markStartTime_closesSockets : Keeps ClosesSockets (markStartTime w) :=
  markStartTime_frame w ClosesSockets.composes.sequenced (fun _ => ClosesSockets.emit _ rfl)
    fun _ => ClosesSockets.modifySelf _

theorem sendListenerRequest_closesSockets (request : ListenerRequest) :
    Keeps ClosesSockets (sendListenerRequest w request) := fun s =>
  let ⟨new, result, closed⟩ := sendListenerRequest_closes w request s
  ⟨new, by rw [result]; rfl, closed⟩

theorem sendSignal_closesSockets (signum : Int) :
    Keeps ClosesSockets (sendSignal cfg w signum) :=
  sendSignal_frame cfg w ClosesSockets.composes.sequenced
    (poll_frame w ClosesSockets.composes.sequenced (getContainerStatus_closesSockets w none))
    (kill_closesSockets w false)
    (baseSendSignal_frame cfg w ClosesSockets.composes.sequenced
      (sendSignalViaListener_frame w ClosesSockets.composes.catching
        (sendListenerRequest_closesSockets w))
      (signalLauncher_frame cfg w ClosesSockets.composes.catching
        (fun _ _ => ClosesSockets.emit _ rfl) fun _ => ClosesSockets.emit _ rfl))
    signum

theorem shutdownRequest_closesSockets : Keeps ClosesSockets (shutdownRequest w) :=
  shutdownRequest_frame w ClosesSockets.composes.catching (sendListenerRequest_closesSockets w _)

theorem terminateTunnelProcess_closesSockets (handle : Nat) :
    Keeps ClosesSockets (terminateTunnelProcess w handle) :=
  terminateTunnelProcess_frame w ClosesSockets.composes.sequenced
    (fun _ => ClosesSockets.emit _ rfl) handle

theorem terminateCommTunnel_closesSockets : Keeps ClosesSockets (terminateCommTunnel w) :=
  terminateCommTunnel_frame w ClosesSockets.composes.sequenced
    (terminateTunnelProcess_closesSockets w) (ClosesSockets.modifySelf _)

theorem baseCleanup_closesSockets : Keeps ClosesSockets (baseCleanup w) :=
  baseCleanup_frame w ClosesSockets.composes.sequenced (fun _ => ClosesSockets.emit _ rfl)
    (ClosesSockets.modifySelf _) (ClosesSockets.modifySelf _)

theorem preLaunch_closesSockets (env : Env) (others : PyDict PyVal) :
    Keeps ClosesSockets (preLaunch cfg w env others) := fun s => by
  rw [resultState_preLaunch]
  exact ⟨[.registerEvent cfg.kernelId], rfl, rfl⟩

end Frames

/-! ## Setting up the connection -/

section Setup

variable (cfg : Settings) (w : World)

theorem createSshTunnel_closesSockets (kernelChannel : KernelChannel) (localPort : Nat)
    (remotePort remoteIp : PyVal) (server : Option String) (port : Int) :
    Keeps ClosesSockets
      (createSshTunnel cfg w kernelChannel localPort remotePort remoteIp server port) :=
  createSshTunnel_frame cfg w ClosesSockets.composes.catching (fun _ _ => ClosesSockets.emit _ rfl)
    (fun _ _ => ClosesSockets.modifySelf _) kernelChannel localPort remotePort remoteIp server port

/-- `_setup_connection_info` closes what it opens unless it raises something other than a
timeout: only `select_ports` opens sockets there. -/
theorem setupConnectionInfo_closesUnless (connectInfo : Payload) :
    ClosesUnless (fun e => e.isTimeout = false) (setupConnectionInfo cfg w connectInfo) :=
  setupConnectionInfo_frame cfg w ClosesUnless.sequenced
    (tunnelToKernel_frame cfg w ClosesUnless.sequenced (selectPorts_closesUnless cfg w 5)
      fun _ _ _ _ _ _ _ => (createSshTunnel_closesSockets cfg w _ _ _ _ _ _).closesUnless)
    (tunnelToPort_frame cfg w ClosesUnless.sequenced (selectPorts_closesUnless cfg w 1)
      fun _ _ _ _ _ _ => (createSshTunnel_closesSockets cfg w _ _ _ _ _ _).closesUnless)
    (fun _ => ClosesUnless.modifySelf _) (fun _ => ClosesUnless.modifySelf _)
    (fun _ => ClosesUnless.modifySelf _)
    (fun _ => (updateConnection_frame cfg w ClosesSockets.composes.sequenced
      (fun _ => (extractPidInfo_keepsConnection w _).mono fun _ _ kept =>
        ClosesSockets.of_calls kept.calls)
      (fun _ => ClosesSockets.modifySelf _) _).closesUnless)
    connectInfo

/-- Whatever runs before it, a computation that ends in `log_and_raise` raises. -/
theorem bind_logAndRaise_raises {β γ : Type} (x : Py γ) (e : Exn) (s : Sys) :
    ∃ e' s', (x >>= fun _ => (logAndRaise e : Py β)) s = .error e' s' := by
  rw [run_bind]
  cases x s <;> exact ⟨_, _, rfl⟩

/-- **The wait for the payload closes what it opens unless it raises.** A wait that returns,
with the payload or after a timeout, has closed every socket it opened. -/
theorem awaitPayload_closesUnless : ClosesUnless (fun _ => True) (awaitPayload cfg w) := by
  have received : ClosesUnless (fun _ => True) (receiveConnectionInfo cfg w) := by
    refine ClosesUnless.attempt_bind (ClosesUnless.bind ClosesUnless.history fun calls =>
        ClosesUnless.bind (ClosesUnless.ofExcept (w.connectionInfo calls))
          (setupConnectionInfo_closesUnless cfg w)) (fun received => ?_) fun e notTimeout s => ?_
    · rcases received with e | ⟨⟩
      · dsimp only
        split
        · exact ClosesUnless.pure _
        · exact ClosesUnless.bind ClosesUnless.getSelf fun _ =>
            ClosesUnless.bind (kill_closesSockets w false).closesUnless fun _ =>
              ClosesUnless.logAndRaise _
      · exact ClosesUnless.pure _
    · simp only [notTimeout, Bool.false_eq_true, ↓reduceIte]
      rw [run_bind, run_getSelf]
      obtain ⟨e', s', raised⟩ := bind_logAndRaise_raises (kill w false) _ s
      exact ⟨e', s', raised, trivial⟩
  exact awaitPayload_frame cfg w ClosesUnless.sequenced received (ClosesUnless.modifySelf _)

end Setup

/-! ## Runs -/

/-- Along a run of steps, each of which closes what it opens unless it raises, every socket the
run leaves open was left open by a step that raised. -/
theorem leftOpen_of_closesUnless {β : Type} (step : β → Py Unit) (run : List β → Sys → Sys)
    (run_nil : ∀ s, run [] s = s)
    (run_cons : ∀ b rest s, run (b :: rest) s = run rest (resultState (step b s)))
    (Leaky : β → Prop) (each : ∀ b, ClosesUnless (fun _ => Leaky b) (step b))
    (steps : List β) (s : Sys) :
    ∃ new, (run steps s).calls = s.calls ++ new ∧ ∀ sock ∈ openSockets new,
      ∃ i, ∃ inRun : i < steps.length, Leaky steps[i] ∧
        RaisesLeavingOpen (step steps[i]) (run (steps.take i) s) sock := by
  induction steps generalizing s with
  | nil => exact ⟨[], by rw [run_nil, List.append_nil], fun _ mem => nomatch mem⟩
  | cons b rest ih =>
      obtain ⟨new, calls, outcome⟩ := each b s
      obtain ⟨more, calls', later⟩ := ih (resultState (step b s))
      refine ⟨new ++ more, by rw [run_cons, calls', calls, List.append_assoc],
        fun sock mem => ?_⟩
      rcases mem_openSockets_append mem with first | second
      · rcases outcome with closed | ⟨e, s', raised, leaky⟩
        · rw [closed] at first
          exact nomatch first
        · rw [raised] at calls
          refine ⟨0, Nat.zero_lt_succ _, leaky, e, s', new, ?_, ?_, first⟩ <;>
            rw [List.take_zero, run_nil]
          exacts [raised, calls]
      · obtain ⟨i, inRun, leaky, leaves⟩ := later sock second
        exact ⟨i + 1, Nat.succ_lt_succ inRun, leaky, by
          rw [List.take_succ_cons, run_cons]
          exact leaves⟩

section Runs

variable (cfg : Settings) (w : World)

/-- A `launch_kernel` closes what it opens unless a pass of its confirmation loop raises. -/
theorem launchKernel_closesUnless (cmd : List String) (fuel : Nat) :
    ClosesUnless (fun _ => True) (launchKernel cfg w cmd fuel) :=
  launchKernel_frame cfg w ClosesUnless.sequenced
    (fun cmd => (startLauncher_closesSockets cfg w cmd).closesUnless)
    (markStartTime_closesSockets w).closesUnless
    (confirmPass_frame cfg w ClosesUnless.sequenced (handleLaunchTimeout_closesSockets cfg w).closesUnless
      (checkContainer_frame cfg w ClosesUnless.sequenced
        (fun _ => (getContainerStatus_closesSockets w _).closesUnless)
        (awaitPayload_closesUnless cfg w) (detectLaunchFailure_closesSockets cfg w).closesUnless))
    cmd fuel

/-- Only the wait for the payload may leave a socket open, and only when it raises. -/
theorem runSegment_closesUnless (segment : Segment) :
    ClosesUnless (fun _ => segment = .awaitPayload) (runSegment cfg w segment) := by
  cases segment with
  | preLaunch env others =>
      exact (Keeps.map _ (preLaunch_closesSockets cfg w env others)).closesUnless
  | startLauncher cmd => exact (startLauncher_closesSockets cfg w cmd).closesUnless
  | markStartTime => exact (markStartTime_closesSockets w).closesUnless
  | handleLaunchTimeout => exact (handleLaunchTimeout_closesSockets cfg w).closesUnless
  | getContainerStatus iteration =>
      exact (Keeps.map _ (getContainerStatus_closesSockets w iteration)).closesUnless
  | detectLaunchFailure => exact (detectLaunchFailure_closesSockets cfg w).closesUnless
  | awaitPayload => exact ClosesUnless.map _ ((awaitPayload_closesUnless cfg w).mono fun _ _ => rfl)
  | sendSignal signum => exact (sendSignal_closesSockets cfg w signum).closesUnless
  | kill restart => exact (kill_closesSockets w restart).closesUnless
  | shutdownRequest => exact (shutdownRequest_closesSockets w).closesUnless
  | terminateCommTunnel => exact (terminateCommTunnel_closesSockets w).closesUnless
  | baseCleanup => exact (baseCleanup_closesSockets w).closesUnless
  | otherUpdate connectInfo =>
      exact (ClosesSockets.modifySelf fun self =>
        { self with connectionInfo := self.connectionInfo.update connectInfo }).closesUnless

/-- Only `launch_kernel` may leave a socket open, and only when it raises. -/
theorem runOperation_closesUnless (operation : Operation) :
    ClosesUnless (fun _ => ∃ cmd fuel, operation = .launchKernel cmd fuel)
      (runOperation cfg w operation) := by
  cases operation with
  | preLaunch env others =>
      exact (Keeps.map _ (preLaunch_closesSockets cfg w env others)).closesUnless
  | launchKernel cmd fuel =>
      exact ClosesUnless.map _
        ((launchKernel_closesUnless cfg w cmd fuel).mono fun _ _ => ⟨cmd, fuel, rfl⟩)
  | sendSignal signum => exact (sendSignal_closesSockets cfg w signum).closesUnless
  | kill restart => exact (kill_closesSockets w restart).closesUnless
  | terminate restart => exact (kill_closesSockets w restart).closesUnless
  | shutdownRequested =>
      exact (shutdownListener_frame w ClosesSockets.composes.sequenced
        (shutdownRequest_closesSockets w) (terminateCommTunnel_closesSockets w)).closesUnless
  | cleanup =>
      exact (cleanup_frame w ClosesSockets.composes.sequenced (kill_closesSockets w false)
        (baseCleanup_closesSockets w)).closesUnless

/-- **A socket stays open only after a failed launch.** From any state, every socket that a run
of segments, in any interleaving, leaves open was opened and left open by a wait for the payload
that raised; every socket that a sequence of whole operations leaves open, by a `launch_kernel`
that raised. -/
theorem sockets_left_open_only_by_raising_launch (s : Sys) :
    (∀ segments, ∃ new, (runSegments cfg w segments s).calls = s.calls ++ new ∧
      ∀ sock ∈ openSockets new, ∃ i, ∃ inRun : i < segments.length,
        segments[i] = .awaitPayload ∧
        RaisesLeavingOpen (runSegment cfg w segments[i]) (runSegments cfg w (segments.take i) s)
          sock) ∧
    ∀ operations, ∃ new, (runOperations cfg w operations s).calls = s.calls ++ new ∧
      ∀ sock ∈ openSockets new, ∃ i, ∃ inRun : i < operations.length,
        (∃ cmd fuel, operations[i] = .launchKernel cmd fuel) ∧
        RaisesLeavingOpen (runOperation cfg w operations[i])
          (runOperations cfg w (operations.take i) s) sock :=
  ⟨fun segments => leftOpen_of_closesUnless (runSegment cfg w) (runSegments cfg w) (fun _ => rfl)
      (fun _ _ _ => rfl) _ (runSegment_closesUnless cfg w) segments s,
    fun operations => leftOpen_of_closesUnless (runOperation cfg w) (runOperations cfg w)
      (fun _ => rfl) (fun _ _ _ => rfl) _ (runOperation_closesUnless cfg w) operations s⟩

end Runs

end RemoteProvisioners
