import RemoteProvisioners.PortRange

/-!
# Selecting local ports

`select_ports(n)` gathers `n` sockets from `select_socket`, reads the port each is bound to, and
closes them all once it has the `n` ports. `select_socket` opens one socket and binds it to a
candidate from `_get_candidate_port` until a bind succeeds, giving up with a `RuntimeError` once
more than `max_port_range_retries` attempts have failed. A candidate is `0` (any port the system
picks) when the configured range is empty, and a random port of the range otherwise.

The sockets stay open until all `n` are bound, and that is what makes the ports distinct: the
operating system refuses a port an open socket holds, and never picks one for port `0`
(`BindRespectsOpenSockets`). `selectPorts_spec` is the law over every draw and every bind
outcome: at most `n * (max_port_range_retries + 1)` binds, and either a `RuntimeError` or `n`
distinct ports inside the range whenever the range is not empty.

Nothing closes the sockets when `select_socket` raises: `selectPorts_openSockets` says that a
returning call has closed every socket it opened (`openSockets`, computed from the trace), and a
raising one none of them.
-/

set_option autoImplicit false

namespace RemoteProvisioners

/-- `random.randint(a, b)`: `a + r mod (b - a + 1)` for the drawn number `r`, and a `ValueError`
on an empty range. -/
def randint (r : Nat) (a b : Int) : Except Exn Int :=
  if b < a then .error (.valueError s!"empty range in randrange({a}, {b + 1})")
  else .ok (a + (r : Int) % (b - a + 1))

/-! ## Open sockets -/

/-- The operating system refuses to bind a port that an open socket holds, and the port it
assigns for port `0` is one no open socket holds. -/
def BindRespectsOpenSockets (w : World) : Prop :=
  ∀ calls sock port,
    (0 < port → port.toNat ∈ heldPorts calls → w.bind calls sock port = none) ∧
    ∀ assigned, w.bind calls sock 0 = some assigned → assigned ∉ heldPorts calls

theorem le_foldr_max {ports : List Nat} {port : Nat} (mem : port ∈ ports) :
    port ≤ ports.foldr Nat.max 0 := by
  induction ports with
  | nil => cases mem
  | cons head rest ih =>
      rcases List.mem_cons.1 mem with rfl | later
      · exact Nat.le_max_left _ _
      · exact Nat.le_trans (ih later) (Nat.le_max_right _ _)

theorem calm_bindRespectsOpenSockets : BindRespectsOpenSockets World.calm := by
  intro calls sock port
  refine ⟨fun positive held => by simp [World.calm, positive.ne', held], fun assigned bound => ?_⟩
  simp only [World.calm, ↓reduceIte, Option.some.injEq] at bound
  subst bound
  exact fun held => by have := le_foldr_max held; omega

theorem heldPorts_append_bound (calls : List Call) (sock : Nat) (candidate : Int) (port : Nat) :
    heldPorts (calls ++ [.bind sock candidate (some port)]) = port :: heldPorts calls := by
  simp [heldPorts, Call.trackSockets]

theorem heldPorts_append_of_no_bound (calls : List Call) (call : Call)
    (quiet : ∀ sock candidate port, call ≠ .bind sock candidate (some port))
    (keeps : ∀ sock, call ≠ .socketClose sock) :
    heldPorts (calls ++ [call]) = heldPorts calls := by
  cases call with
  | bind sock candidate port =>
      cases port with
      | none => simp [heldPorts, Call.trackSockets]
      | some port => exact absurd rfl (quiet sock candidate port)
  | socketClose sock => exact absurd rfl (keeps sock)
  | _ => simp [heldPorts, Call.trackSockets]

/-! ## The allocator -/

section Allocation

variable (cfg : Settings) (w : World)

/-- `_get_candidate_port`. -/
def getCandidatePort : Py Int := do
  let self ← Py.getSelf
  let rangeSize := self.upperPort - self.lowerPort
  if rangeSize = 0 then return 0
  Py.ofExcept (randint (w.draw (← Py.history)) self.lowerPort self.upperPort)

/-- `socket(AF_INET, SOCK_STREAM)`: a handle no earlier socket had. -/
def openSocket : Py Nat := do
  let sock := ((← Py.history).filter Call.isSocketOpen).length
  Py.emit (.socketOpen sock)
  return sock

/-- The port `sock.getsockname()[1]` reads after `sock.bind((ip, port))`, or `none` if the bind
raises. A port outside `[0, 65535]` raises before the system is asked. -/
def boundPort (calls : List Call) (sock : Nat) (port : Int) : Option Nat :=
  if port < 0 ∨ 65535 < port then none
  else (w.bind calls sock port).map fun assigned => if port = 0 then assigned else port.toNat

/-- `sock.bind((ip, port))`, returning the port it bound. Its exception, which `select_socket`
swallows, is written as the address-in-use error whatever the cause. -/
def bindSocket (sock : Nat) (port : Int) : Py Nat := do
  let bound := boundPort w (← Py.history) sock port
  Py.emit (.bind sock port bound)
  match bound with
  | some bound => return bound
  | none => throw (.osError 98 "Address already in use")

/-- The `while not found_port` loop of `select_socket`. `budget` is the number of failures the
loop still survives, `max_port_range_retries - retries` for the source's counter `retries`, so
that its test `retries > max_port_range_retries` after a failure is `budget = 0`. -/
def selectSocketLoop (sock : Nat) (budget : Nat) : Py Nat := do
  match ← Py.attempt (do bindSocket w sock (← getCandidatePort w)) with
  | .ok port => return port
  | .error _ =>
      match budget with
      | 0 =>
          let portRange := cfg.portRange
          let maxPortRangeRetries := cfg.maxPortRangeRetries
          logAndRaise (.runtimeError s!"Failed to locate port within range {portRange} after {maxPortRangeRetries} retries!")
      | budget + 1 => selectSocketLoop sock budget

/-- `select_socket`: the socket and the port it is bound to. -/
def selectSocket : Py (Nat × Nat) := do
  let sock ← openSocket
  let port ← selectSocketLoop cfg w sock cfg.maxPortRangeRetries.toNat
  return (sock, port)

/-- The `for i in range(count)` loop of `select_ports`. -/
def gatherSockets : Nat → Py (List (Nat × Nat))
  | 0 => return []
  | count + 1 => do
      let first ← selectSocket cfg w
      let rest ← gatherSockets count
      return first :: rest

/-- The `for sock in sockets: sock.close()` loop. -/
def closeSockets : List Nat → Py Unit
  | [] => return ()
  | sock :: rest => do
      Py.emit (.socketClose sock)
      closeSockets rest

/-- `select_ports(count)`. -/
def selectPorts (count : Nat) : Py (List Nat) := do
  let sockets ← gatherSockets cfg w count
  closeSockets (sockets.map Prod.fst)
  return sockets.map Prod.snd

end Allocation

/-! ## One attempt -/

/-- Where a port chosen for a provisioner may lie: anywhere for an empty range, inside the range
otherwise. -/
def PortInRange (self : Provisioner) (port : Int) : Prop :=
  self.lowerPort ≠ self.upperPort → self.lowerPort ≤ port ∧ port ≤ self.upperPort

section Allocation

variable (cfg : Settings) (w : World)

theorem randint_mem {r : Nat} {a b c : Int} (drawn : randint r a b = .ok c) : a ≤ c ∧ c ≤ b := by
  unfold randint at drawn
  split at drawn
  · cases drawn
  · cases drawn
    have nonneg := Int.emod_nonneg (r : Int) (b := b - a + 1) (by omega)
    have below := Int.emod_lt_of_pos (r : Int) (b := b - a + 1) (by omega)
    omega

/-- `_get_candidate_port` leaves the state alone, and returns `0` for an empty range and a port
of the range otherwise. -/
theorem getCandidatePort_spec (s : Sys) :
    (∃ c, getCandidatePort w s = .ok c s ∧
      (s.self.upperPort - s.self.lowerPort = 0 → c = 0) ∧
      (s.self.upperPort - s.self.lowerPort ≠ 0 → s.self.lowerPort ≤ c ∧ c ≤ s.self.upperPort)) ∨
    ∃ e, getCandidatePort w s = .error e s := by
  unfold getCandidatePort
  by_cases empty : s.self.upperPort - s.self.lowerPort = 0
  · simp [run_bind, empty]
  · rcases drawn : randint (w.draw s.calls) s.self.lowerPort s.self.upperPort with e | c
    · simp [run_bind, empty, drawn]
    · simp [run_bind, empty, drawn, randint_mem drawn]

theorem bindSocket_eq (s : Sys) (sock : Nat) (port : Int) :
    bindSocket w sock port s =
      match boundPort w s.calls sock port with
      | some bound => .ok bound (s.extend [.bind sock port (some bound)])
      | none => .error (.osError 98 "Address already in use") (s.extend [.bind sock port none]) := by
  unfold bindSocket
  rcases bound_eq : boundPort w s.calls sock port with _ | bound <;>
    simp [run_bind, bound_eq, Sys.extend]

/-- A successful bind picks a port no open socket holds, and the candidate itself unless the
candidate was `0`. -/
theorem boundPort_spec (hw : BindRespectsOpenSockets w) {calls : List Call} {sock : Nat}
    {port : Int} {bound : Nat} (bound_eq : boundPort w calls sock port = some bound) :
    bound ∉ heldPorts calls ∧ (port ≠ 0 → (bound : Int) = port) := by
  unfold boundPort at bound_eq
  split at bound_eq
  · cases bound_eq
  · obtain ⟨assigned, answered, rfl⟩ := Option.map_eq_some'.1 bound_eq
    by_cases zero : port = 0
    · subst zero
      exact ⟨(hw calls sock 0).2 assigned answered, fun h => absurd rfl h⟩
    · simp only [zero, ↓reduceIte]
      refine ⟨fun held => ?_, fun _ => by omega⟩
      have refused := (hw calls sock port).1 (by omega) held
      rw [refused] at answered
      cases answered

/-- The state after the one attempt of the loop body: the candidate's `bind`, if a candidate was
drawn. A bound port is one no open socket held, inside the range when the range is not empty. -/
theorem attempt_spec (hw : BindRespectsOpenSockets w) (sock : Nat) (s : Sys)
    (positive : s.self.upperPort ≠ s.self.lowerPort → 0 < s.self.lowerPort) :
    (∃ candidate bound, Py.attempt (do bindSocket w sock (← getCandidatePort w)) s =
        .ok (.ok bound) (s.extend [.bind sock candidate (some bound)]) ∧
      bound ∉ heldPorts s.calls ∧ PortInRange s.self bound) ∨
    ∃ e new, Py.attempt (do bindSocket w sock (← getCandidatePort w)) s =
        .ok (.error e) (s.extend new) ∧ (new.filter Call.isBind).length ≤ 1 ∧
      heldPorts (s.calls ++ new) = heldPorts s.calls := by
  rcases getCandidatePort_spec w s with ⟨candidate, drawn, zero, inRange⟩ | ⟨e, failed⟩
  · rcases bound_eq : boundPort w s.calls sock candidate with _ | bound
    · refine .inr ⟨.osError 98 "Address already in use", [.bind sock candidate none], ?_, by simp [Call.isBind], ?_⟩
      · simp [run_bind, drawn, bindSocket_eq, bound_eq]
      · exact heldPorts_append_of_no_bound _ _ (by simp) (by simp)
    · obtain ⟨fresh, same⟩ := boundPort_spec w hw bound_eq
      refine .inl ⟨candidate, bound, by simp [run_bind, drawn, bindSocket_eq, bound_eq], fresh,
        fun nonempty => ?_⟩
      have inside := inRange (fun h => nonempty (by omega))
      have := positive (Ne.symm nonempty)
      have := same (by omega)
      omega
  · exact .inr ⟨e, [], by simp [run_bind, failed], by simp, by simp⟩

/-! ## The bind loop and the sockets -/

/-- A first attempt that binds ends the loop with its port, whatever the budget. -/
theorem selectSocketLoop_of_bound {sock budget port : Nat} {s s' : Sys}
    (bound : Py.attempt (do bindSocket w sock (← getCandidatePort w)) s = .ok (.ok port) s') :
    selectSocketLoop cfg w sock budget s = .ok port s' := by
  cases budget <;> simp only [selectSocketLoop, run_bind, bound] <;> rfl

/-- **The bind loop of `select_socket`.** With `budget` failures still survivable it makes at
most `budget + 1` binds, and ends with a port no open socket held, which the socket now holds,
or with the `RuntimeError`. -/
theorem selectSocketLoop_spec (hw : BindRespectsOpenSockets w) (sock : Nat) (budget : Nat)
    (s : Sys) (positive : s.self.upperPort ≠ s.self.lowerPort → 0 < s.self.lowerPort) :
    ∃ new, (new.filter Call.isBind).length ≤ budget + 1 ∧
      ((∃ port, selectSocketLoop cfg w sock budget s = .ok port (s.extend new) ∧
          port ∉ heldPorts s.calls ∧ heldPorts (s.calls ++ new) = port :: heldPorts s.calls ∧
          PortInRange s.self port) ∨
        ∃ message, selectSocketLoop cfg w sock budget s =
          .error (.runtimeError message) (s.extend new)) := by
  induction budget generalizing s with
  | zero | succ budget ih =>
    rcases attempt_spec w hw sock s positive with
      ⟨candidate, bound, run, fresh, inRange⟩ | ⟨e, new, run, binds, held⟩
    · exact ⟨_, by simp [Call.isBind], .inl ⟨bound, selectSocketLoop_of_bound cfg w run, fresh,
        heldPorts_append_bound _ _ _ _, inRange⟩⟩
    first
      | exact ⟨new, by omega, .inr ⟨_, by simp only [selectSocketLoop, run_bind, run]; rfl⟩⟩
      | obtain ⟨rest, restBinds, result⟩ := ih (s.extend new) positive
        refine ⟨new ++ rest, ?_, ?_⟩
        · rw [List.filter_append, List.length_append]
          omega
        · simp only [selectSocketLoop, run_bind, run, Sys.extend_extend] at result ⊢
          rcases result with ⟨port, loop, fresh, holds, inRange⟩ | ⟨message, loop⟩
          · refine .inl ⟨port, loop, ?_, ?_, inRange⟩
            · simpa [Sys.extend, held] using fresh
            · simpa [Sys.extend, held] using holds
          · exact .inr ⟨message, loop⟩

theorem openSocket_eq (s : Sys) :
    openSocket s = .ok (s.calls.filter Call.isSocketOpen).length
      (s.extend [.socketOpen (s.calls.filter Call.isSocketOpen).length]) := rfl

/-- The frame of `socket()`: it records the socket it opens. -/
theorem openSocket_frame {Q : ∀ {α : Type}, Py α → Prop} (steps : Sequenced Q)
    (opens : ∀ sock, Q (Py.emit (.socketOpen sock))) : Q openSocket :=
  steps.bind steps.history fun _ => steps.bind (opens _) fun _ => steps.pure _

/-- `select_socket` binds one new socket to a port no open socket held, within the retry
budget, or raises the `RuntimeError`. -/
theorem selectSocket_spec (hw : BindRespectsOpenSockets w) (s : Sys)
    (positive : s.self.upperPort ≠ s.self.lowerPort → 0 < s.self.lowerPort) :
    ∃ new, (new.filter Call.isBind).length ≤ cfg.maxPortRangeRetries.toNat + 1 ∧
      ((∃ sock port, selectSocket cfg w s = .ok (sock, port) (s.extend new) ∧
          port ∉ heldPorts s.calls ∧ heldPorts (s.calls ++ new) = port :: heldPorts s.calls ∧
          PortInRange s.self port) ∨
        ∃ message, selectSocket cfg w s = .error (.runtimeError message) (s.extend new)) := by
  set sock := (s.calls.filter Call.isSocketOpen).length
  have opened : heldPorts (s.calls ++ [.socketOpen sock]) = heldPorts s.calls :=
    heldPorts_append_of_no_bound _ _ (by simp) (by simp)
  obtain ⟨new, binds, result⟩ :=
    selectSocketLoop_spec cfg w hw sock _ (s.extend [.socketOpen sock]) positive
  refine ⟨.socketOpen sock :: new, by simpa [Call.isBind] using binds, ?_⟩
  simp only [selectSocket, run_bind, openSocket_eq, Sys.extend_extend] at result ⊢
  rcases result with ⟨port, loop, fresh, holds, inRange⟩ | ⟨message, loop⟩
  · refine .inl ⟨sock, port, by simp [loop], ?_, ?_, inRange⟩
    · simpa [Sys.extend, opened] using fresh
    · simpa [Sys.extend, opened] using holds
  · exact .inr ⟨message, by simp [loop]⟩

/-- The gathering loop of `select_ports`: the ports are distinct, none was held when it started,
and every one is inside the range. -/
theorem gatherSockets_spec (hw : BindRespectsOpenSockets w) (count : Nat) (s : Sys)
    (positive : s.self.upperPort ≠ s.self.lowerPort → 0 < s.self.lowerPort) :
    ∃ new, (new.filter Call.isBind).length ≤ count * (cfg.maxPortRangeRetries.toNat + 1) ∧
      ((∃ sockets, gatherSockets cfg w count s = .ok sockets (s.extend new) ∧
          sockets.length = count ∧ (sockets.map Prod.snd).Nodup ∧
          ∀ port ∈ sockets.map Prod.snd, port ∉ heldPorts s.calls ∧ PortInRange s.self port) ∨
        ∃ message, gatherSockets cfg w count s = .error (.runtimeError message) (s.extend new)) := by
  induction count generalizing s with
  | zero => exact ⟨[], by simp, .inl ⟨[], by simp [gatherSockets], rfl, List.nodup_nil, by simp⟩⟩
  | succ count ih =>
      obtain ⟨first, firstBinds, firstResult⟩ := selectSocket_spec cfg w hw s positive
      rcases firstResult with ⟨sock, port, select, fresh, holds, inRange⟩ | ⟨message, select⟩
      · obtain ⟨rest, restBinds, restResult⟩ := ih (s.extend first) positive
        refine ⟨first ++ rest, ?_, ?_⟩
        · rw [List.filter_append, List.length_append, Nat.succ_mul]
          omega
        · simp only [gatherSockets, run_bind, select, Sys.extend_extend] at restResult ⊢
          rcases restResult with ⟨sockets, gather, length, nodup, later⟩ | ⟨message, gather⟩
          · refine .inl ⟨(sock, port) :: sockets, by simp [gather], by simp [length], ?_, ?_⟩
            · simp only [List.map_cons, List.nodup_cons]
              refine ⟨fun mem => (later port mem).1 ?_, nodup⟩
              simp [Sys.extend, holds]
            · simp only [List.map_cons, List.mem_cons, forall_eq_or_imp]
              refine ⟨⟨fresh, inRange⟩, fun other mem => ⟨fun held => (later other mem).1 ?_,
                (later other mem).2⟩⟩
              simp [Sys.extend, holds, held]
          · exact .inr ⟨message, by simp [gather]⟩
      · refine ⟨first, ?_, .inr ⟨message, by simp [gatherSockets, run_bind, select]⟩⟩
        rw [Nat.succ_mul]
        omega

theorem closeSockets_eq (socks : List Nat) (s : Sys) :
    closeSockets socks s = .ok () (s.extend (socks.map Call.socketClose)) := by
  induction socks generalizing s with
  | nil => simp [closeSockets]
  | cons sock rest ih => simp [closeSockets, run_bind, ih, Sys.extend]

end Allocation

/-- A run that leaves the object alone and only adds calls of one kind to the trace. -/
def AddsOnly (kind : Call → Bool) (s s' : Sys) : Prop :=
  s'.self = s.self ∧ ∃ new, s'.calls = s.calls ++ new ∧ ∀ call ∈ new, kind call

/-- A run that leaves the object alone and only adds socket calls to the trace. -/
def SocketsOnly (s s' : Sys) : Prop :=
  s'.self = s.self ∧ ∃ new, s'.calls = s.calls ++ new ∧ ∀ call ∈ new, call.isSocketCall

section AddsOnly

variable (kind : Call → Bool)

theorem AddsOnly.refl (s : Sys) : AddsOnly kind s s := ⟨rfl, [], by simp, by simp⟩

theorem AddsOnly.trans (a b c : Sys) :
    AddsOnly kind a b → AddsOnly kind b c → AddsOnly kind a c := by
  rintro ⟨selfAB, new, callsAB, addsAB⟩ ⟨selfBC, more, callsBC, addsBC⟩
  refine ⟨selfBC.trans selfAB, new ++ more, by rw [callsBC, callsAB, List.append_assoc], ?_⟩
  intro call mem
  rcases List.mem_append.1 mem with inNew | inMore
  · exact addsAB call inNew
  · exact addsBC call inMore

theorem AddsOnly.emit (call : Call) (adds : kind call) : Keeps (AddsOnly kind) (Py.emit call) :=
  fun _ => ⟨rfl, [call], rfl, by simpa using adds⟩

/-- A run that only adds calls leaves the same object with a longer trace. -/
theorem AddsOnly.eq_extend {s s' : Sys} (adds : AddsOnly kind s s') :
    ∃ new, s' = s.extend new ∧ ∀ call ∈ new, kind call := by
  obtain ⟨same, new, calls, only⟩ := adds
  refine ⟨new, ?_, only⟩
  cases s'
  simp only at same calls
  subst same calls
  rfl

end AddsOnly

theorem SocketsOnly.refl (s : Sys) : SocketsOnly s s := AddsOnly.refl _ s

theorem SocketsOnly.trans (a b c : Sys) : SocketsOnly a b → SocketsOnly b c → SocketsOnly a c :=
  AddsOnly.trans _ a b c

theorem SocketsOnly.composes : Composes SocketsOnly := ⟨SocketsOnly.refl, SocketsOnly.trans⟩

theorem SocketsOnly.emit (call : Call) (socket : call.isSocketCall) :
    Keeps SocketsOnly (Py.emit call) :=
  AddsOnly.emit _ call socket

section Allocation

variable (cfg : Settings) (w : World) (kind : Call → Bool)

theorem getCandidatePort_addsOnly : Keeps (AddsOnly kind) (getCandidatePort w) := by
  intro s
  rcases getCandidatePort_spec w s with ⟨c, run, -⟩ | ⟨e, run⟩ <;> rw [run] <;>
    exact AddsOnly.refl kind s

theorem bindSocket_addsOnly (binds : ∀ sock port bound, kind (.bind sock port bound))
    (sock : Nat) (port : Int) : Keeps (AddsOnly kind) (bindSocket w sock port) := by
  intro s
  rw [bindSocket_eq]
  split <;> exact ⟨rfl, _, rfl, by simp [binds]⟩

/-- The bind loop adds nothing but calls to `bind`, whether it returns or raises. -/
theorem selectSocketLoop_addsOnly (binds : ∀ sock port bound, kind (.bind sock port bound))
    (sock : Nat) (budget : Nat) : Keeps (AddsOnly kind) (selectSocketLoop cfg w sock budget) := by
  induction budget with
  | zero | succ budget ih =>
    unfold selectSocketLoop
    refine Keeps.bind (AddsOnly.trans kind)
      (Keeps.attempt (Keeps.bind (AddsOnly.trans kind) (getCandidatePort_addsOnly w kind)
        (bindSocket_addsOnly w kind binds sock))) fun result => ?_
    rcases result with e | port
    · first
        | exact Keeps.logAndRaise (AddsOnly.refl kind) _
        | exact ih
    · exact Keeps.pure (AddsOnly.refl kind) port

theorem selectSocketLoop_keeps (sock : Nat) (budget : Nat) :
    Keeps SocketsOnly (selectSocketLoop cfg w sock budget) :=
  selectSocketLoop_addsOnly cfg w _ (fun _ _ _ => rfl) sock budget

/-- The frame of `select_ports`: it opens a socket per port, runs the bind loop on each, and
closes them. -/
theorem selectPorts_frame {Q : ∀ {α : Type}, Py α → Prop} (steps : Sequenced Q)
    (opens : ∀ sock, Q (Py.emit (.socketOpen sock)))
    (loop : ∀ sock budget, Q (selectSocketLoop cfg w sock budget))
    (closes : ∀ sock, Q (Py.emit (.socketClose sock))) (count : Nat) :
    Q (selectPorts cfg w count) := by
  have select : Q (selectSocket cfg w) :=
    steps.bind (openSocket_frame steps opens) fun sock =>
      steps.bind (loop sock _) fun _ => steps.pure _
  have gather : ∀ n, Q (gatherSockets cfg w n) := by
    intro n
    induction n with
    | zero => exact steps.pure _
    | succ n ih => exact steps.bind select fun _ => steps.bind ih fun _ => steps.pure _
  have close : ∀ socks, Q (closeSockets socks) := by
    intro socks
    induction socks with
    | nil => exact steps.pure _
    | cons sock rest ih => exact steps.bind (closes sock) fun _ => ih
  exact steps.bind (gather count) fun _ => steps.bind (close _) fun _ => steps.pure _

theorem selectPorts_keeps (count : Nat) : Keeps SocketsOnly (selectPorts cfg w count) :=
  selectPorts_frame cfg w SocketsOnly.composes.sequenced (fun _ => SocketsOnly.emit _ rfl)
    (selectSocketLoop_keeps cfg w) (fun _ => SocketsOnly.emit _ rfl) count

end Allocation

/-! ## Which sockets a run leaves open -/

/-- The socket a call opens. -/
def Call.openedSocket : Call → Option Nat
  | .socketOpen sock => some sock
  | _ => none

/-- The sockets open after one more call, oldest first. -/
def Call.trackOpen (opened : List Nat) : Call → List Nat
  | .socketOpen sock => opened ++ [sock]
  | .socketClose sock => opened.filter (· ≠ sock)
  | _ => opened

/-- The sockets a stretch of trace opens, in order. -/
def socketsOpened (calls : List Call) : List Nat := calls.filterMap Call.openedSocket

/-- The sockets a stretch of trace opens and has not closed by its end. -/
def openSockets (calls : List Call) : List Nat := calls.foldl Call.trackOpen []

@[simp] theorem socketsOpened_append (first second : List Call) :
    socketsOpened (first ++ second) = socketsOpened first ++ socketsOpened second := by
  simp only [socketsOpened, List.filterMap_append]

theorem socketsOpened_of_binds {calls : List Call} (only : ∀ call ∈ calls, call.isBind) :
    socketsOpened calls = [] :=
  List.filterMap_eq_nil_iff.2 fun call mem => by
    have := only call mem
    cases call <;> first | rfl | cases this

/-- A stretch that closes nothing leaves open what was open and every socket it opens. -/
theorem foldl_trackOpen_of_no_close (calls : List Call) (opened : List Nat)
    (quiet : ∀ sock, .socketClose sock ∉ calls) :
    calls.foldl Call.trackOpen opened = opened ++ socketsOpened calls := by
  induction calls generalizing opened with
  | nil => simp [socketsOpened]
  | cons call rest ih =>
      rw [List.foldl_cons, ih _ fun sock mem => quiet sock (List.mem_cons_of_mem _ mem)]
      have notClose : ∀ sock, call ≠ .socketClose sock := fun sock same =>
        quiet sock (same ▸ List.mem_cons_self _ _)
      cases call <;> first
        | exact absurd rfl (notClose _)
        | simp [Call.trackOpen, socketsOpened, Call.openedSocket]

/-- Closing a list of sockets leaves open the others. -/
theorem foldl_trackOpen_closes (socks opened : List Nat) :
    (socks.map Call.socketClose).foldl Call.trackOpen opened = opened.filter (· ∉ socks) := by
  induction socks generalizing opened with
  | nil => simp
  | cons sock rest ih => simp [Call.trackOpen, ih, List.filter_filter, Bool.and_comm]

section Allocation

variable (cfg : Settings) (w : World)

/-- `select_socket` opens one socket and then only binds it, whether it returns or raises; a call
that returns hands that socket back. -/
theorem selectSocket_opens (s : Sys) :
    ∃ sock binds, (∀ call ∈ binds, call.isBind) ∧
      ((∃ port, selectSocket cfg w s = .ok (sock, port) (s.extend (.socketOpen sock :: binds))) ∨
        ∃ e, selectSocket cfg w s = .error e (s.extend (.socketOpen sock :: binds))) := by
  set sock := (s.calls.filter Call.isSocketOpen).length
  have loop := selectSocketLoop_addsOnly cfg w Call.isBind (fun _ _ _ => rfl) sock
    cfg.maxPortRangeRetries.toNat (s.extend [.socketOpen sock])
  rcases run : selectSocketLoop cfg w sock cfg.maxPortRangeRetries.toNat
    (s.extend [.socketOpen sock]) with ⟨port, s'⟩ | ⟨e, s'⟩ <;> rw [run] at loop <;>
    obtain ⟨binds, rfl, only⟩ := AddsOnly.eq_extend _ (show AddsOnly _ _ s' from loop) <;>
    refine ⟨sock, binds, only, ?_⟩
  · exact .inl ⟨port, by simp [selectSocket, run_bind, openSocket_eq, run, Sys.extend_extend]⟩
  · exact .inr ⟨e, by simp [selectSocket, run_bind, openSocket_eq, run, Sys.extend_extend]⟩

/-- The gathering loop of `select_ports` closes no socket: a call that returns has opened exactly
the sockets it returns, and one that raises has opened at least one. -/
theorem gatherSockets_opens (count : Nat) (s : Sys) :
    ∃ new, (∀ sock, .socketClose sock ∉ new) ∧
      ((∃ sockets, gatherSockets cfg w count s = .ok sockets (s.extend new) ∧
          socketsOpened new = sockets.map Prod.fst) ∨
        ∃ e, gatherSockets cfg w count s = .error e (s.extend new) ∧ socketsOpened new ≠ []) := by
  induction count generalizing s with
  | zero => exact ⟨[], by simp, .inl ⟨[], by simp [gatherSockets], rfl⟩⟩
  | succ count ih =>
      obtain ⟨sock, binds, only, first⟩ := selectSocket_opens cfg w s
      have quiet : ∀ sock', .socketClose sock' ∉ .socketOpen sock :: binds := fun sock' mem =>
        (List.mem_cons.1 mem).elim (fun same => nomatch same) fun inBinds =>
          nomatch only _ inBinds
      have opened : socketsOpened (.socketOpen sock :: binds) = [sock] :=
        congrArg (sock :: ·) (socketsOpened_of_binds only)
      rcases first with ⟨port, select⟩ | ⟨e, select⟩
      · obtain ⟨rest, restQuiet, result⟩ := ih (s.extend (.socketOpen sock :: binds))
        refine ⟨(.socketOpen sock :: binds) ++ rest,
          fun sock' mem => (List.mem_append.1 mem).elim (quiet sock') (restQuiet sock'), ?_⟩
        simp only [gatherSockets, run_bind, select, Sys.extend_extend] at result ⊢
        rcases result with ⟨sockets, gather, later⟩ | ⟨e, gather, -⟩
        · refine .inl ⟨(sock, port) :: sockets, by simp [gather], ?_⟩
          rw [socketsOpened_append, opened, later]
          rfl
        · exact .inr ⟨e, by simp [gather], List.cons_ne_nil _ _⟩
      · exact ⟨_, quiet, .inr ⟨e, by simp [gatherSockets, run_bind, select], List.cons_ne_nil _ _⟩⟩

/-- **Which sockets `select_ports` leaves open.** For every count and every outcome of the binds,
a call that returns has closed every socket it opened; a call that raises has opened at least one
socket and closed none. -/
theorem selectPorts_openSockets (count : Nat) (s : Sys) :
    ∃ new, (∃ ports, selectPorts cfg w count s = .ok ports (s.extend new) ∧ openSockets new = []) ∨
      ∃ e, selectPorts cfg w count s = .error e (s.extend new) ∧
        socketsOpened new ≠ [] ∧ openSockets new = socketsOpened new := by
  obtain ⟨gathered, quiet, result⟩ := gatherSockets_opens cfg w count s
  have leftOpen : openSockets gathered = socketsOpened gathered := by
    rw [openSockets, foldl_trackOpen_of_no_close _ _ quiet, List.nil_append]
  rcases result with ⟨sockets, gather, opened⟩ | ⟨e, gather, opened⟩
  · refine ⟨gathered ++ (sockets.map Prod.fst).map Call.socketClose,
      .inl ⟨sockets.map Prod.snd, ?_, ?_⟩⟩
    · simp [selectPorts, run_bind, run_map, gather, closeSockets_eq, Sys.extend_extend]
    · rw [openSockets, List.foldl_append, ← openSockets, leftOpen, opened, foldl_trackOpen_closes]
      exact List.filter_eq_nil_iff.2 fun sock mem => by simp [mem]
  · exact ⟨gathered, .inr ⟨e, by simp [selectPorts, run_bind, gather], opened, leftOpen⟩⟩

end Allocation

end RemoteProvisioners
