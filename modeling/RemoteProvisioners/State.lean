import RemoteProvisioners.Runtime

/-!
# Provisioner state, collaborators and the trace of external calls

A `ContainerProvisioner` is one Python object whose fields the lifecycle methods read and
overwrite (`Provisioner`). Everything outside the object is reached through a collaborator: the
operating system (sockets, child processes, signals, the clock), the Secure Response Channel,
the container runtime, `pexpect` and `jupyter_client`. The model records every call the
provisioner makes on one of them, in order, in a trace (`Call`), and a collaborator's answer is
any function of the trace before the call (`World`), so that a theorem over every `World` is a
theorem over every behaviour of the collaborators.

A method is a computation in `Py`, the state monad over the object and the trace in which an
exception keeps the state it was raised in, as a Python exception keeps every assignment made
before it. The module-level constants of `remote_provisioner.py` and `container.py`, and the
traitlets the configuration mixin supplies, are one record (`Settings`).

A property of computations that the code's steps have and sequencing keeps (`Sequenced`), such
as a relation between states that runs compose (`Composes`), holds of a method as soon as it holds
of each step the method takes; each method's module proves that once, as the method's frame
lemma, and every such property a later module needs is an instance of it.
-/

set_option autoImplicit false

namespace RemoteProvisioners

/-! ## Configuration -/

/-- The module-level constants of the two source files and the configured traits of one
provisioner: its kernel spec's `argv`, display name and language, and the response manager's
`response_address` and `public_key` (empty when unset). Durations are in milliseconds; the image
names are those of a provisioner that has them configured. -/
structure Settings where
  kernelId : String
  kernelArgv : List String
  kernelDisplayName : Option String
  kernelLanguage : String
  responseAddress : String
  publicKey : String
  portRange : String
  launchTimeout : Nat
  pollInterval : Nat
  minPortRangeSize : Int
  maxPortRangeRetries : Int
  maxKeepAliveInterval : Int
  sshPort : Int
  tunnelingEnabled : Bool
  isWin32 : Bool
  localIp : String
  authorizedUsers : List String
  unauthorizedUsers : List String
  impersonationEnabled : Bool
  prohibitedUids : List String
  prohibitedGids : List String
  mirrorWorkingDirs : Bool
  imageName : String
  executorImageName : String

/-- The defaults of the module-level constants of the two source files, for a provisioner with
no kernel id, an unconstrained port range and no user restrictions. -/
def Settings.default : Settings where
  kernelId := ""
  kernelArgv := []
  kernelDisplayName := none
  kernelLanguage := ""
  responseAddress := ""
  publicKey := ""
  portRange := "0..0"
  launchTimeout := 30000
  pollInterval := 500
  minPortRangeSize := 1000
  maxPortRangeRetries := 5
  maxKeepAliveInterval := 100 * 365 * 24 * 60 * 60
  sshPort := 22
  tunnelingEnabled := false
  isWin32 := false
  localIp := "127.0.0.1"
  authorizedUsers := []
  unauthorizedUsers := []
  impersonationEnabled := false
  prohibitedUids := ["0"]
  prohibitedGids := ["0"]
  mirrorWorkingDirs := false
  imageName := ""
  executorImageName := ""

/-- `default_kernel_uid`, the jovyan user. -/
def defaultKernelUid : String := "1000"

/-- `default_kernel_gid`, the users group. -/
def defaultKernelGid : String := "100"

/-- `SIGKILL`. -/
def sigkill : Int := 9

/-! ## The object -/

/-- The fields of a `ContainerProvisioner` that the lifecycle methods read or write.
`tunnelProcesses` maps a channel name to the handle of its tunnel child, and `localProc` is the
handle of the launcher process. `connectionInfo` is what `self.connection_info` reads: the class
attribute of `KernelProvisionerBase`, one dictionary for every provisioner of the process, which
the code only updates in place; other provisioners change it between two await points. -/
structure Provisioner where
  startTime : Option Nat
  assignedIp : Option String
  assignedHost : String
  commIp : Option String
  commPort : Int
  kernelUsername : Option String
  tunneledConnectInfo : Option Payload
  tunnelProcesses : PyDict Nat
  localProc : Option Nat
  ip : Option String
  pid : Int
  pgid : Int
  lowerPort : Int
  upperPort : Int
  containerName : Option String
  assignedNodeIp : Option String
  connectionInfo : Payload

/-- The object `ContainerProvisioner.__init__` builds, once `_validate_port_range` has returned
`(lowerPort, upperPort)`, in a process whose shared `connection_info` holds `connectionInfo`. -/
def Provisioner.fresh (lowerPort upperPort : Int) (connectionInfo : Payload) : Provisioner where
  startTime := none
  assignedIp := none
  assignedHost := ""
  commIp := none
  commPort := 0
  kernelUsername := none
  tunneledConnectInfo := none
  tunnelProcesses := .empty
  localProc := none
  ip := none
  pid := 0
  pgid := 0
  lowerPort := lowerPort
  upperPort := upperPort
  containerName := none
  assignedNodeIp := none
  connectionInfo := connectionInfo

/-! ## External calls -/

/-- The request the launcher's listener receives: `{"signum": n}` or `{"shutdown": 1}`. -/
inductive ListenerRequest where
  | signal (signum : Int)
  | shutdown
  deriving DecidableEq, Repr

/-- The `env` argument `pexpect.spawn` receives: `None` (inherit `os.environ`), a mapping, or
any other value. -/
inductive SpawnEnv where
  | inherit
  | mapping (env : Env)
  | value (text : String)
  deriving DecidableEq

/-- A tunnel child as spawned: an `ssh` command line through `pexpect`, or a `paramiko` tunnel
on Windows. -/
inductive TunnelChild where
  | pexpect (command : String) (env : SpawnEnv)
  | paramiko (localPort : Nat) (remotePort : PyVal) (sshServer : String) (remoteIp : PyVal)
  deriving DecidableEq

/-- A call the provisioner makes on a collaborator, in the order made. `kill` marks an entry
into `ContainerProvisioner.kill`; `spawnTunnel` records the channel the tunnel serves. -/
inductive Call where
  | registerEvent (kernelId : String)
  | launchKernel (cmd : List String)
  | readClock (ms : Nat)
  | sleep (ms : Nat)
  | kill (restart : Bool)
  | terminateContainerResources (restart : Bool)
  | procWait
  | procSendSignal (signum : Int)
  | killpg (pgid : Int) (signum : Int)
  | socketOpen (sock : Nat)
  | bind (sock : Nat) (candidate : Int) (port : Option Nat)
  | socketClose (sock : Nat)
  | listenerSend (request : ListenerRequest)
  | spawnTunnel (channel : String) (child : TunnelChild)
  | terminateTunnel (handle : Nat)
  deriving DecidableEq

/-- Whether a call opened a socket. Socket handles count these calls. -/
def Call.isSocketOpen : Call → Bool
  | .socketOpen _ => true
  | _ => false

/-! ## Open sockets in a trace -/

/-- The sockets left open and bound after one more call, with their ports. -/
def Call.trackSockets (table : List (Nat × Nat)) : Call → List (Nat × Nat)
  | .bind sock _ (some port) => (sock, port) :: table
  | .socketClose sock => table.filter (·.1 ≠ sock)
  | _ => table

/-- The ports held by the sockets a trace leaves open. -/
def heldPorts (calls : List Call) : List Nat :=
  (calls.foldl Call.trackSockets []).map Prod.snd

/-- Whether a call is one `select_ports` makes on a socket. -/
def Call.isSocketCall : Call → Bool
  | .socketOpen _ | .bind _ _ _ | .socketClose _ => true
  | _ => false

/-- Whether a call is an entry into `kill`. -/
def Call.isKill : Call → Bool
  | .kill _ => true
  | _ => false

/-- Whether a call is a `bind` attempt. -/
def Call.isBind : Call → Bool
  | .bind _ _ _ => true
  | _ => false

/-- The object and the trace. -/
structure Sys where
  self : Provisioner
  calls : List Call

/-- The object with more calls in the trace. -/
def Sys.extend (s : Sys) (new : List Call) : Sys := { s with calls := s.calls ++ new }

@[simp] theorem Sys.extend_nil (s : Sys) : s.extend [] = s := by simp [Sys.extend]

@[simp] theorem Sys.extend_self (s : Sys) (new : List Call) : (s.extend new).self = s.self := rfl

@[simp] theorem Sys.extend_calls (s : Sys) (new : List Call) :
    (s.extend new).calls = s.calls ++ new := rfl

theorem Sys.extend_extend (s : Sys) (first second : List Call) :
    (s.extend first).extend second = s.extend (first ++ second) := by
  simp [Sys.extend]

/-- A provisioner method: a state computation over the object and the trace that may raise.
An exception keeps the state it was raised in. -/
abbrev Py (α : Type) := EStateM Exn Sys α

/-- The fields a container variant's `get_container_status` assigns once it has found the
kernel's container. -/
structure Placement where
  containerName : Option String
  assignedHost : String
  assignedIp : Option String
  assignedNodeIp : Option String

/-- The placement fields of the object. -/
def Provisioner.placement (self : Provisioner) : Placement :=
  ⟨self.containerName, self.assignedHost, self.assignedIp, self.assignedNodeIp⟩

/-- The object with its placement fields assigned. -/
def Provisioner.place (self : Provisioner) (placement : Placement) : Provisioner :=
  { self with containerName := placement.containerName, assignedHost := placement.assignedHost,
              assignedIp := placement.assignedIp, assignedNodeIp := placement.assignedNodeIp }

@[simp] theorem Provisioner.place_startTime (self : Provisioner) (placement : Placement) :
    (self.place placement).startTime = self.startTime := rfl

@[simp] theorem Provisioner.place_localProc (self : Provisioner) (placement : Placement) :
    (self.place placement).localProc = self.localProc := rfl

@[simp] theorem Provisioner.place_tunnelProcesses (self : Provisioner) (placement : Placement) :
    (self.place placement).tunnelProcesses = self.tunnelProcesses := rfl

@[simp] theorem Provisioner.place_assignedHost (self : Provisioner) (placement : Placement) :
    (self.place placement).assignedHost = placement.assignedHost := rfl

/-- What the collaborators answer, as functions of the trace of calls made before. -/
structure World where
  /-- `getpass.getuser()`. -/
  getuser : String
  /-- The environment `KernelProvisionerBase.pre_launch` builds from the kernel's. -/
  basePreLaunchEnv : Env → Env
  /-- `str.lower()`: the runtime's Unicode lower-case mapping. -/
  lower : String → String
  /-- `os.environ` when a tunnel is spawned. -/
  serverEnv : List Call → Env
  /-- `localinterfaces.is_public_ip(ip) or localinterfaces.is_local_ip(ip)`. -/
  ipIsLocal : Option String → Bool
  /-- The number `random.randint` draws from. -/
  draw : List Call → Nat
  /-- `sock.bind`: `none` if it raises, else the port the system assigned (read back when the
  candidate is `0`). -/
  bind : List Call → Nat → Int → Option Nat
  /-- `tunnel.try_passwordless_ssh(server + ":" + str(port), key)`. -/
  passwordlessSsh : List Call → String → Bool
  /-- The exception a tunnel spawn raises, if any. -/
  spawnFails : List Call → TunnelChild → Option Exn
  /-- The exception a tunnel child's `terminate()` raises, if any. -/
  terminateFails : List Call → Nat → Option Exn
  /-- The exception `terminate_container_resources` raises, if any. -/
  terminateContainerFails : List Call → Option Exn
  /-- The exception `asyncio.sleep` raises, if any (a cancellation). -/
  sleepFails : List Call → Option Exn
  /-- `local_proc.poll()`. -/
  launcherPoll : List Call → Option Int
  /-- The exception `jupyter_client.launch_kernel` raises, if any. -/
  launchFails : List Call → Option Exn
  /-- The pid of the process `jupyter_client.launch_kernel` starts. -/
  launcherPid : List Call → Int
  /-- `get_container_status(iteration)`: the status, or its exception. -/
  containerStatus : List Call → Option String → Except Exn (Option String)
  /-- `get_initial_states()`: the statuses of a container that is starting or running. -/
  initialStates : List String
  /-- Where a status query of a container variant says the kernel runs. -/
  placement : List Call → Placement → Placement
  /-- `response_manager.get_connection_info(kernel_id)`: the payload, or its exception. -/
  connectionInfo : List Call → Except Exn Payload
  /-- `get_current_time()`, in milliseconds. -/
  clock : List Call → Nat
  /-- The exception connecting to the listener or sending to it raises, if any. -/
  listenerFails : List Call → ListenerRequest → Option Exn
  /-- The exception `os.killpg(pgid, signum)` raises, if any. -/
  killpgFails : List Call → Option Exn
  /-- The exception `local_proc.send_signal(signum)` raises, if any: `Popen.send_signal` lets an
  `OSError` of `os.kill` other than `ProcessLookupError` through. -/
  procSendSignalFails : List Call → Int → Option Exn

/-- A world in which every call succeeds, no launcher exits, no container reports a status,
no connection payload arrives, the clock stands still, and a bind fails only on a port an open
socket holds, the system assigning for port `0` a port above every held one. -/
def World.calm : World where
  getuser := "jovyan"
  basePreLaunchEnv := id
  lower := String.toLower
  serverEnv := fun _ => .empty
  ipIsLocal := fun _ => true
  draw := fun _ => 0
  bind := fun calls _ port =>
    if port = 0 then some ((heldPorts calls).foldr Nat.max 0 + 1)
    else if port.toNat ∈ heldPorts calls then none else some port.toNat
  passwordlessSsh := fun _ _ => true
  spawnFails := fun _ _ => none
  terminateFails := fun _ _ => none
  terminateContainerFails := fun _ => none
  sleepFails := fun _ => none
  launcherPoll := fun _ => none
  launchFails := fun _ => none
  launcherPid := fun _ => 1
  containerStatus := fun _ _ => .ok none
  initialStates := []
  placement := fun _ placement => placement
  connectionInfo := fun _ => .error (.timeoutError "")
  clock := fun _ => 0
  listenerFails := fun _ _ => none
  killpgFails := fun _ => none
  procSendSignalFails := fun _ _ => none

/-! ## Primitive steps -/

namespace Py

/-- Record a call on a collaborator. -/
def emit (call : Call) : Py Unit :=
  modify fun s => s.extend [call]

/-- The trace so far. -/
def history : Py (List Call) := do return (← get).calls

/-- The object. -/
def getSelf : Py Provisioner := do return (← get).self

/-- Assign fields of the object. -/
def modifySelf (f : Provisioner → Provisioner) : Py Unit :=
  modify fun s => { s with self := f s.self }

end Py

/-- `try: x except Exception as e: ...`: the outcome of `x` as a value, with the state it left. -/
def Py.attempt {α : Type} (x : Py α) : Py (Except Exn α) := fun s =>
  match x s with
  | .ok a s' => .ok (.ok a) s'
  | .error e s' => .ok (.error e) s'

/-- The state a computation ends in, whether it returned or raised. -/
def resultState {α : Type} : EStateM.Result Exn Sys α → Sys
  | .ok _ s => s
  | .error _ s => s

/-- An `Except` value as a computation that leaves the state alone. -/
def Py.ofExcept {α : Type} : Except Exn α → Py α
  | .ok a => pure a
  | .error e => throw e

/-- `self.log_and_raise(ex)`: the log line is not modelled. -/
def logAndRaise {α : Type} (ex : Exn) : Py α := throw ex

/-! ## Running a computation -/

section Run

variable {α β : Type}

@[simp]
theorem run_pure (a : α) (s : Sys) : (pure a : Py α) s = .ok a s := rfl

@[simp]
theorem run_throw (e : Exn) (s : Sys) : (throw e : Py α) s = .error e s := rfl

@[simp]
theorem run_logAndRaise (e : Exn) (s : Sys) : (logAndRaise e : Py α) s = .error e s := rfl

theorem run_bind (x : Py α) (f : α → Py β) (s : Sys) :
    (x >>= f) s = match x s with
      | .ok a s' => f a s'
      | .error e s' => .error e s' := by
  show EStateM.bind x f s = _
  unfold EStateM.bind
  cases x s <;> rfl

/-- A bind returns exactly when its first computation returns and the rest returns from there. -/
theorem run_bind_eq_ok {x : Py α} {f : α → Py β} {s s' : Sys} {b : β} :
    (x >>= f) s = .ok b s' ↔ ∃ a s1, x s = .ok a s1 ∧ f a s1 = .ok b s' := by
  rw [run_bind]
  rcases x s with ⟨a, s1⟩ | ⟨e, s1⟩ <;> simp [and_assoc]

@[simp]
theorem run_map (f : α → β) (x : Py α) (s : Sys) :
    (f <$> x) s = match x s with
      | .ok a s' => .ok (f a) s'
      | .error e s' => .error e s' := by
  show EStateM.map f x s = _
  unfold EStateM.map
  cases x s <;> rfl

@[simp]
theorem run_emit (call : Call) (s : Sys) : Py.emit call s = .ok () (s.extend [call]) := rfl

@[simp]
theorem run_history (s : Sys) : Py.history s = .ok s.calls s := rfl

@[simp]
theorem run_getSelf (s : Sys) : Py.getSelf s = .ok s.self s := rfl

@[simp]
theorem run_attempt (x : Py α) (s : Sys) :
    Py.attempt x s = match x s with
      | .ok a s' => .ok (.ok a) s'
      | .error e s' => .ok (.error e) s' := rfl

@[simp]
theorem run_ofExcept_ok (a : α) (s : Sys) : Py.ofExcept (.ok a) s = .ok a s := rfl

@[simp]
theorem run_ofExcept_error (e : Exn) (s : Sys) :
    (Py.ofExcept (.error e) : Py α) s = .error e s := rfl

@[simp]
theorem run_modifySelf (f : Provisioner → Provisioner) (s : Sys) :
    Py.modifySelf f s = .ok () { s with self := f s.self } := rfl

theorem run_ofExcept_eq_ok {r : Except Exn α} {a : α} {s s' : Sys} :
    Py.ofExcept r s = .ok a s' ↔ r = .ok a ∧ s = s' := by
  cases r <;> simp

end Run

/-! ## Relations a computation keeps -/

section Keeps

variable {R : Sys → Sys → Prop} {α β : Type}

/-- Every run of `x` ends, by returning or raising, in a state `R`-related to the one it
started in. -/
def Keeps (R : Sys → Sys → Prop) (x : Py α) : Prop := ∀ s, R s (resultState (x s))

theorem Keeps.pure (refl : ∀ s, R s s) (a : α) : Keeps R (pure a : Py α) := fun s => refl s

theorem Keeps.throw (refl : ∀ s, R s s) (e : Exn) : Keeps R (throw e : Py α) := fun s => refl s

theorem Keeps.logAndRaise (refl : ∀ s, R s s) (e : Exn) : Keeps R (logAndRaise e : Py α) :=
  fun s => refl s

theorem Keeps.ofExcept (refl : ∀ s, R s s) (r : Except Exn α) : Keeps R (Py.ofExcept r) := by
  intro s; cases r <;> exact refl s

theorem Keeps.getSelf (refl : ∀ s, R s s) : Keeps R Py.getSelf := fun s => refl s

theorem Keeps.history (refl : ∀ s, R s s) : Keeps R Py.history := fun s => refl s

theorem Keeps.bind (trans : ∀ a b c, R a b → R b c → R a c) {x : Py α} {f : α → Py β}
    (first : Keeps R x) (rest : ∀ a, Keeps R (f a)) : Keeps R (x >>= f) := by
  intro s
  have := first s
  rw [run_bind]
  cases h : x s with
  | ok a s' => rw [h] at this; exact trans _ _ _ this (rest a s')
  | error e s' => rw [h] at this; exact this

theorem Keeps.map {x : Py α} (f : α → β) (inner : Keeps R x) : Keeps R (f <$> x) := by
  intro s
  have := inner s
  rw [run_map]
  cases h : x s <;> rw [h] at this <;> exact this

theorem Keeps.attempt {x : Py α} (inner : Keeps R x) : Keeps R (Py.attempt x) := by
  intro s
  have := inner s
  rw [run_attempt]
  cases h : x s <;> rw [h] at this <;> exact this

theorem Keeps.of_ok {x : Py α} (keeps : Keeps R x) {s s' : Sys} {a : α}
    (returned : x s = .ok a s') : R s s' := by
  simpa [returned, resultState] using keeps s

theorem Keeps.mono {R' : Sys → Sys → Prop} {x : Py α} (inner : Keeps R x)
    (weaker : ∀ s s', R s s' → R' s s') : Keeps R' x := fun s => weaker _ _ (inner s)

theorem Keeps.ite {c : Prop} [Decidable c] {x y : Py α} (yes : Keeps R x) (no : Keeps R y) :
    Keeps R (if c then x else y) := by
  split <;> assumption

end Keeps

/-! ## Relations that runs compose -/

/-- A relation between states that runs compose: every state is related to itself, and a run
related over two stretches is related over both. -/
structure Composes (R : Sys → Sys → Prop) : Prop where
  refl : ∀ s, R s s
  trans : ∀ a b c, R a b → R b c → R a c

/-! ## Frames -/

/-- A property of computations that the steps every method is built from have, and that running
one computation after another keeps: returning a value, raising, reading the object or the
trace. A method's frame lemma says that a sequenced property holds of the method once it holds of
the calls the method records, the fields it assigns and the methods it calls. -/
structure Sequenced (Q : ∀ {α : Type}, Py α → Prop) : Prop where
  pure : ∀ {α : Type} (a : α), Q (pure a : Py α)
  throw : ∀ {α : Type} (e : Exn), Q (throw e : Py α)
  getSelf : Q Py.getSelf
  history : Q Py.history
  bind : ∀ {α β : Type} {x : Py α} {f : α → Py β}, Q x → (∀ a, Q (f a)) → Q (x >>= f)

/-- A sequenced property that `try` keeps as well. -/
structure Catching (Q : ∀ {α : Type}, Py α → Prop) extends Sequenced Q : Prop where
  attempt : ∀ {α : Type} {x : Py α}, Q x → Q (Py.attempt x)

namespace Sequenced

variable {Q : ∀ {α : Type}, Py α → Prop} (steps : Sequenced Q) {α β : Type}
include steps

theorem logAndRaise (e : Exn) : Q (logAndRaise e : Py α) := steps.throw e

theorem ofExcept (r : Except Exn α) : Q (Py.ofExcept r) := by
  cases r
  exacts [steps.throw _, steps.pure _]

theorem map (f : α → β) {x : Py α} (inner : Q x) : Q (f <$> x) := by
  rw [← bind_pure_comp]
  exact steps.bind inner fun _ => steps.pure _

end Sequenced

/-- Every relation that runs compose is kept by the steps of a method, and by `try`. -/
theorem Composes.catching {R : Sys → Sys → Prop} (composes : Composes R) :
    Catching fun x => Keeps R x where
  pure := Keeps.pure composes.refl
  throw := Keeps.throw composes.refl
  getSelf := Keeps.getSelf composes.refl
  history := Keeps.history composes.refl
  bind := Keeps.bind composes.trans
  attempt := Keeps.attempt

theorem Composes.sequenced {R : Sys → Sys → Prop} (composes : Composes R) :
    Sequenced fun x => Keeps R x :=
  composes.catching.toSequenced

/-! ## What a computation returns -/

section Returns

variable {α β : Type} {P : α → Prop}

/-- Every value `x` returns satisfies `P`. -/
def ReturnsOnly (P : α → Prop) (x : Py α) : Prop := ∀ s a s', x s = .ok a s' → P a

theorem ReturnsOnly.pure {a : α} (holds : P a) : ReturnsOnly P (pure a : Py α) := by
  intro s b s' returned
  cases returned
  exact holds

theorem ReturnsOnly.bind {x : Py β} {f : β → Py α} (rest : ∀ b, ReturnsOnly P (f b)) :
    ReturnsOnly P (x >>= f) := by
  intro s a s' returned
  obtain ⟨b, s1, -, returned⟩ := run_bind_eq_ok.1 returned
  exact rest b s1 a s' returned

end Returns

end RemoteProvisioners
