import RemoteProvisioners.SelectPorts

/-!
# Tunnels and the connection payload

When the kernel's launcher reports its connection payload, `_setup_connection_info` records the
host it ran on and, with tunneling enabled, opens one SSH tunnel per kernel channel: five local
ports from `select_ports(5)`, a passwordless-SSH check, then one `ssh -L` child per channel,
each recorded in `tunnel_processes` under the channel's name. A payload that names a
communication port gets a sixth tunnel, `EG_COMM`. The payload then has its ports replaced by the
local ones, loses its `pid` and `pgid`, and is merged into `connection_info`.

The tunnel children are spawned by `_spawn_ssh_tunnel`, which hands `pexpect.spawn` the value of
`os.environ.copy().pop('SSH_ASKPASS', None)`: `None` when the server has no `SSH_ASKPASS`, so that
the child inherits the server's environment, and the variable's text, not a mapping, when it has
one. `pexpect.spawn` reads `env.get('PATH')` to find `ssh`, so a text raises an `AttributeError`
before any child starts (`spawnRefusal`): on such a server no tunnel opens, and
`_setup_connection_info` raises a `RuntimeError` (`setupConnectionInfo_refuses_askpass`).

The trace records each spawn with the channel it serves, and the handle of a child is its place
among the spawns. `setupConnectionInfo_setsUpTunnels` says what setting up does to the tunnels,
however it ends: it terminates none, and tracks a tunnel under a name only if it was tracked there
before or was spawned since for that channel.
-/

set_option autoImplicit false

namespace RemoteProvisioners

/-- `KernelChannel`: the five kernel channels and the launcher's communication channel. -/
inductive KernelChannel where
  | shell
  | iopub
  | stdin
  | heartbeat
  | control
  | communication
  deriving DecidableEq, Repr

/-- `kernel_channel.value`, the name a channel's tunnel is recorded under. -/
def KernelChannel.value : KernelChannel → String
  | .shell => "SHELL"
  | .iopub => "IOPUB"
  | .stdin => "STDIN"
  | .heartbeat => "HB"
  | .control => "CONTROL"
  | .communication => "EG_COMM"

/-- The channels `_tunnel_to_kernel` tunnels, in order. -/
def kernelChannels : List KernelChannel := [.shell, .iopub, .stdin, .heartbeat, .control]

/-- The payload keys of the five channels' ports, in the order of `kernelChannels`. -/
def portKeys : List String := ["shell_port", "iopub_port", "stdin_port", "hb_port", "control_port"]

/-- `d[key]`, raising `KeyError`. -/
def getItem {α : Type} (d : PyDict α) (key : String) : Except Exn α :=
  match d.get key with
  | some value => .ok value
  | none => .error (.keyError key)

/-- `os.environ.copy().pop('SSH_ASKPASS', None)`: the `env` argument `_spawn_ssh_tunnel` gives
`pexpect.spawn`. -/
def askpassEnvArg (environ : Env) : SpawnEnv :=
  match environ.get "SSH_ASKPASS" with
  | some text => .value text
  | none => .inherit

/-- The exception `pexpect.spawn(cmd, env=env)` raises before it starts a child: it looks the
command up with `which(command, env=env)`, which calls `env.get('PATH')`, and a `str` has no
`get`. -/
def spawnRefusal : TunnelChild → Option Exn
  | .pexpect _ (.value _) => some (.attributeError "'str' object has no attribute 'get'")
  | _ => none

/-- The `TypeError` of `server + ":" + str(port)` for a `None` server. -/
def noneServerError : Exn := .typeError "unsupported operand type(s) for +: 'NoneType' and 'str'"

/-! ## Tunnel children in a trace -/

/-- The tunnel child a call spawned, with the channel it serves. -/
def Call.spawned : Call → Option (String × TunnelChild)
  | .spawnTunnel channel child => some (channel, child)
  | _ => none

/-- The tunnel children a trace has spawned, in order; the handle of a child is its index. -/
def spawnedTunnels (calls : List Call) : List (String × TunnelChild) := calls.filterMap Call.spawned

/-- The handle of the tunnel child whose `terminate()` a call is. -/
def Call.terminated : Call → Option Nat
  | .terminateTunnel handle => some handle
  | _ => none

/-- The handles of the tunnel children a trace has terminated, in order. -/
def terminatedTunnels (calls : List Call) : List Nat := calls.filterMap Call.terminated

theorem spawnedTunnels_append (calls more : List Call) :
    spawnedTunnels (calls ++ more) = spawnedTunnels calls ++ spawnedTunnels more :=
  List.filterMap_append _ _ _

theorem terminatedTunnels_append (calls more : List Call) :
    terminatedTunnels (calls ++ more) = terminatedTunnels calls ++ terminatedTunnels more :=
  List.filterMap_append _ _ _

/-- The channel the child of a handle serves, once spawned, stays what it was. -/
theorem spawnedTunnels_channel_append {calls : List Call} {handle : Nat} {name : String}
    (channel : ((spawnedTunnels calls)[handle]?).map Prod.fst = some name) (more : List Call) :
    ((spawnedTunnels (calls ++ more))[handle]?).map Prod.fst = some name := by
  have spawned : handle < (spawnedTunnels calls).length := by
    by_contra outside
    rw [List.getElem?_eq_none (by omega)] at channel
    cases channel
  rwa [spawnedTunnels_append, List.getElem?_append_left spawned]

theorem spawnedTunnels_length_le_append (calls more : List Call) :
    (spawnedTunnels calls).length ≤ (spawnedTunnels (calls ++ more)).length := by
  simp [spawnedTunnels_append]

/-- A spawn's handle is the number of children spawned before it. -/
theorem spawnedTunnels_spawn (calls : List Call) (channel : String) (child : TunnelChild) :
    (spawnedTunnels (calls ++ [.spawnTunnel channel child]))[(spawnedTunnels calls).length]? =
      some (channel, child) := by
  simp [spawnedTunnels_append, spawnedTunnels, Call.spawned]

section Tunnels

variable (cfg : Settings) (w : World)

/-- The command line of an SSH tunnel:
`"%s -S none -L 127.0.0.1:%i:%s:%i %s" % (ssh, local_port, remote_ip, remote_port, server)`. -/
def sshCommand (port : Int) (localPort : Nat) (remoteIp : PyVal) (remotePort : String)
    (server : Option String) : String :=
  let keepAlive := cfg.maxKeepAliveInterval
  let ssh := s!"ssh -p {port} -o ServerAliveInterval={keepAlive}"
  let remote := remoteIp.render
  let target := (PyVal.ofOption server).render
  s!"{ssh} -S none -L 127.0.0.1:{localPort}:{remote}:{remotePort} {target}"

/-- The child `_spawn_ssh_tunnel` asks for, or the exception building its arguments raises. -/
def tunnelChild (calls : List Call) (localPort : Nat) (remotePort remoteIp : PyVal)
    (server : Option String) (port : Int) : Except Exn TunnelChild :=
  if cfg.isWin32 then
    match server with
    | some server => .ok (.paramiko localPort remotePort (server ++ ":" ++ toString port) remoteIp)
    | none => .error noneServerError
  else do
    let remotePort ← remotePort.formatInt
    return .pexpect (sshCommand cfg port localPort remoteIp remotePort server)
      (askpassEnvArg (w.serverEnv calls))

/-- `_spawn_ssh_tunnel`: the handle of the new child. `channel` is not an argument of the source
function; it is recorded in the trace as the channel the caller spawns for. -/
def spawnSshTunnel (channel : String) (localPort : Nat) (remotePort remoteIp : PyVal)
    (server : Option String) (port : Int) : Py Nat := do
  let calls ← Py.history
  let child ← Py.ofExcept (tunnelChild cfg w calls localPort remotePort remoteIp server port)
  if let some e := spawnRefusal child then throw e
  match w.spawnFails calls child with
  | some e => throw e
  | none =>
      Py.emit (.spawnTunnel channel child)
      return (spawnedTunnels calls).length

/-- `_create_ssh_tunnel`: spawn the tunnel and record it under the channel's name. -/
def createSshTunnel (kernelChannel : KernelChannel) (localPort : Nat) (remotePort remoteIp : PyVal)
    (server : Option String) (port : Int) : Py Unit := do
  let channelName := kernelChannel.value
  match ← Py.attempt (spawnSshTunnel cfg w channelName localPort remotePort remoteIp server port)
  with
  | .ok process =>
      Py.modifySelf fun self =>
        { self with tunnelProcesses := self.tunnelProcesses.setItem channelName process }
  | .error e =>
      let text := e.text
      logAndRaise (.runtimeError s!"Could not open SSH tunnel for port {channelName}. Exception: '{text}'")

/-- The `for lp, rp, kc in zip(lports, rports, channels)` loop of `_tunnel_to_kernel`. -/
def createSshTunnels (remoteIp : PyVal) (server : Option String) (port : Int) :
    List (Nat × PyVal × KernelChannel) → Py Unit
  | [] => return ()
  | (localPort, remotePort, kernelChannel) :: rest => do
      createSshTunnel cfg w kernelChannel localPort remotePort remoteIp server port
      createSshTunnels remoteIp server port rest

/-- `_tunnel_to_kernel(connection_info, server)`, with the SSH port `ssh_port`. -/
def tunnelToKernel (cf : Payload) (server : Option String) : Py (List Nat) := do
  let lports ← selectPorts cfg w 5
  let rports ← Py.ofExcept (portKeys.mapM (getItem cf))
  let remoteIp ← Py.ofExcept (getItem cf "ip")
  let port := cfg.sshPort
  let sshServer ← Py.ofExcept <|
    match server with
    | some server => .ok (server ++ ":" ++ toString port)
    | none => .error noneServerError
  if !w.passwordlessSsh (← Py.history) sshServer then
    logAndRaise (.permissionError "Must use password-less scheme by setting up the SSH public key on the cluster nodes")
  createSshTunnels cfg w remoteIp server port (lports.zip (rports.zip kernelChannels))
  return lports

/-- `_tunnel_to_port(kernel_channel, remote_ip, remote_port, server)`, with the SSH port
`ssh_port`. -/
def tunnelToPort (kernelChannel : KernelChannel) (remoteIp : PyVal) (remotePort : Int)
    (server : Option String) : Py Nat := do
  let localPort ← Py.ofExcept (pyIndex (← selectPorts cfg w 1) 0)
  createSshTunnel cfg w kernelChannel localPort (.int remotePort) remoteIp server cfg.sshPort
  return localPort

end Tunnels

/-! ## The payload -/

section Payload

variable (cfg : Settings) (w : World)

/-- The `try: self.pid = int(pid) except ValueError: pid = None` step of `_extract_pid_info`, for
either of the two ids: the value left in the local variable, and the id assigned, if any. -/
def readProcessId (value : PyVal) : Except Exn (PyVal × Option Int) :=
  if value.truthy then
    match value.toInt with
    | .ok id => .ok (value, some id)
    | .error (.valueError _) => .ok (.none, none)
    | .error e => .error e
  else .ok (value, none)

/-- The `if pid: try: self.pid = int(pid) ...` block of `_extract_pid_info`, which the source
writes out for `pid` and again for `pgid`: the value left in the local variable, after the
assignment of the field (`assign`) when the value is read as an id. -/
def assignProcessId (value : PyVal) (assign : Int → Provisioner → Provisioner) : Py PyVal := do
  let (value, newId) ← Py.ofExcept (readProcessId value)
  if let some newId := newId then Py.modifySelf (assign newId)
  return value

/-- The `if pid or pgid:` block of `_extract_pid_info`: `ip` takes the assigned IP, and a kernel
on another host has no local process. -/
def assignIp : Py Unit := do
  let assignedIp := (← Py.getSelf).assignedIp
  Py.modifySelf fun self => { self with ip := assignedIp }
  if !w.ipIsLocal assignedIp then
    Py.modifySelf fun self => { self with localProc := none }

/-- `_extract_pid_info`: the payload without `pid` and `pgid`. -/
def extractPidInfo (connectInfo : Payload) : Py Payload := do
  let pid := (connectInfo.get "pid").getD .none
  let connectInfo := connectInfo.erase "pid"
  let pid ← assignProcessId pid fun pid self => { self with pid := pid }
  let pgid := (connectInfo.get "pgid").getD .none
  let connectInfo := connectInfo.erase "pgid"
  let pgid ← assignProcessId pgid fun pgid self => { self with pgid := pgid }
  if pid.truthy || pgid.truthy then assignIp w
  return connectInfo

/-- `_update_connection`. -/
def updateConnection (connectInfo : Payload) : Py Unit := do
  if connectInfo.entries.isEmpty then
    let kernelId := cfg.kernelId
    logAndRaise (.runtimeError s!"Unexpected runtime encountered for Kernel ID '{kernelId}' - connection information is null!")
  let connectInfo ← extractPidInfo w connectInfo
  Py.modifySelf fun self => { self with connectionInfo := self.connectionInfo.update connectInfo }

/-- The payload with its five channel ports replaced by the local ones. -/
def withLocalPorts (connectInfo : Payload) (tunnelPorts : List Nat) : Except Exn Payload := do
  let p0 ← pyIndex tunnelPorts 0
  let p1 ← pyIndex tunnelPorts 1
  let p2 ← pyIndex tunnelPorts 2
  let p3 ← pyIndex tunnelPorts 3
  let p4 ← pyIndex tunnelPorts 4
  return ((((connectInfo.setItem "ip" (.str "127.0.0.1")).setItem "shell_port" (.int p0)).setItem
    "iopub_port" (.int p1)).setItem "stdin_port" (.int p2) |>.setItem "hb_port" (.int p3)).setItem
    "control_port" (.int p4)

/-- `_setup_connection_info`. -/
def setupConnectionInfo (connectInfo : Payload) : Py Unit := do
  let assignedIp := (← Py.getSelf).assignedIp
  let mut connectInfo := connectInfo.setItem "ip" (PyVal.ofOption assignedIp)
  if cfg.tunnelingEnabled then
    let tunneled := connectInfo
    Py.modifySelf fun self => { self with tunneledConnectInfo := some tunneled }
    let tunnelPorts ← tunnelToKernel cfg w connectInfo assignedIp
    connectInfo ← Py.ofExcept (withLocalPorts connectInfo tunnelPorts)
    if let some commPortValue := connectInfo.get "comm_port" then
      let commIp := ((connectInfo.get "ip").getD .none).toOption
      Py.modifySelf fun self => { self with commIp := commIp }
      let tunneledCommPort ← Py.ofExcept commPortValue.toInt
      let commPort ← tunnelToPort cfg w .communication (PyVal.ofOption assignedIp)
        tunneledCommPort assignedIp
      Py.modifySelf fun self => { self with commPort := commPort }
      connectInfo := connectInfo.setItem "comm_port" (.int commPort)
  else
    if let some commPortValue := connectInfo.get "comm_port" then
      let commIp := ((connectInfo.get "ip").getD .none).toOption
      Py.modifySelf fun self => { self with commIp := commIp }
      let commPort ← Py.ofExcept commPortValue.toInt
      Py.modifySelf fun self => { self with commPort := commPort }
  updateConnection cfg w connectInfo

end Payload

/-! ## Frames

What each method records and assigns, as in `Teardown`: every relation below is derived from these.
-/

section Frames

variable (cfg : Settings) (w : World) {Q : ∀ {α : Type}, Py α → Prop}

theorem spawnSshTunnel_frame (steps : Sequenced Q)
    (spawns : ∀ channel child, Q (Py.emit (.spawnTunnel channel child)))
    (channel : String) (localPort : Nat) (remotePort remoteIp : PyVal) (server : Option String)
    (port : Int) : Q (spawnSshTunnel cfg w channel localPort remotePort remoteIp server port) := by
  have spawn : ∀ calls child, Q (match w.spawnFails calls child with
      | some e => throw e
      | none => do
          Py.emit (.spawnTunnel channel child)
          return (spawnedTunnels calls).length) := by
    intro calls child
    split
    exacts [steps.throw _, steps.bind (spawns _ _) fun _ => steps.pure _]
  refine steps.bind steps.history fun calls => steps.bind (steps.ofExcept _) fun child => ?_
  dsimp only
  split
  exacts [steps.bind (steps.throw _) fun _ => spawn _ _, steps.bind (steps.pure _) fun _ => spawn _ _]

/-- `_create_ssh_tunnel` records the spawn and then tracks its handle under the channel's name. -/
theorem createSshTunnel_frame (steps : Catching Q)
    (spawns : ∀ channel child, Q (Py.emit (.spawnTunnel channel child)))
    (tracks : ∀ name handle, Q (Py.modifySelf fun self =>
      { self with tunnelProcesses := self.tunnelProcesses.setItem name handle }))
    (kernelChannel : KernelChannel) (localPort : Nat) (remotePort remoteIp : PyVal)
    (server : Option String) (port : Int) :
    Q (createSshTunnel cfg w kernelChannel localPort remotePort remoteIp server port) := by
  refine steps.bind (steps.attempt (spawnSshTunnel_frame cfg w steps.toSequenced spawns ..))
    fun spawned => ?_
  rcases spawned with _ | _
  exacts [steps.logAndRaise _, tracks _ _]

theorem createSshTunnels_frame (steps : Sequenced Q) (remoteIp : PyVal) (server : Option String)
    (port : Int) : ∀ tunnels : List (Nat × PyVal × KernelChannel),
      (∀ tunnel ∈ tunnels,
        Q (createSshTunnel cfg w tunnel.2.2 tunnel.1 tunnel.2.1 remoteIp server port)) →
      Q (createSshTunnels cfg w remoteIp server port tunnels)
  | [], _ => steps.pure _
  | tunnel :: rest, creates =>
      steps.bind (creates tunnel (List.mem_cons_self _ _)) fun _ =>
        createSshTunnels_frame steps remoteIp server port rest fun other mem =>
          creates other (List.mem_cons_of_mem _ mem)

/-- `_tunnel_to_kernel` binds its ports and opens a tunnel for each of the five kernel
channels. -/
theorem tunnelToKernel_frame (steps : Sequenced Q) (selects : Q (selectPorts cfg w 5))
    (creates : ∀ kernelChannel ∈ kernelChannels, ∀ localPort remotePort remoteIp server port,
      Q (createSshTunnel cfg w kernelChannel localPort remotePort remoteIp server port))
    (cf : Payload) (server : Option String) : Q (tunnelToKernel cfg w cf server) := by
  refine steps.bind selects fun _ => steps.bind (steps.ofExcept _) fun _ =>
    steps.bind (steps.ofExcept _) fun _ => steps.bind (steps.ofExcept _) fun _ =>
      steps.bind steps.history fun _ => ?_
  dsimp only
  split <;> refine steps.bind ?_ fun _ =>
    steps.bind (createSshTunnels_frame cfg w steps _ _ _ _ fun tunnel mem =>
      creates _ (List.of_mem_zip (List.of_mem_zip mem).2).2 ..) fun _ => steps.pure _
  exacts [steps.logAndRaise _, steps.pure _]

theorem tunnelToPort_frame (steps : Sequenced Q) (selects : Q (selectPorts cfg w 1))
    (creates : ∀ kernelChannel localPort remotePort remoteIp server port,
      Q (createSshTunnel cfg w kernelChannel localPort remotePort remoteIp server port))
    (kernelChannel : KernelChannel) (remoteIp : PyVal) (remotePort : Int) (server : Option String) :
    Q (tunnelToPort cfg w kernelChannel remoteIp remotePort server) :=
  steps.bind selects fun _ => steps.bind (steps.ofExcept _) fun _ =>
    steps.bind (creates ..) fun _ => steps.pure _

theorem assignProcessId_frame (steps : Sequenced Q) (value : PyVal)
    {assign : Int → Provisioner → Provisioner} (assigns : ∀ id, Q (Py.modifySelf (assign id))) :
    Q (assignProcessId value assign) := by
  refine steps.bind (steps.ofExcept _) fun _ => ?_
  dsimp only
  split
  exacts [steps.bind (assigns _) fun _ => steps.pure _,
    steps.bind (steps.pure _) fun _ => steps.pure _]

theorem assignIp_frame (steps : Sequenced Q)
    (setsIp : ∀ ip, Q (Py.modifySelf fun self => { self with ip := ip }))
    (dropsProc : Q (Py.modifySelf fun self => { self with localProc := none })) :
    Q (assignIp w) := by
  refine steps.bind steps.getSelf fun _ => steps.bind (setsIp _) fun _ => ?_
  split
  exacts [dropsProc, steps.pure _]

/-- `_extract_pid_info` assigns `pid`, `pgid`, `ip` and `local_proc`, and records nothing. -/
theorem extractPidInfo_frame (steps : Sequenced Q)
    (setsPid : ∀ pid, Q (Py.modifySelf fun self => { self with pid := pid }))
    (setsPgid : ∀ pgid, Q (Py.modifySelf fun self => { self with pgid := pgid }))
    (setsIp : ∀ ip, Q (Py.modifySelf fun self => { self with ip := ip }))
    (dropsProc : Q (Py.modifySelf fun self => { self with localProc := none }))
    (connectInfo : Payload) : Q (extractPidInfo w connectInfo) := by
  refine steps.bind (assignProcessId_frame steps _ setsPid) fun _ =>
    steps.bind (assignProcessId_frame steps _ setsPgid) fun _ => ?_
  dsimp only
  split
  exacts [steps.bind (assignIp_frame w steps setsIp dropsProc) fun _ => steps.pure _,
    steps.bind (steps.pure _) fun _ => steps.pure _]

/-- `_update_connection` merges the payload into `connection_info`, after `_extract_pid_info`. -/
theorem updateConnection_frame (steps : Sequenced Q)
    (extracts : ∀ connectInfo, Q (extractPidInfo w connectInfo))
    (merges : ∀ connectInfo, Q (Py.modifySelf fun self =>
      { self with connectionInfo := self.connectionInfo.update connectInfo }))
    (connectInfo : Payload) : Q (updateConnection cfg w connectInfo) := by
  dsimp only [updateConnection]
  split <;> refine steps.bind ?_ fun _ => steps.bind (extracts _) fun _ => merges _
  exacts [steps.logAndRaise _, steps.pure _]

/-- `_setup_connection_info` tunnels the channels and the communication port, assigns
`tunneled_connect_info`, `comm_ip` and `comm_port`, and updates the connection. -/
theorem setupConnectionInfo_frame (steps : Sequenced Q)
    (tunnels : ∀ cf server, Q (tunnelToKernel cfg w cf server))
    (tunnelsPort : ∀ kernelChannel remoteIp remotePort server,
      Q (tunnelToPort cfg w kernelChannel remoteIp remotePort server))
    (keepsTunneled : ∀ info, Q (Py.modifySelf fun self => { self with tunneledConnectInfo := info }))
    (setsCommIp : ∀ ip, Q (Py.modifySelf fun self => { self with commIp := ip }))
    (setsCommPort : ∀ port, Q (Py.modifySelf fun self => { self with commPort := port }))
    (updates : ∀ connectInfo, Q (updateConnection cfg w connectInfo))
    (connectInfo : Payload) : Q (setupConnectionInfo cfg w connectInfo) := by
  refine steps.bind steps.getSelf fun _ => ?_
  dsimp only
  split
  · refine steps.bind (keepsTunneled _) fun _ => steps.bind (tunnels _ _) fun _ =>
      steps.bind (steps.ofExcept _) fun _ => ?_
    split
    · exact steps.bind (setsCommIp _) fun _ => steps.bind (steps.ofExcept _) fun _ =>
        steps.bind (tunnelsPort ..) fun _ => steps.bind (setsCommPort _) fun _ => updates _
    · exact updates _
  · split
    · exact steps.bind (setsCommIp _) fun _ => steps.bind (steps.ofExcept _) fun _ =>
        steps.bind (setsCommPort _) fun _ => updates _
    · exact updates _

end Frames

/-! ## What setting up tunnels changes -/

/-- What `_setup_connection_info` may do to the object and the trace: terminate no tunnel, and
track a tunnel under a name only if it was tracked there already or was spawned since, for the
channel of that name. -/
structure OpensTunnels (s s' : Sys) : Prop where
  extends_calls : ∃ new, s'.calls = s.calls ++ new ∧ terminatedTunnels new = []
  tracks_spawned : ∀ name handle, s'.self.tunnelProcesses.get name = some handle →
    s.self.tunnelProcesses.get name = some handle ∨
      ((spawnedTunnels s.calls).length ≤ handle ∧
        ((spawnedTunnels s'.calls)[handle]?).map Prod.fst = some name)

theorem OpensTunnels.refl (s : Sys) : OpensTunnels s s :=
  ⟨⟨[], by simp, rfl⟩, fun _ _ tracked => .inl tracked⟩

theorem OpensTunnels.trans (a b c : Sys) (first : OpensTunnels a b) (second : OpensTunnels b c) :
    OpensTunnels a c := by
  obtain ⟨⟨new, callsAB, quietAB⟩, trackedAB⟩ := first
  obtain ⟨⟨more, callsBC, quietBC⟩, trackedBC⟩ := second
  refine ⟨⟨new ++ more, by rw [callsBC, callsAB, List.append_assoc], by
    simp [terminatedTunnels_append, quietAB, quietBC]⟩, fun name handle tracked => ?_⟩
  rcases trackedBC name handle tracked with old | ⟨fresh, channel⟩
  · rcases trackedAB name handle old with older | ⟨fresh, channel⟩
    · exact .inl older
    · exact .inr ⟨fresh, callsBC ▸ spawnedTunnels_channel_append channel more⟩
  · have grown := spawnedTunnels_length_le_append a.calls new
    rw [← callsAB] at grown
    exact .inr ⟨by omega, channel⟩

theorem OpensTunnels.composes : Composes OpensTunnels := ⟨OpensTunnels.refl, OpensTunnels.trans⟩

/-- A run that leaves `tunnel_processes` alone and calls no tunnel's `terminate()`. -/
theorem OpensTunnels.of_tunnelProcesses {s s' : Sys}
    (calls : ∃ new, s'.calls = s.calls ++ new ∧ terminatedTunnels new = [])
    (same : s'.self.tunnelProcesses = s.self.tunnelProcesses) : OpensTunnels s s' :=
  ⟨calls, fun _ _ tracked => .inl (same ▸ tracked)⟩

/-- Recording a call that terminates no tunnel. -/
theorem OpensTunnels.emit (call : Call) (quiet : call.terminated = none) :
    Keeps OpensTunnels (Py.emit call) := fun _ =>
  .of_tunnelProcesses ⟨[call], rfl, by simp [terminatedTunnels, quiet]⟩ rfl

theorem OpensTunnels.of_socketsOnly {s s' : Sys} (sockets : SocketsOnly s s') :
    OpensTunnels s s' := by
  obtain ⟨same, new, calls, socketCalls⟩ := sockets
  refine .of_tunnelProcesses ⟨new, calls, List.filterMap_eq_nil_iff.2 fun call mem => ?_⟩
    (by rw [same])
  have := socketCalls call mem
  cases call <;> first | rfl | exact absurd this Bool.false_ne_true

/-- Assigning fields other than `tunnel_processes`. -/
theorem OpensTunnels.modifySelf (f : Provisioner → Provisioner)
    (keeps : ∀ self, (f self).tunnelProcesses = self.tunnelProcesses) :
    Keeps OpensTunnels (Py.modifySelf f) := fun s =>
  .of_tunnelProcesses ⟨[], by simp [resultState], rfl⟩ (keeps s.self)

/-- Whether a call is one that setting up tunnels makes: a socket call or a spawn. -/
def Call.isTunnelSetup (call : Call) : Bool := call.isSocketCall || call.spawned.isSome

/-- What `_setup_connection_info` does: what `OpensTunnels` allows, with no calls but socket calls
and spawns. -/
structure SetsUpTunnels (s s' : Sys) : Prop where
  opens : OpensTunnels s s'
  only_setup : ∃ new, s'.calls = s.calls ++ new ∧ ∀ call ∈ new, call.isTunnelSetup
  keeps_start : s'.self.startTime = s.self.startTime

theorem SetsUpTunnels.refl (s : Sys) : SetsUpTunnels s s := ⟨.refl s, ⟨[], by simp, by simp⟩, rfl⟩

theorem SetsUpTunnels.trans (a b c : Sys) (first : SetsUpTunnels a b)
    (second : SetsUpTunnels b c) : SetsUpTunnels a c := by
  obtain ⟨opensAB, ⟨new, callsAB, setupAB⟩, startAB⟩ := first
  obtain ⟨opensBC, ⟨more, callsBC, setupBC⟩, startBC⟩ := second
  refine ⟨.trans _ _ _ opensAB opensBC, ⟨new ++ more, by rw [callsBC, callsAB, List.append_assoc],
    fun call mem => ?_⟩, startBC.trans startAB⟩
  rcases List.mem_append.1 mem with inNew | inMore
  · exact setupAB call inNew
  · exact setupBC call inMore

theorem SetsUpTunnels.composes : Composes SetsUpTunnels :=
  ⟨SetsUpTunnels.refl, SetsUpTunnels.trans⟩

theorem SetsUpTunnels.of_socketsOnly {s s' : Sys} (sockets : SocketsOnly s s') :
    SetsUpTunnels s s' := by
  refine ⟨.of_socketsOnly sockets, ?_, by rw [sockets.1]⟩
  obtain ⟨-, new, calls, socketCalls⟩ := sockets
  exact ⟨new, calls, fun call mem => by simp [Call.isTunnelSetup, socketCalls call mem]⟩

theorem SetsUpTunnels.modifySelf (f : Provisioner → Provisioner)
    (keeps : ∀ self, (f self).tunnelProcesses = self.tunnelProcesses ∧
      (f self).startTime = self.startTime) :
    Keeps SetsUpTunnels (Py.modifySelf f) := fun s =>
  ⟨OpensTunnels.modifySelf f (fun self => (keeps self).1) s, ⟨[], by simp [resultState], by simp⟩,
    (keeps s.self).2⟩

section Tunnels

variable (cfg : Settings) (w : World)

/-- `_spawn_ssh_tunnel` raises with the state unchanged, or records the spawn of the child its
arguments describe, whose handle is the number of children spawned before. -/
theorem spawnSshTunnel_eq (channel : String) (localPort : Nat) (remotePort remoteIp : PyVal)
    (server : Option String) (port : Int) (s : Sys) :
    spawnSshTunnel cfg w channel localPort remotePort remoteIp server port s =
      match tunnelChild cfg w s.calls localPort remotePort remoteIp server port with
      | .error e => .error e s
      | .ok child =>
          match spawnRefusal child, w.spawnFails s.calls child with
          | some e, _ => .error e s
          | none, some e => .error e s
          | none, none =>
              .ok (spawnedTunnels s.calls).length (s.extend [.spawnTunnel channel child]) := by
  simp only [spawnSshTunnel, run_bind, run_history]
  rcases tunnelChild cfg w s.calls localPort remotePort remoteIp server port with e | child
  · rfl
  · simp only [run_ofExcept_ok]
    rcases spawnRefusal child with _ | e
    · rcases w.spawnFails s.calls child with _ | e <;> rfl
    · rfl

/-- `_create_ssh_tunnel` raises with the state unchanged, or records the spawn of the child its
arguments describe under the channel's name. -/
theorem createSshTunnel_cases (kernelChannel : KernelChannel) (localPort : Nat)
    (remotePort remoteIp : PyVal) (server : Option String) (port : Int) (s : Sys) :
    (∃ e, createSshTunnel cfg w kernelChannel localPort remotePort remoteIp server port s =
        .error e s) ∨
      ∃ child, tunnelChild cfg w s.calls localPort remotePort remoteIp server port = .ok child ∧
        createSshTunnel cfg w kernelChannel localPort remotePort remoteIp server port s =
          .ok () ⟨{ s.self with tunnelProcesses :=
              s.self.tunnelProcesses.setItem kernelChannel.value (spawnedTunnels s.calls).length },
            s.calls ++ [.spawnTunnel kernelChannel.value child]⟩ := by
  simp only [createSshTunnel, run_bind, run_attempt, spawnSshTunnel_eq]
  rcases tunnelChild cfg w s.calls localPort remotePort remoteIp server port with e | child
  · exact .inl ⟨_, rfl⟩
  dsimp only
  rcases spawnRefusal child with _ | e
  · rcases w.spawnFails s.calls child with _ | e
    · exact .inr ⟨child, rfl, rfl⟩
    · exact .inl ⟨_, rfl⟩
  · exact .inl ⟨_, rfl⟩

theorem createSshTunnel_setsUpTunnels (kernelChannel : KernelChannel) (localPort : Nat)
    (remotePort remoteIp : PyVal) (server : Option String) (port : Int) :
    Keeps SetsUpTunnels
      (createSshTunnel cfg w kernelChannel localPort remotePort remoteIp server port) := by
  intro s
  rcases createSshTunnel_cases cfg w kernelChannel localPort remotePort remoteIp server port s with
    ⟨e, raised⟩ | ⟨child, -, spawned⟩
  · rw [raised]; exact SetsUpTunnels.refl s
  rw [spawned]
  refine ⟨⟨⟨[.spawnTunnel kernelChannel.value child], rfl, rfl⟩, fun name handle tracked => ?_⟩,
    ⟨[.spawnTunnel kernelChannel.value child], rfl, by simp [Call.isTunnelSetup, Call.spawned]⟩,
    rfl⟩
  simp only [resultState, PyDict.get_setItem] at tracked ⊢
  split at tracked
  · cases tracked
    exact .inr ⟨le_refl _, by simp [*, spawnedTunnels_spawn]⟩
  · exact .inl tracked

theorem tunnelToKernel_setsUpTunnels (cf : Payload) (server : Option String) :
    Keeps SetsUpTunnels (tunnelToKernel cfg w cf server) :=
  tunnelToKernel_frame cfg w SetsUpTunnels.composes.sequenced
    ((selectPorts_keeps cfg w 5).mono fun _ _ => .of_socketsOnly)
    (fun _ _ => createSshTunnel_setsUpTunnels cfg w _) cf server

theorem tunnelToPort_setsUpTunnels (kernelChannel : KernelChannel) (remoteIp : PyVal)
    (remotePort : Int) (server : Option String) :
    Keeps SetsUpTunnels (tunnelToPort cfg w kernelChannel remoteIp remotePort server) :=
  tunnelToPort_frame cfg w SetsUpTunnels.composes.sequenced
    ((selectPorts_keeps cfg w 1).mono fun _ _ => .of_socketsOnly)
    (createSshTunnel_setsUpTunnels cfg w) kernelChannel remoteIp remotePort server

/-- `_extract_pid_info` assigns `pid`, `pgid`, `ip` and `local_proc`, and calls nothing. -/
theorem extractPidInfo_setsUpTunnels (connectInfo : Payload) :
    Keeps SetsUpTunnels (extractPidInfo w connectInfo) :=
  extractPidInfo_frame w SetsUpTunnels.composes.sequenced
    (fun _ => SetsUpTunnels.modifySelf _ fun _ => ⟨rfl, rfl⟩)
    (fun _ => SetsUpTunnels.modifySelf _ fun _ => ⟨rfl, rfl⟩)
    (fun _ => SetsUpTunnels.modifySelf _ fun _ => ⟨rfl, rfl⟩)
    (SetsUpTunnels.modifySelf _ fun _ => ⟨rfl, rfl⟩) connectInfo

/-- **Setting up the connection opens tunnels and terminates none.** Whatever the payload and
however the tunnel setup ends (the passwordless-SSH check refused, a spawn raising, a port not
found), `_setup_connection_info` makes no call but socket calls and spawns, and every tunnel it
leaves tracked was tracked there before, or was spawned by it for the channel it is tracked
under. -/
theorem setupConnectionInfo_setsUpTunnels (connectInfo : Payload) :
    Keeps SetsUpTunnels (setupConnectionInfo cfg w connectInfo) :=
  setupConnectionInfo_frame cfg w SetsUpTunnels.composes.sequenced
    (tunnelToKernel_setsUpTunnels cfg w) (tunnelToPort_setsUpTunnels cfg w)
    (fun _ => SetsUpTunnels.modifySelf _ fun _ => ⟨rfl, rfl⟩)
    (fun _ => SetsUpTunnels.modifySelf _ fun _ => ⟨rfl, rfl⟩)
    (fun _ => SetsUpTunnels.modifySelf _ fun _ => ⟨rfl, rfl⟩)
    (updateConnection_frame cfg w SetsUpTunnels.composes.sequenced
      (extractPidInfo_setsUpTunnels w) fun _ => SetsUpTunnels.modifySelf _ fun _ => ⟨rfl, rfl⟩)
    connectInfo

end Tunnels

/-! ## A server that sets `SSH_ASKPASS` -/

/-- A payload with the five channel ports `52000`..`52004`. -/
def channelPayload : Payload :=
  ((((PyDict.empty.setItem "shell_port" (.int 52000)).setItem "iopub_port" (.int 52001)).setItem
    "stdin_port" (.int 52002)).setItem "hb_port" (.int 52003)).setItem "control_port" (.int 52004)

/-- A server whose environment sets `SSH_ASKPASS`, otherwise calm. -/
def askpassWorld : World :=
  { World.calm with serverEnv := fun _ => PyDict.empty.setItem "SSH_ASKPASS" "/usr/bin/ssh-askpass" }

set_option smartUnfolding false in
/-- With tunneling enabled and the kernel on `10.0.0.5`, the shell channel's tunnel is asked for
with the text of `SSH_ASKPASS` as its environment, where the server's environment without
`SSH_ASKPASS` was meant. `pexpect.spawn` refuses it, so `_setup_connection_info` raises a
`RuntimeError` having spawned no tunnel, with nothing tracked and `connection_info` as it was. -/
theorem setupConnectionInfo_refuses_askpass :
    tunnelChild { Settings.default with tunnelingEnabled := true } askpassWorld [] 1 (.int 52000)
        (.str "10.0.0.5") (some "10.0.0.5") 22 =
      .ok (.pexpect
        "ssh -p 22 -o ServerAliveInterval=3153600000 -S none -L 127.0.0.1:1:10.0.0.5:52000 10.0.0.5"
        (.value "/usr/bin/ssh-askpass")) ∧
    (match setupConnectionInfo { Settings.default with tunnelingEnabled := true } askpassWorld
        channelPayload ⟨{ Provisioner.fresh 0 0 .empty with assignedIp := some "10.0.0.5" }, []⟩ with
      | .error e s' =>
          some (e, spawnedTunnels s'.calls, s'.self.tunnelProcesses, s'.self.connectionInfo)
      | .ok () _ => none) =
      some (.runtimeError
          "Could not open SSH tunnel for port SHELL. Exception: ''str' object has no attribute 'get''",
        [], .empty, .empty) := by
  decide

end RemoteProvisioners
