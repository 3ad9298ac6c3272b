import RemoteProvisioners.Confirm

/-!
# A connection set up through tunnels

`setupConnectionInfo_setsUpTunnels` says what `_setup_connection_info` may do however it ends.
This module says what it has done when it returns with tunneling enabled
(`setupConnectionInfo_forwards`): `connection_info` points at `127.0.0.1`, each of the five
channels' ports there is a local port, and the tunnel tracked under the channel's name is the
child spawned to forward that port to the payload's port on the kernel's host (`Forwards`,
`ChannelsForwarded`). A payload that names a communication port has it tunneled the same way
under `EG_COMM`, and `comm_ip` and `comm_port` then name the local end of that tunnel, where the
listener's requests go (`CommForwarded`). `launchKernel_forwards` carries this to `launch_kernel`:
the connection information it returns is the launcher's payload, so set up, with every tunnel
still in place.

The proof follows the method. `_tunnel_to_kernel` leaves every channel of its loop forwarded
(`tunnelToKernel_forwards`), `_tunnel_to_port` its one channel (`tunnelToPort_forwards`), and
what runs after a tunnel is opened keeps it: a later spawn is recorded under another name
(`KeepsTunnel`), opening tunnels assigns no field but `tunnel_processes` (`TunnelsOnly`), and
`_extract_pid_info` leaves the trace, the tunnels and the communication endpoint alone
(`KeepsConnection`). `withLocalPorts_channels` pairs the loop's tunnels with the payload's port
keys.
-/

set_option autoImplicit false

namespace RemoteProvisioners

/-! ## Reading the payload -/

theorem getItem_eq_ok {α : Type} {d : PyDict α} {key : String} {value : α} :
    getItem d key = .ok value ↔ d.get key = some value := by
  unfold getItem
  split <;> simp_all

/-- `tuple(d[key] for key in keys)` returns the values of the keys, in order. -/
theorem mapM_getItem_eq_ok {α : Type} (d : PyDict α) :
    ∀ {keys : List String} {values : List α},
      keys.mapM (getItem d) = .ok values → keys.map d.get = values.map some
  | [], values, read => by
      cases read; rfl
  | key :: keys, values, read => by
      simp only [List.mapM_cons, except_bind_eq_ok] at read
      obtain ⟨value, found, rest, more, done⟩ := read
      cases done
      simp [getItem_eq_ok.1 found, mapM_getItem_eq_ok d more]

/-- The payload with its ports replaced points at `127.0.0.1`, keeps every other key, and holds
at each channel's key the local port that `_tunnel_to_kernel`'s loop paired with the channel and
with the port the key held before. -/
theorem withLocalPorts_channels {cf cf1 : Payload} {lports : List Nat} {rports : List PyVal}
    (placed : withLocalPorts cf lports = .ok cf1) (read : portKeys.mapM (getItem cf) = .ok rports) :
    cf1.get "ip" = some (.str "127.0.0.1") ∧ (∀ key ∉ "ip" :: portKeys, cf1.get key = cf.get key) ∧
      ∀ channel ∈ portKeys.zip kernelChannels, ∃ (localPort : Nat) (remotePort : PyVal),
        cf.get channel.1 = some remotePort ∧ cf1.get channel.1 = some (.int localPort) ∧
        (localPort, remotePort, channel.2) ∈ lports.zip (rports.zip kernelChannels) := by
  have remote := mapM_getItem_eq_ok cf read
  rcases lports with _ | ⟨p0, _ | ⟨p1, _ | ⟨p2, _ | ⟨p3, _ | ⟨p4, rest⟩⟩⟩⟩⟩ <;>
    simp [withLocalPorts, pyIndex, except_bind_eq_ok] at placed
  rcases rports with _ | ⟨r0, _ | ⟨r1, _ | ⟨r2, _ | ⟨r3, _ | ⟨r4, _ | ⟨r5, rports⟩⟩⟩⟩⟩⟩ <;>
    simp [portKeys] at remote
  subst placed
  refine ⟨by simp [PyDict.get_setItem], fun key other => ?_, ?_⟩
  · simp only [portKeys, List.mem_cons, not_or] at other
    simp [PyDict.get_setItem, other]
  · simp [portKeys, kernelChannels, PyDict.get_setItem, remote]

/-- A key other than `pid` and `pgid` reaches `connection_info` as the payload has it. -/
theorem get_update_extracted {d connectInfo : Payload} {key : String} {value : PyVal}
    (pid : key ≠ "pid") (pgid : key ≠ "pgid") (found : connectInfo.get key = some value) :
    (d.update ((connectInfo.erase "pid").erase "pgid")).get key = some value := by
  simp [PyDict.get_update, PyDict.get_erase_ne _ pgid, PyDict.get_erase_ne _ pid, found]

/-- The channels' keys are none of the other keys `_setup_connection_info` writes or drops, and
their names are not the communication channel's. -/
theorem channel_keys_ne : ∀ channel ∈ portKeys.zip kernelChannels, channel.1 ≠ "ip" ∧
    channel.1 ≠ "pid" ∧ channel.1 ≠ "pgid" ∧ channel.1 ≠ "comm_port" ∧
    channel.2.value ≠ KernelChannel.communication.value := by
  decide

/-! ## Runs that keep a tunnel -/

/-- The tunnel tracked under `name` is a child spawned for `name`, the one `_spawn_ssh_tunnel`
builds to forward local port `localPort` to `remotePort` on `remoteIp` through `server`. -/
def Forwards (cfg : Settings) (w : World) (s : Sys) (name : String) (localPort : Nat)
    (remotePort remoteIp : PyVal) (server : Option String) : Prop :=
  ∃ handle calls child, s.self.tunnelProcesses.get name = some handle ∧
    tunnelChild cfg w calls localPort remotePort remoteIp server cfg.sshPort = .ok child ∧
    (spawnedTunnels s.calls)[handle]? = some (name, child)

/-- A run that extends the trace and leaves the tunnel tracked under `name` as it was. -/
structure KeepsTunnel (name : String) (s s' : Sys) : Prop where
  extends_calls : ∃ new, s'.calls = s.calls ++ new
  same : s'.self.tunnelProcesses.get name = s.self.tunnelProcesses.get name

theorem KeepsTunnel.refl (name : String) (s : Sys) : KeepsTunnel name s s := ⟨⟨[], by simp⟩, rfl⟩

theorem KeepsTunnel.trans (name : String) (a b c : Sys) (first : KeepsTunnel name a b)
    (second : KeepsTunnel name b c) : KeepsTunnel name a c := by
  obtain ⟨⟨new, callsAB⟩, sameAB⟩ := first
  obtain ⟨⟨more, callsBC⟩, sameBC⟩ := second
  exact ⟨⟨new ++ more, by rw [callsBC, callsAB, List.append_assoc]⟩, sameBC.trans sameAB⟩

theorem KeepsTunnel.composes (name : String) : Composes (KeepsTunnel name) :=
  ⟨KeepsTunnel.refl name, KeepsTunnel.trans name⟩

theorem KeepsTunnel.of_eq {name : String} {s s' : Sys} (calls : s'.calls = s.calls)
    (same : s'.self.tunnelProcesses = s.self.tunnelProcesses) : KeepsTunnel name s s' :=
  ⟨⟨[], by simp [calls]⟩, by rw [same]⟩

theorem KeepsTunnel.of_socketsOnly (name : String) {s s' : Sys} (sockets : SocketsOnly s s') :
    KeepsTunnel name s s' := by
  obtain ⟨same, new, calls, -⟩ := sockets
  exact ⟨⟨new, calls⟩, by rw [same]⟩

/-- A tunnel that forwards keeps forwarding over a run that keeps it. -/
theorem Forwards.extend {cfg : Settings} {w : World} {s s' : Sys} {name : String}
    {localPort : Nat} {remotePort remoteIp : PyVal} {server : Option String}
    (forwards : Forwards cfg w s name localPort remotePort remoteIp server)
    (keeps : KeepsTunnel name s s') : Forwards cfg w s' name localPort remotePort remoteIp server := by
  obtain ⟨handle, calls, child, tracked, built, spawned⟩ := forwards
  obtain ⟨⟨new, extended⟩, same⟩ := keeps
  refine ⟨handle, calls, child, same ▸ tracked, built, ?_⟩
  rw [extended, spawnedTunnels_append,
    List.getElem?_append_left (List.getElem?_eq_some_iff.1 spawned).1]
  exact spawned

/-- Each of the five channels of the payload `connectInfo` is reached through a tunnel: `info`
holds a local port under the channel's key, and the tunnel tracked under the channel's name
forwards it to the port the payload held there, on `host`. -/
def ChannelsForwarded (cfg : Settings) (w : World) (s : Sys) (info connectInfo : Payload)
    (host : Option String) : Prop :=
  ∀ channel ∈ portKeys.zip kernelChannels, ∃ (localPort : Nat) (remotePort : PyVal),
    connectInfo.get channel.1 = some remotePort ∧ info.get channel.1 = some (.int localPort) ∧
    Forwards cfg w s channel.2.value localPort remotePort (PyVal.ofOption host) host

/-- The listener of a payload that reported the communication port `commPortValue` is reached
through a tunnel: `comm_ip` is `127.0.0.1`, and `comm_port`, which `info` holds too, is the local
port the `EG_COMM` tunnel forwards to the reported port on `host`. -/
def CommForwarded (cfg : Settings) (w : World) (s : Sys) (info : Payload) (commPortValue : PyVal)
    (host : Option String) : Prop :=
  ∃ (localPort : Nat) (remotePort : Int), commPortValue.toInt = .ok remotePort ∧
    s.self.commIp = some "127.0.0.1" ∧ s.self.commPort = localPort ∧
    info.get "comm_port" = some (.int localPort) ∧
    Forwards cfg w s KernelChannel.communication.value localPort (.int remotePort)
      (PyVal.ofOption host) host

/-- The channels stay forwarded over a run that keeps their tunnels, into a payload that keeps
their ports. -/
theorem ChannelsForwarded.extend {cfg : Settings} {w : World} {s s' : Sys}
    {info info' connectInfo : Payload} {host : Option String}
    (forwarded : ChannelsForwarded cfg w s info connectInfo host)
    (keeps : ∀ channel ∈ portKeys.zip kernelChannels, KeepsTunnel channel.2.value s s')
    (moved : ∀ channel ∈ portKeys.zip kernelChannels, ∀ port,
      info.get channel.1 = some port → info'.get channel.1 = some port) :
    ChannelsForwarded cfg w s' info' connectInfo host := by
  intro channel mem
  obtain ⟨localPort, remotePort, remote, placed, tunnel⟩ := forwarded channel mem
  exact ⟨localPort, remotePort, remote, moved channel mem _ placed, tunnel.extend (keeps channel mem)⟩

/-- A run that assigns no field of the object but `tunnel_processes`. -/
def TunnelsOnly (s s' : Sys) : Prop :=
  s'.self = { s.self with tunnelProcesses := s'.self.tunnelProcesses }

theorem TunnelsOnly.refl (s : Sys) : TunnelsOnly s s := rfl

theorem TunnelsOnly.trans (a b c : Sys) (first : TunnelsOnly a b) (second : TunnelsOnly b c) :
    TunnelsOnly a c := by
  unfold TunnelsOnly at *
  rw [second, first]

theorem TunnelsOnly.composes : Composes TunnelsOnly := ⟨TunnelsOnly.refl, TunnelsOnly.trans⟩

theorem TunnelsOnly.of_socketsOnly {s s' : Sys} (sockets : SocketsOnly s s') :
    TunnelsOnly s s' := by
  unfold TunnelsOnly
  rw [sockets.1]

/-! ## Opening tunnels -/

section Tunnels

variable (cfg : Settings) (w : World)

theorem createSshTunnel_keepsTunnel {name : String} {kernelChannel : KernelChannel}
    (other : name ≠ kernelChannel.value) (localPort : Nat) (remotePort remoteIp : PyVal)
    (server : Option String) (port : Int) :
    Keeps (KeepsTunnel name)
      (createSshTunnel cfg w kernelChannel localPort remotePort remoteIp server port) := by
  intro s
  rcases createSshTunnel_cases cfg w kernelChannel localPort remotePort remoteIp server port s with
    ⟨e, raised⟩ | ⟨child, -, spawned⟩
  · rw [raised]; exact KeepsTunnel.refl name s
  rw [spawned]
  exact ⟨⟨_, rfl⟩, PyDict.get_setItem_ne _ _ other⟩

theorem createSshTunnel_tunnelsOnly (kernelChannel : KernelChannel) (localPort : Nat)
    (remotePort remoteIp : PyVal) (server : Option String) (port : Int) :
    Keeps TunnelsOnly
      (createSshTunnel cfg w kernelChannel localPort remotePort remoteIp server port) :=
  createSshTunnel_frame cfg w TunnelsOnly.composes.catching (fun _ _ _ => rfl) (fun _ _ _ => rfl)
    kernelChannel localPort remotePort remoteIp server port

theorem createSshTunnel_forwards {kernelChannel : KernelChannel} {localPort : Nat}
    {remotePort remoteIp : PyVal} {server : Option String} {s s' : Sys}
    (returned : createSshTunnel cfg w kernelChannel localPort remotePort remoteIp server
      cfg.sshPort s = .ok () s') :
    Forwards cfg w s' kernelChannel.value localPort remotePort remoteIp server := by
  rcases createSshTunnel_cases cfg w kernelChannel localPort remotePort remoteIp server cfg.sshPort s
    with ⟨e, raised⟩ | ⟨child, built, spawned⟩
  · rw [raised] at returned; cases returned
  rw [spawned] at returned
  cases returned
  exact ⟨_, s.calls, child, PyDict.get_setItem_self _ _ _, built, spawnedTunnels_spawn _ _ _⟩

/-- The name a tunnel of the `_tunnel_to_kernel` loop is recorded under. -/
def tunnelName (tunnel : Nat × PyVal × KernelChannel) : String := tunnel.2.2.value

theorem createSshTunnels_keepsTunnel {name : String} (remoteIp : PyVal) (server : Option String)
    (port : Int) (tunnels : List (Nat × PyVal × KernelChannel))
    (other : name ∉ tunnels.map tunnelName) :
    Keeps (KeepsTunnel name) (createSshTunnels cfg w remoteIp server port tunnels) := by
  induction tunnels with
  | nil => exact Keeps.pure (KeepsTunnel.refl name) _
  | cons tunnel rest ih =>
      simp only [List.map_cons, List.mem_cons, not_or] at other
      exact Keeps.bind (KeepsTunnel.trans name)
        (createSshTunnel_keepsTunnel cfg w other.1 _ _ _ _ _) fun _ => ih other.2

/-- A loop over tunnels of distinct names that returns leaves each of them forwarding. -/
theorem createSshTunnels_forwards {remoteIp : PyVal} {server : Option String}
    {tunnels : List (Nat × PyVal × KernelChannel)} (nodup : (tunnels.map tunnelName).Nodup)
    {s s' : Sys}
    (returned : createSshTunnels cfg w remoteIp server cfg.sshPort tunnels s = .ok () s') :
    ∀ tunnel ∈ tunnels,
      Forwards cfg w s' (tunnelName tunnel) tunnel.1 tunnel.2.1 remoteIp server := by
  induction tunnels generalizing s with
  | nil => intro tunnel mem; cases mem
  | cons tunnel rest ih =>
      obtain ⟨localPort, remotePort, kernelChannel⟩ := tunnel
      obtain ⟨⟨⟩, s1, first, others⟩ := run_bind_eq_ok.1 returned
      rw [List.map_cons, List.nodup_cons] at nodup
      intro tunnel mem
      rcases List.mem_cons.1 mem with rfl | later
      · exact (createSshTunnel_forwards cfg w first).extend
          ((createSshTunnels_keepsTunnel cfg w _ _ _ rest nodup.1).of_ok others)
      · exact ih nodup.2 others tunnel later

theorem map_tunnelName_zip_sublist :
    ∀ (lports : List Nat) (rports : List PyVal) (channels : List KernelChannel),
      ((lports.zip (rports.zip channels)).map tunnelName).Sublist
        (channels.map KernelChannel.value)
  | [], _, _ => List.nil_sublist _
  | _ :: _, [], _ => List.nil_sublist _
  | _ :: _, _ :: _, [] => List.nil_sublist _
  | _ :: lports, _ :: rports, channel :: channels =>
      (map_tunnelName_zip_sublist lports rports channels).cons₂ channel.value

/-- `_tunnel_to_kernel` returns only after reading the five ports and the `ip` of the payload,
and then every tunnel of its loop forwards. -/
theorem tunnelToKernel_forwards {cf : Payload} {server : Option String} {s s' : Sys}
    {lports : List Nat} (returned : tunnelToKernel cfg w cf server s = .ok lports s') :
    ∃ rports remoteIp, portKeys.mapM (getItem cf) = .ok rports ∧ getItem cf "ip" = .ok remoteIp ∧
      ∀ tunnel ∈ lports.zip (rports.zip kernelChannels),
        Forwards cfg w s' (tunnelName tunnel) tunnel.1 tunnel.2.1 remoteIp server := by
  obtain ⟨ports, s1, -, returned⟩ := run_bind_eq_ok.1 returned
  obtain ⟨rports, s2, read, returned⟩ := run_bind_eq_ok.1 returned
  obtain ⟨rportsRead, rfl⟩ := run_ofExcept_eq_ok.1 read
  obtain ⟨remoteIp, s3, ip, returned⟩ := run_bind_eq_ok.1 returned
  obtain ⟨ipRead, rfl⟩ := run_ofExcept_eq_ok.1 ip
  obtain ⟨sshServer, s4, -, returned⟩ := run_bind_eq_ok.1 returned
  obtain ⟨calls, s5, -, returned⟩ := run_bind_eq_ok.1 returned
  refine ⟨rports, remoteIp, rportsRead, ipRead, ?_⟩
  split at returned <;> obtain ⟨⟨⟩, s6, -, returned⟩ := run_bind_eq_ok.1 returned <;>
    obtain ⟨⟨⟩, s7, tunnels, done⟩ := run_bind_eq_ok.1 returned <;> cases done <;>
    exact createSshTunnels_forwards cfg w
      ((map_tunnelName_zip_sublist _ _ _).nodup (by decide)) tunnels

/-- After `_tunnel_to_kernel` and the port replacement, the payload points at `127.0.0.1`, keeps the
reported communication port, and has each of its channels forwarded. -/
theorem tunnelToKernel_channelsForwarded {connectInfo cf1 : Payload} {host : Option String}
    {s s' : Sys} {lports : List Nat}
    (kernel : tunnelToKernel cfg w (connectInfo.setItem "ip" (PyVal.ofOption host)) host s =
      .ok lports s')
    (placed : withLocalPorts (connectInfo.setItem "ip" (PyVal.ofOption host)) lports = .ok cf1) :
    cf1.get "ip" = some (.str "127.0.0.1") ∧ cf1.get "comm_port" = connectInfo.get "comm_port" ∧
      ChannelsForwarded cfg w s' cf1 connectInfo host := by
  obtain ⟨rports, remoteIp, read, ip, forwards⟩ := tunnelToKernel_forwards cfg w kernel
  obtain ⟨ip1, others, channels⟩ := withLocalPorts_channels placed read
  have remoteIpEq : remoteIp = PyVal.ofOption host := by
    simpa [PyDict.get_setItem_self] using (getItem_eq_ok.1 ip).symm
  subst remoteIpEq
  refine ⟨ip1, by rw [others "comm_port" (by decide), PyDict.get_setItem_ne _ _ (by decide)],
    fun channel mem => ?_⟩
  obtain ⟨localPort, remotePort, remote, placedPort, tunnel⟩ := channels channel mem
  exact ⟨localPort, remotePort, by rwa [PyDict.get_setItem_ne _ _ (channel_keys_ne channel mem).1]
    at remote, placedPort, forwards _ tunnel⟩

theorem tunnelToPort_keepsTunnel {name : String} {kernelChannel : KernelChannel}
    (other : name ≠ kernelChannel.value) (remoteIp : PyVal) (remotePort : Int)
    (server : Option String) :
    Keeps (KeepsTunnel name) (tunnelToPort cfg w kernelChannel remoteIp remotePort server) :=
  Keeps.bind (KeepsTunnel.trans name)
    ((selectPorts_keeps cfg w 1).mono fun _ _ => KeepsTunnel.of_socketsOnly name) fun _ =>
      Keeps.bind (KeepsTunnel.trans name) (Keeps.ofExcept (KeepsTunnel.refl name) _) fun _ =>
        Keeps.bind (KeepsTunnel.trans name) (createSshTunnel_keepsTunnel cfg w other _ _ _ _ _)
          fun _ => Keeps.pure (KeepsTunnel.refl name) _

theorem tunnelToPort_tunnelsOnly (kernelChannel : KernelChannel) (remoteIp : PyVal)
    (remotePort : Int) (server : Option String) :
    Keeps TunnelsOnly (tunnelToPort cfg w kernelChannel remoteIp remotePort server) :=
  tunnelToPort_frame cfg w TunnelsOnly.composes.sequenced
    ((selectPorts_keeps cfg w 1).mono fun _ _ => .of_socketsOnly)
    (createSshTunnel_tunnelsOnly cfg w) kernelChannel remoteIp remotePort server

theorem tunnelToKernel_tunnelsOnly (cf : Payload) (server : Option String) :
    Keeps TunnelsOnly (tunnelToKernel cfg w cf server) :=
  tunnelToKernel_frame cfg w TunnelsOnly.composes.sequenced
    ((selectPorts_keeps cfg w 5).mono fun _ _ => .of_socketsOnly)
    (fun _ _ => createSshTunnel_tunnelsOnly cfg w _) cf server

theorem tunnelToPort_forwards {kernelChannel : KernelChannel} {remoteIp : PyVal}
    {remotePort : Int} {server : Option String} {s s' : Sys} {localPort : Nat}
    (returned : tunnelToPort cfg w kernelChannel remoteIp remotePort server s = .ok localPort s') :
    Forwards cfg w s' kernelChannel.value localPort (.int remotePort) remoteIp server := by
  obtain ⟨ports, s1, -, returned⟩ := run_bind_eq_ok.1 returned
  obtain ⟨port, s2, picked, returned⟩ := run_bind_eq_ok.1 returned
  obtain ⟨-, rfl⟩ := run_ofExcept_eq_ok.1 picked
  obtain ⟨⟨⟩, s3, tunnel, done⟩ := run_bind_eq_ok.1 returned
  cases done
  exact createSshTunnel_forwards cfg w tunnel

end Tunnels

/-! ## Merging the payload -/

section Connection

variable (cfg : Settings) (w : World)

/-- What `_extract_pid_info` leaves as it was: the trace, the tunnels, the communication endpoint
and `connection_info`. -/
structure KeepsConnection (s s' : Sys) : Prop where
  calls : s'.calls = s.calls
  tunnelProcesses : s'.self.tunnelProcesses = s.self.tunnelProcesses
  commIp : s'.self.commIp = s.self.commIp
  commPort : s'.self.commPort = s.self.commPort
  connectionInfo : s'.self.connectionInfo = s.self.connectionInfo
  assignedIp : s'.self.assignedIp = s.self.assignedIp

theorem KeepsConnection.refl (s : Sys) : KeepsConnection s s := ⟨rfl, rfl, rfl, rfl, rfl, rfl⟩

theorem KeepsConnection.trans (a b c : Sys) (first : KeepsConnection a b)
    (second : KeepsConnection b c) : KeepsConnection a c :=
  ⟨second.1.trans first.1, second.2.trans first.2, second.3.trans first.3, second.4.trans first.4,
    second.5.trans first.5, second.6.trans first.6⟩

theorem KeepsConnection.composes : Composes KeepsConnection :=
  ⟨KeepsConnection.refl, KeepsConnection.trans⟩

theorem extractPidInfo_keepsConnection (connectInfo : Payload) :
    Keeps KeepsConnection (extractPidInfo w connectInfo) :=
  extractPidInfo_frame w KeepsConnection.composes.sequenced
    (fun _ _ => ⟨rfl, rfl, rfl, rfl, rfl, rfl⟩) (fun _ _ => ⟨rfl, rfl, rfl, rfl, rfl, rfl⟩)
    (fun _ _ => ⟨rfl, rfl, rfl, rfl, rfl, rfl⟩) (fun _ => ⟨rfl, rfl, rfl, rfl, rfl, rfl⟩) connectInfo

theorem extractPidInfo_returns (connectInfo : Payload) :
    ReturnsOnly (· = (connectInfo.erase "pid").erase "pgid") (extractPidInfo w connectInfo) :=
  ReturnsOnly.bind fun _ => ReturnsOnly.bind fun _ => by
    dsimp only
    split <;> exact ReturnsOnly.bind fun _ => ReturnsOnly.pure rfl

/-- `_update_connection` returns after `_extract_pid_info`, and merges the payload without `pid`
and `pgid` into `connection_info`. -/
theorem updateConnection_of_ok {connectInfo : Payload} {s s' : Sys}
    (returned : updateConnection cfg w connectInfo s = .ok () s') :
    ∃ s1, KeepsConnection s s1 ∧ s' =
      ⟨{ s1.self with
          connectionInfo := s.self.connectionInfo.update ((connectInfo.erase "pid").erase "pgid") },
        s1.calls⟩ := by
  unfold updateConnection at returned
  split at returned <;> obtain ⟨⟨⟩, s0, guard, returned⟩ := run_bind_eq_ok.1 returned <;>
    cases guard
  obtain ⟨result, s1, extracted, returned⟩ := run_bind_eq_ok.1 returned
  have kept := (extractPidInfo_keepsConnection w connectInfo).of_ok extracted
  cases extractPidInfo_returns w connectInfo _ _ _ extracted
  cases returned
  exact ⟨s1, kept, by simp only [kept.connectionInfo]⟩

/-! ## Setting up the connection -/

/-- A run that leaves `assigned_ip`, the host the kernel runs on, as it was. -/
def KeepsHost (s s' : Sys) : Prop := s'.self.assignedIp = s.self.assignedIp

theorem KeepsHost.refl (s : Sys) : KeepsHost s s := rfl

theorem KeepsHost.trans (a b c : Sys) (first : KeepsHost a b) (second : KeepsHost b c) :
    KeepsHost a c :=
  Eq.trans second first

theorem KeepsHost.of_tunnelsOnly {s s' : Sys} (tunnels : TunnelsOnly s s') : KeepsHost s s' := by
  unfold KeepsHost
  rw [tunnels]

theorem KeepsHost.modifySelf (f : Provisioner → Provisioner)
    (keeps : ∀ self, (f self).assignedIp = self.assignedIp) : Keeps KeepsHost (Py.modifySelf f) :=
  fun s => keeps s.self

theorem extractPidInfo_keepsHost (connectInfo : Payload) :
    Keeps KeepsHost (extractPidInfo w connectInfo) :=
  (extractPidInfo_keepsConnection w connectInfo).mono fun _ _ kept => kept.assignedIp

theorem KeepsHost.composes : Composes KeepsHost := ⟨KeepsHost.refl, KeepsHost.trans⟩

/-- `_setup_connection_info` leaves `assigned_ip` as it was, however it ends. -/
theorem setupConnectionInfo_keepsHost (connectInfo : Payload) :
    Keeps KeepsHost (setupConnectionInfo cfg w connectInfo) :=
  setupConnectionInfo_frame cfg w KeepsHost.composes.sequenced
    (fun _ _ => (tunnelToKernel_tunnelsOnly cfg w _ _).mono fun _ _ => .of_tunnelsOnly)
    (fun _ _ _ _ => (tunnelToPort_tunnelsOnly cfg w _ _ _ _).mono fun _ _ => .of_tunnelsOnly)
    (fun _ _ => rfl) (fun _ _ => rfl) (fun _ _ => rfl)
    (updateConnection_frame cfg w KeepsHost.composes.sequenced (extractPidInfo_keepsHost w)
      fun _ _ => rfl)
    connectInfo

/-- **A connection set up through tunnels is reached through them.** When
`_setup_connection_info` returns with tunneling enabled, `connection_info` points at
`127.0.0.1`; for each of the five channels, the payload's port is forwarded from a local port,
which `connection_info` holds under the channel's key, by the tunnel tracked under the channel's
name. A payload that names a communication port has it forwarded the same way under `EG_COMM`,
and the listener is then reached at `127.0.0.1` on that tunnel's local port. -/
theorem setupConnectionInfo_forwards (tunneling : cfg.tunnelingEnabled = true)
    {connectInfo : Payload} {s s' : Sys}
    (returned : setupConnectionInfo cfg w connectInfo s = .ok () s') :
    s'.self.connectionInfo.get "ip" = some (.str "127.0.0.1") ∧
      ChannelsForwarded cfg w s' s'.self.connectionInfo connectInfo s.self.assignedIp ∧
      ∀ commPortValue, connectInfo.get "comm_port" = some commPortValue →
        CommForwarded cfg w s' s'.self.connectionInfo commPortValue s.self.assignedIp := by
  simp only [setupConnectionInfo, tunneling, if_true] at returned
  obtain ⟨self, s0, got, returned⟩ := run_bind_eq_ok.1 returned
  cases got
  obtain ⟨⟨⟩, s1, recorded, returned⟩ := run_bind_eq_ok.1 returned
  cases recorded
  obtain ⟨lports, s2, kernel, returned⟩ := run_bind_eq_ok.1 returned
  obtain ⟨cf1, s3, placed, returned⟩ := run_bind_eq_ok.1 returned
  obtain ⟨placedOk, rfl⟩ := run_ofExcept_eq_ok.1 placed
  obtain ⟨ip1, comm1, atKernel⟩ := tunnelToKernel_channelsForwarded cfg w kernel placedOk
  have keys := channel_keys_ne
  rcases present : cf1.get "comm_port" with _ | commPortValue <;> rw [present] at returned
  case none =>
    obtain ⟨⟨⟩, s4, unit, returned⟩ := run_bind_eq_ok.1 returned
    cases unit
    obtain ⟨s9, kept, rfl⟩ := updateConnection_of_ok cfg w returned
    refine ⟨get_update_extracted (by decide) (by decide) ip1,
      atKernel.extend (fun _ _ => .of_eq kept.calls kept.tunnelProcesses) fun channel mem _ =>
        get_update_extracted (keys channel mem).2.1 (keys channel mem).2.2.1,
      fun value given => ?_⟩
    rw [← comm1, present] at given
    cases given
  case some =>
    obtain ⟨⟨⟩, s4, set1, returned⟩ := run_bind_eq_ok.1 returned
    cases set1
    obtain ⟨remotePort, s5, conv, returned⟩ := run_bind_eq_ok.1 returned
    obtain ⟨convOk, rfl⟩ := run_ofExcept_eq_ok.1 conv
    obtain ⟨commPort, s6, port, returned⟩ := run_bind_eq_ok.1 returned
    obtain ⟨⟨⟩, s7, set2, returned⟩ := run_bind_eq_ok.1 returned
    cases set2
    obtain ⟨⟨⟩, s8, unit, returned⟩ := run_bind_eq_ok.1 returned
    cases unit
    obtain ⟨s9, kept, rfl⟩ := updateConnection_of_ok cfg w returned
    -- The kernel's tunnels survive `_tunnel_to_port`, which records under `EG_COMM` only.
    have toPort : ∀ channel ∈ portKeys.zip kernelChannels, KeepsTunnel channel.2.value s2 s6 :=
      fun channel mem => KeepsTunnel.trans _ s2 _ s6 (by exact KeepsTunnel.of_eq rfl rfl)
        ((tunnelToPort_keepsTunnel cfg w (keys channel mem).2.2.2.2 _ _ _).of_ok port)
    refine ⟨get_update_extracted (by decide) (by decide)
      (by rwa [PyDict.get_setItem_ne _ _ (by decide)]),
      atKernel.extend (fun channel mem => (toPort channel mem).trans _ _ _ _
        (.of_eq kept.calls kept.tunnelProcesses)) fun channel mem _ found =>
          get_update_extracted (keys channel mem).2.1 (keys channel mem).2.2.1
            (by rwa [PyDict.get_setItem_ne _ _ (keys channel mem).2.2.2.1]),
      fun value given => ?_⟩
    rw [← comm1, present] at given
    cases given
    have moved := congrArg Provisioner.commIp ((tunnelToPort_tunnelsOnly cfg w _ _ _ _).of_ok port)
    exact ⟨commPort, remotePort, convOk, by simp [kept.commIp, moved, ip1, PyVal.toOption],
      by rw [kept.commPort], get_update_extracted (by decide) (by decide)
        (PyDict.get_setItem_self _ _ _),
      (tunnelToPort_forwards cfg w port).extend (.of_eq kept.calls kept.tunnelProcesses)⟩

/-! ## A launch through tunnels -/

/-- **A kernel launched through tunnels is reached through them.** When `launch_kernel` returns
the connection information with tunneling enabled, it is the payload the launcher reported with
`ip` replaced by `127.0.0.1` and each channel's port by a local port, which the tunnel tracked
under the channel's name forwards to the reported port on the kernel's host; a reported
communication port is forwarded the same way under `EG_COMM`, and `comm_ip` and `comm_port` name
its local end. -/
theorem launchKernel_forwards (tunneling : cfg.tunnelingEnabled = true) {cmd : List String}
    {fuel : Nat} {s s' : Sys} {info : Payload}
    (returned : launchKernel cfg w cmd fuel s = .ok (some info) s') :
    ∃ (calls : List Call) (payload : Payload), w.connectionInfo calls = .ok payload ∧
      info = s'.self.connectionInfo ∧ info.get "ip" = some (.str "127.0.0.1") ∧
      ChannelsForwarded cfg w s' info payload s'.self.assignedIp ∧
      ∀ commPortValue, payload.get "comm_port" = some commPortValue →
        CommForwarded cfg w s' info commPortValue s'.self.assignedIp := by
  obtain ⟨⟨⟩, s1, -, returned⟩ := run_bind_eq_ok.1 returned
  obtain ⟨ready, s2, confirmed, returned⟩ := run_bind_eq_ok.1 returned
  obtain ⟨⟨⟩, s4, marked, looped⟩ := run_bind_eq_ok.1 confirmed
  obtain ⟨now, s3, -, stamped⟩ := run_bind_eq_ok.1 marked
  cases stamped
  cases ready
  · cases returned
  obtain ⟨self, s5, got, done⟩ := run_bind_eq_ok.1 returned
  cases got
  cases done
  obtain ⟨-, -, -, received⟩ :=
    confirmLoop_spec cfg w fuel 0 ⟨{ s3.self with startTime := some now }, s3.calls⟩ rfl
  obtain ⟨s6, payload, s7, waited, setup, rfl⟩ := received _ looped
  obtain ⟨ip, channels, comm⟩ := setupConnectionInfo_forwards cfg w tunneling setup
  have host : s7.self.assignedIp = s6.self.assignedIp :=
    (setupConnectionInfo_keepsHost cfg w payload).of_ok setup
  refine ⟨s6.calls, payload, waited, rfl, ip,
    host ▸ channels.extend (fun _ _ => .of_eq rfl rfl) fun _ _ _ => id, fun value given => ?_⟩
  obtain ⟨localPort, remotePort, conv, commIp, commPort, placedPort, tunnel⟩ := comm value given
  exact ⟨localPort, remotePort, conv, commIp, commPort, placedPort,
    host ▸ tunnel.extend (KeepsTunnel.of_eq rfl rfl)⟩

end Connection

end RemoteProvisioners
