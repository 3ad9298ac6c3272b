import RemoteProvisioners.Confirm

/-!
# A launch whose payload arrives is confirmed

`confirmRemoteStartup_bounded` says how the confirmation loop ends when nothing arrives. This
module says that it ends as it should when the payload does.

While no sleep is cancelled and every status query reports the kernel's container running on an
assigned host (`ReachesWait`), every pass of `confirm_remote_startup` whose clock reading is within
the timeout comes to its wait for the payload (`confirmPass_eq_awaitPayload`). The object and the
trace at that wait are known in advance (`waitState`): the pass has slept, read the clock and taken
the placement of its status query. A wait that times out zeroes `pid` and `pgid` and the loop goes
on from `waitedState` (`awaitPayload_of_waited`); one that receives a payload that is set up
returns `true` (`awaitPayload_of_arrived`). The loop therefore returns from the first pass whose
wait receives the payload (`confirmLoop_confirms`).

**A launch is confirmed by the first payload that arrives in time.** If `jupyter_client` starts
the launcher, the waits of the first `k` passes time out, every pass up to the `k + 1`-th reads the
clock within `launch_timeout` of the start (`launchState`), and the payload of the `k + 1`-th wait
is set up without raising, then `launch_kernel`, with fuel for more than `k` passes, returns the
connection information that payload set up (`launchKernel_confirms_first_payload`).
-/

set_option autoImplicit false

namespace RemoteProvisioners

/-! ## Passes that reach the wait -/

/-- The collaborators let every pass of `confirm_remote_startup` reach its wait for the payload:
no sleep is cancelled, and every status query reports a container running on an assigned host. -/
structure ReachesWait (w : World) : Prop where
  sleeps : ∀ calls, w.sleepFails calls = none
  running : ∀ calls iteration, ∃ status, w.containerStatus calls iteration = .ok status ∧
    (PyVal.ofOption status).truthy = true
  hosted : ∀ calls placement, (w.placement calls placement).assignedHost ≠ ""

section Progress

variable (cfg : Settings) (w : World)

/-- The object and the trace once `launch_kernel(cmd)` has started the launcher and
`confirm_remote_startup` has read its start time. -/
def launchState (cmd : List String) (s : Sys) : Sys :=
  let launched : Sys :=
    ⟨{ s.self with localProc := some s.calls.length, pid := w.launcherPid s.calls,
                   ip := some cfg.localIp }, s.calls ++ [.launchKernel cmd]⟩
  ⟨{ launched.self with startTime := some (w.clock launched.calls) },
    launched.calls ++ [.readClock (w.clock launched.calls)]⟩

/-- The object and the trace at the wait of a pass from `s`: the pass has slept, read the clock,
and taken the placement its status query reported. -/
def waitState (s : Sys) : Sys :=
  let calls := s.calls ++ [.sleep cfg.pollInterval,
    .readClock (w.clock (s.calls ++ [.sleep cfg.pollInterval]))]
  ⟨s.self.place (w.placement calls s.self.placement), calls⟩

/-- The object and the trace after a pass from `s` whose wait timed out. -/
def waitedState (s : Sys) : Sys :=
  ⟨{ (waitState cfg w s).self with pid := 0, pgid := 0 }, (waitState cfg w s).calls⟩

/-- A wait that times out returns `false`, having zeroed `pid` and `pgid`. -/
theorem awaitPayload_of_waited (t : Sys) {text : String}
    (waited : w.connectionInfo t.calls = .error (.timeoutError text)) :
    awaitPayload cfg w t = .ok false ⟨{ t.self with pid := 0, pgid := 0 }, t.calls⟩ := by
  simp [awaitPayload, run_bind, receiveConnectionInfo_of_timeout cfg w t waited]

/-- A wait that receives a payload, set up without raising, returns `true`. -/
theorem awaitPayload_of_arrived (t : Sys) {payload : Payload} {s2 : Sys}
    (arrived : w.connectionInfo t.calls = .ok payload)
    (setUp : setupConnectionInfo cfg w payload t = .ok () s2) :
    awaitPayload cfg w t = .ok true ⟨{ s2.self with pid := 0, pgid := 0 }, s2.calls⟩ := by
  simp [awaitPayload, receiveConnectionInfo, run_bind, arrived, setUp]

variable {w} (reaches : ReachesWait w)
include reaches

/-- A pass whose clock reading is within the timeout comes to its wait at `waitState`. -/
theorem confirmPass_eq_awaitPayload (i : Nat) (s : Sys) {start : Nat}
    (started : s.self.startTime = some start)
    (inTime : (w.clock (s.calls ++ [.sleep cfg.pollInterval]) : Int) - start ≤
      cfg.launchTimeout) :
    confirmPass cfg w i s = awaitPayload cfg w (waitState cfg w s) := by
  have timed : handleLaunchTimeout cfg w s = .ok () (s.extend [.sleep cfg.pollInterval,
      .readClock (w.clock (s.calls ++ [.sleep cfg.pollInterval]))]) := by
    rcases handleLaunchTimeout_spec cfg w s started with ⟨timed, -⟩ | ⟨e, asleep, -⟩ | ⟨late, -⟩
    · exact timed
    · simp [reaches.sleeps] at asleep
    · omega
  obtain ⟨status, queried, truthy⟩ := reaches.running (waitState cfg w s).calls (some (toString i))
  have hosted := reaches.hosted (waitState cfg w s).calls s.self.placement
  simp only [waitState] at queried hosted
  simp [confirmPass, checkContainer, run_bind, timed, getContainerStatus_eq, queried, truthy,
    hosted, waitState]

/-- **The loop confirms the first payload that arrives in time.** From a pass whose object holds
the start time, if the waits of the first `k` passes time out, every pass up to the `k + 1`-th
reads the clock within the timeout, and the `k + 1`-th wait receives a payload that is set up,
the loop, with fuel for more than `k` passes, returns `true` from that pass. -/
theorem confirmLoop_confirms (k : Nat) {start : Nat} {payload : Payload} {s2 : Sys} :
    ∀ (fuel i : Nat) (s : Sys), s.self.startTime = some start → k < fuel →
      (∀ j ≤ k, (w.clock (((waitedState cfg w)^[j] s).calls ++ [.sleep cfg.pollInterval]) : Int) -
        start ≤ cfg.launchTimeout) →
      (∀ j < k, ∃ text, w.connectionInfo (waitState cfg w ((waitedState cfg w)^[j] s)).calls =
        .error (.timeoutError text)) →
      w.connectionInfo (waitState cfg w ((waitedState cfg w)^[k] s)).calls = .ok payload →
      setupConnectionInfo cfg w payload (waitState cfg w ((waitedState cfg w)^[k] s)) =
        .ok () s2 →
      confirmLoop cfg w i fuel s = .ok true ⟨{ s2.self with pid := 0, pgid := 0 }, s2.calls⟩ := by
  induction k with
  | zero =>
      rintro (_ | fuel) i s started enough inTime - arrived setUp
      · omega
      · simp [confirmLoop, run_bind,
          confirmPass_eq_awaitPayload cfg reaches _ s started (inTime 0 (Nat.le_refl 0)),
          awaitPayload_of_arrived cfg w (waitState cfg w s) arrived setUp]
  | succ k ih =>
      rintro (_ | fuel) i s started enough inTime waits arrived setUp
      · omega
      · obtain ⟨text, waited⟩ := waits 0 (Nat.succ_pos k)
        have passed : confirmPass cfg w (i + 1) s = .ok false (waitedState cfg w s) := by
          rw [confirmPass_eq_awaitPayload cfg reaches _ s started (inTime 0 (Nat.zero_le _)),
            awaitPayload_of_waited cfg w (waitState cfg w s) waited]
          rfl
        have looped : confirmLoop cfg w i (fuel + 1) s =
            confirmLoop cfg w (i + 1) fuel (waitedState cfg w s) := by
          simp [confirmLoop, run_bind, passed]
        rw [looped]
        exact ih fuel (i + 1) _ started (by omega) (fun j le => inTime (j + 1) (by omega))
          (fun j lt => waits (j + 1) (by omega)) arrived setUp

/-- **A launch is confirmed by the first payload that arrives in time.** While every pass reaches
its wait, if `jupyter_client` starts the launcher, the waits of the first `k` passes time out,
every pass up to the `k + 1`-th reads the clock within `launch_timeout` of the start, and the
`k + 1`-th wait receives a payload that is set up, then `launch_kernel`, given fuel for more than
`k` passes, returns the connection information that payload set up, with `pid` and `pgid`
zeroed. -/
theorem launchKernel_confirms_first_payload (cmd : List String) (fuel k : Nat) (s : Sys)
    {payload : Payload} {s2 : Sys} (launched : w.launchFails s.calls = none) (enough : k < fuel)
    (inTime : ∀ j ≤ k,
      (w.clock (((waitedState cfg w)^[j] (launchState cfg w cmd s)).calls ++
        [.sleep cfg.pollInterval]) : Int) - w.clock (s.calls ++ [.launchKernel cmd]) ≤
          cfg.launchTimeout)
    (waits : ∀ j < k, ∃ text,
      w.connectionInfo (waitState cfg w ((waitedState cfg w)^[j] (launchState cfg w cmd s))).calls =
        .error (.timeoutError text))
    (arrives :
      w.connectionInfo (waitState cfg w ((waitedState cfg w)^[k] (launchState cfg w cmd s))).calls =
        .ok payload)
    (setUp : setupConnectionInfo cfg w payload
      (waitState cfg w ((waitedState cfg w)^[k] (launchState cfg w cmd s))) = .ok () s2) :
    launchKernel cfg w cmd fuel s =
      .ok (some s2.self.connectionInfo) ⟨{ s2.self with pid := 0, pgid := 0 }, s2.calls⟩ := by
  set running : Sys :=
    ⟨{ s.self with localProc := some s.calls.length, pid := w.launcherPid s.calls,
                   ip := some cfg.localIp }, s.calls ++ [.launchKernel cmd]⟩
  have started : startLauncher cfg w cmd s = .ok () running := by
    simp only [startLauncher, run_bind, run_history, launched]
    rfl
  have confirming : confirmRemoteStartup cfg w fuel running =
      confirmLoop cfg w 0 fuel (launchState cfg w cmd s) := rfl
  simp [launchKernel, run_bind, started, confirming,
    confirmLoop_confirms cfg reaches k fuel 0 _ rfl enough inTime waits arrives setUp]

end Progress

/-- The container manager reports the kernel's container running on `node-1` from the first
query, and the launcher's payload arrives at the second wait. -/
def secondWaitWorld : World :=
  { readyWorld with
    connectionInfo := fun calls =>
      if calls.count (.sleep 500) < 2 then .error (.timeoutError "") else .ok channelPayload }

theorem reachesWait_secondWaitWorld : ReachesWait secondWaitWorld :=
  ⟨fun _ => rfl, fun _ _ => ⟨some "running", rfl, rfl⟩,
    fun _ _ => show "node-1" ≠ "" by decide⟩

set_option smartUnfolding false in
/-- With the default settings, a launch whose first wait times out is confirmed by the payload of
its second. -/
theorem launchKernel_confirms_first_payload_second_wait :
    ReachesWait secondWaitWorld ∧ ∃ s2 : Sys,
      launchKernel Settings.default secondWaitWorld ["launch"] 2 ⟨Provisioner.fresh 0 0 .empty, []⟩ =
        .ok (some s2.self.connectionInfo) ⟨{ s2.self with pid := 0, pgid := 0 }, s2.calls⟩ := by
  obtain ⟨s2, setUp⟩ : ∃ s2, setupConnectionInfo Settings.default secondWaitWorld channelPayload
      (waitState Settings.default secondWaitWorld ((waitedState Settings.default secondWaitWorld)^[1]
        (launchState Settings.default secondWaitWorld ["launch"] ⟨Provisioner.fresh 0 0 .empty, []⟩))) =
        .ok () s2 := ⟨_, rfl⟩
  exact ⟨reachesWait_secondWaitWorld, s2, launchKernel_confirms_first_payload Settings.default
    reachesWait_secondWaitWorld ["launch"] 2 1 ⟨Provisioner.fresh 0 0 .empty, []⟩ rfl (by decide)
    (by decide) (fun j lt => ⟨"", by obtain rfl : j = 0 := Nat.lt_one_iff.1 lt; rfl⟩) rfl setUp⟩

end RemoteProvisioners
