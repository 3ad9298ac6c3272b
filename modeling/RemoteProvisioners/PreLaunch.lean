import RemoteProvisioners.LaunchCommand

/-!
# Preparing a launch

`ContainerProvisioner.pre_launch` first runs `RemoteProvisionerBase.pre_launch`, which resets the
per-launch fields of the object, registers the kernel id with the Secure Response Channel,
templates the kernel's command (`launchCommand`), and hands it with the keyword arguments to
`KernelProvisionerBase.pre_launch`, which builds the kernel's environment (calling the
`_finalize_env` hook). It then fills in `KERNEL_USERNAME` and checks it against the allowed and
denied users. The container variant adds the image names, drops the working directory, and checks
the requested uid and gid against the deny-sets.

`preLaunch_run` computes a whole call: the state it leaves and what it returns or raises. Before
any check of the user, two steps can raise a `TypeError`: `re.sub` on an argument with a
placeholder whose value is not a string (the `{env}` of a kernel spec names a dict), and
`super().pre_launch(cmd=cmd, **kwargs)` when the keyword arguments hold a `cmd` already.
`preLaunch_enforces` says that a call returns exactly when the command is built, the user is
allowed and neither id is denied, that the environment it returns carries the checked values,
and which exception it raises otherwise; the ids are compared as strings, so `"00"` passes a
deny-set of `"0"` (`preLaunch_admits_padded_root`). `preLaunch_resets` says what a call leaves in
the object: the per-launch fields of `RemoteProvisionerBase` are those of a fresh object, and the
fields the container variant adds are untouched. The registration with the Secure Response
Channel is the first call of every `pre_launch`, made before anything can raise
(`preLaunch_registers`), so a refused call has registered the kernel all the same
(`preLaunch_registers_denied_root`).
-/

set_option autoImplicit false

namespace RemoteProvisioners

/-! ## The per-launch fields -/

/-- The fields `RemoteProvisionerBase.pre_launch` assigns before anything else. -/
structure LaunchFields where
  startTime : Option Nat
  assignedIp : Option String
  assignedHost : String
  commIp : Option String
  commPort : Int
  tunneledConnectInfo : Option Payload
  tunnelProcesses : PyDict Nat
  localProc : Option Nat
  ip : Option String
  pid : Int
  pgid : Int

/-- The values `pre_launch` assigns, those of `__init__`. -/
def LaunchFields.initial : LaunchFields where
  startTime := none
  assignedIp := none
  assignedHost := ""
  commIp := none
  commPort := 0
  tunneledConnectInfo := none
  tunnelProcesses := .empty
  localProc := none
  ip := none
  pid := 0
  pgid := 0

namespace Provisioner

/-- The per-launch fields of an object. -/
def launchFields (self : Provisioner) : LaunchFields where
  startTime := self.startTime
  assignedIp := self.assignedIp
  assignedHost := self.assignedHost
  commIp := self.commIp
  commPort := self.commPort
  tunneledConnectInfo := self.tunneledConnectInfo
  tunnelProcesses := self.tunnelProcesses
  localProc := self.localProc
  ip := self.ip
  pid := self.pid
  pgid := self.pgid

/-- The first eleven assignments of `RemoteProvisionerBase.pre_launch`. -/
def resetLaunchState (self : Provisioner) : Provisioner :=
  { self with
    startTime := none
    assignedIp := none
    assignedHost := ""
    commIp := none
    commPort := 0
    tunneledConnectInfo := none
    tunnelProcesses := .empty
    localProc := none
    ip := none
    pid := 0
    pgid := 0 }

@[simp]
theorem launchFields_resetLaunchState (self : Provisioner) :
    self.resetLaunchState.launchFields = .initial := rfl

@[simp]
theorem launchFields_fresh (lowerPort upperPort : Int) (connectionInfo : Payload) :
    (fresh lowerPort upperPort connectionInfo).launchFields = .initial := rfl

end Provisioner

/-! ## The methods -/

/-- `env_pop_list`: values left out of the kernel's environment. -/
def envPopList : List String := ["RP_REMOTE_PWD", "LS_COLORS"]

section PreLaunch

variable (cfg : Settings) (w : World)

/-- `_finalize_env`: the kernel id and language, and no sensitive values. -/
def finalizeEnv (env : Env) : Env :=
  let env := env.setItem "KERNEL_ID" cfg.kernelId
  let kernelLanguage :=
    if cfg.kernelLanguage.length > 0 then w.lower cfg.kernelLanguage else "unknown-kernel-language"
  let env := env.setItem "KERNEL_LANGUAGE" ((env.get "KERNEL_LANGUAGE").getD kernelLanguage)
  envPopList.foldl PyDict.erase env

/-- `_raise_authorization_error`, for the user `self.kernel_username`. -/
def raiseAuthorizationError {α : Type} (kernelUsername differentiatorClause : String) : Py α :=
  let kernelClause :=
    match cfg.kernelDisplayName with
    | some kernelName => s!" '{kernelName}'."
    | none => "s."
  logAndRaise (.permissionError s!"User '{kernelUsername}' is {differentiatorClause} to start kernel{kernelClause} Ensure KERNEL_USERNAME is set to an appropriate value and retry the request.")

/-- `_enforce_authorization`, for the user `self.kernel_username`: the environment gains
`EG_IMPERSONATION_ENABLED` (`str` of a bool), then the user is checked. -/
def enforceAuthorization (kernelUsername : String) (env : Env) : Py Env := do
  let env := env.setItem "EG_IMPERSONATION_ENABLED"
    (if cfg.impersonationEnabled then "True" else "False")
  if kernelUsername ∈ cfg.unauthorizedUsers then
    raiseAuthorizationError cfg kernelUsername "not authorized"
  if cfg.authorizedUsers.length > 0 then
    if kernelUsername ∉ cfg.authorizedUsers then
      raiseAuthorizationError cfg kernelUsername "not in the set of users authorized"
  return env

/-- The keyword arguments a `pre_launch` returns: the command, the kernel's environment, and
the others by name. -/
structure LaunchKwargs where
  cmd : List String
  env : Env
  others : PyDict PyVal

/-- The keyword arguments a `pre_launch` is called with, as the namespace of `re.sub` sees them:
the others, and `env`, a dict. -/
def keywordArguments (env : Env) (others : PyDict PyVal) : PyDict PyVal :=
  others.setItem "env" (.other "dict" !env.entries.isEmpty)

/-- The `TypeError` of `super().pre_launch(cmd=cmd, **kwargs)` when `kwargs` holds a `cmd`. -/
def duplicateCmdError : Exn :=
  .typeError "jupyter_client.provisioning.provisioner_base.KernelProvisionerBase.pre_launch() got multiple values for keyword argument 'cmd'"

/-- `RemoteProvisionerBase.pre_launch(env=env, **others)`. `super().pre_launch` builds the
environment (`World.basePreLaunchEnv`) and calls `_finalize_env`. -/
def basePreLaunch (env : Env) (others : PyDict PyVal) : Py LaunchKwargs := do
  Py.modifySelf Provisioner.resetLaunchState
  Py.emit (.registerEvent cfg.kernelId)
  let cmd ← Py.ofExcept (launchCommand cfg (keywordArguments env others))
  if "cmd" ∈ others.keys then throw duplicateCmdError
  let env := finalizeEnv cfg w (w.basePreLaunchEnv env)
  let kernelUsername := (env.get "KERNEL_USERNAME").getD w.getuser
  Py.modifySelf fun self => { self with kernelUsername := some kernelUsername }
  let env := env.setItem "KERNEL_USERNAME" kernelUsername
  let env ← enforceAuthorization cfg kernelUsername env
  return ⟨cmd, env, others⟩

/-- `_enforce_prohibited_ids`. -/
def enforceProhibitedIds (env : Env) : Py Env := do
  let kernelUid := (env.get "KERNEL_UID").getD defaultKernelUid
  let kernelGid := (env.get "KERNEL_GID").getD defaultKernelGid
  if kernelUid ∈ cfg.prohibitedUids then
    logAndRaise (.permissionError s!"Kernel's UID value of '{kernelUid}' has been denied via RP_PROHIBITED_UIDS!")
  else if kernelGid ∈ cfg.prohibitedGids then
    logAndRaise (.permissionError s!"Kernel's GID value of '{kernelGid}' has been denied via RP_PROHIBITED_GIDS!")
  return (env.setItem "KERNEL_UID" kernelUid).setItem "KERNEL_GID" kernelGid

/-- `ContainerProvisioner.pre_launch(env=env, **others)`. -/
def preLaunch (env : Env) (others : PyDict PyVal) : Py LaunchKwargs := do
  let kwargs ← basePreLaunch cfg w env others
  let env := (kwargs.env.setItem "KERNEL_IMAGE" cfg.imageName).setItem "KERNEL_EXECUTOR_IMAGE"
    cfg.executorImageName
  let env := if cfg.mirrorWorkingDirs then env else env.erase "KERNEL_WORKING_DIR"
  let env ← enforceProhibitedIds cfg env
  return { kwargs with env := env }

/-! ## What a call computes -/

/-- The users `_enforce_authorization` lets through. -/
def UserAllowed (user : String) : Prop :=
  user ∉ cfg.unauthorizedUsers ∧ (cfg.authorizedUsers ≠ [] → user ∈ cfg.authorizedUsers)

instance (user : String) : Decidable (UserAllowed cfg user) :=
  inferInstanceAs (Decidable (_ ∧ _))

/-- The environment `super().pre_launch` hands back. -/
def requestedEnv (env : Env) : Env := finalizeEnv cfg w (w.basePreLaunchEnv env)

/-- The user `pre_launch` checks: `KERNEL_USERNAME`, else the server's user. -/
def requestedUser (env : Env) : String :=
  ((requestedEnv cfg w env).get "KERNEL_USERNAME").getD w.getuser

/-- The uid `_enforce_prohibited_ids` checks: `KERNEL_UID`, else `1000`. -/
def requestedUid (env : Env) : String :=
  ((requestedEnv cfg w env).get "KERNEL_UID").getD defaultKernelUid

/-- The gid `_enforce_prohibited_ids` checks: `KERNEL_GID`, else `100`. -/
def requestedGid (env : Env) : String :=
  ((requestedEnv cfg w env).get "KERNEL_GID").getD defaultKernelGid

/-- The environment `ContainerProvisioner.pre_launch` hands to `_enforce_prohibited_ids`. -/
def containerEnv (env : Env) : Env :=
  let env := ((requestedEnv cfg w env).setItem "KERNEL_USERNAME" (requestedUser cfg w env)).setItem
    "EG_IMPERSONATION_ENABLED" (if cfg.impersonationEnabled then "True" else "False")
  let env := (env.setItem "KERNEL_IMAGE" cfg.imageName).setItem "KERNEL_EXECUTOR_IMAGE"
    cfg.executorImageName
  if cfg.mirrorWorkingDirs then env else env.erase "KERNEL_WORKING_DIR"

/-- The environment a returning `pre_launch` hands to the launch. -/
def launchEnv (env : Env) : Env :=
  ((containerEnv cfg w env).setItem "KERNEL_UID" (requestedUid cfg w env)).setItem "KERNEL_GID"
    (requestedGid cfg w env)

/-- Whether `pre_launch` gets past building the command: `re.sub` templates every argument,
and the keyword arguments hold no `cmd` of their own. -/
def CommandBuilt (env : Env) (others : PyDict PyVal) : Prop :=
  (launchCommand cfg (keywordArguments env others)).toBool ∧ "cmd" ∉ others.keys

instance (env : Env) (others : PyDict PyVal) : Decidable (CommandBuilt cfg env others) :=
  inferInstanceAs (Decidable (_ ∧ _))

/-- The object once the reset and the registration are done, and, when the command is built,
the user assigned: the state every `pre_launch` leaves. -/
def preparedState (env : Env) (others : PyDict PyVal) (s : Sys) : Sys :=
  ⟨if CommandBuilt cfg env others then
      { s.self.resetLaunchState with kernelUsername := some (requestedUser cfg w env) }
    else s.self.resetLaunchState,
    s.calls ++ [.registerEvent cfg.kernelId]⟩

theorem enforceAuthorization_run (user : String) (env : Env) (s : Sys) :
    (UserAllowed cfg user → enforceAuthorization cfg user env s =
      .ok (env.setItem "EG_IMPERSONATION_ENABLED"
        (if cfg.impersonationEnabled then "True" else "False")) s) ∧
    (¬ UserAllowed cfg user →
      ∃ message, enforceAuthorization cfg user env s = .error (.permissionError message) s) := by
  unfold UserAllowed enforceAuthorization raiseAuthorizationError
  by_cases denied : user ∈ cfg.unauthorizedUsers
  · simp [run_bind, denied]
  · by_cases restricted : cfg.authorizedUsers = []
    · simp [run_bind, denied, restricted]
    · by_cases listed : user ∈ cfg.authorizedUsers <;>
        simp [run_bind, denied, restricted, listed, List.length_pos.2 restricted]

theorem enforceProhibitedIds_run (env : Env) (s : Sys) :
    let uid := (env.get "KERNEL_UID").getD defaultKernelUid
    let gid := (env.get "KERNEL_GID").getD defaultKernelGid
    (uid ∉ cfg.prohibitedUids → gid ∉ cfg.prohibitedGids →
      enforceProhibitedIds cfg env s = .ok ((env.setItem "KERNEL_UID" uid).setItem "KERNEL_GID" gid) s) ∧
    (uid ∈ cfg.prohibitedUids ∨ gid ∈ cfg.prohibitedGids →
      ∃ message, enforceProhibitedIds cfg env s = .error (.permissionError message) s) := by
  intro uid gid
  unfold enforceProhibitedIds
  by_cases uidDenied : uid ∈ cfg.prohibitedUids
  · simp [run_bind, uid, uidDenied]
  · by_cases gidDenied : gid ∈ cfg.prohibitedGids <;> simp [run_bind, uid, gid, uidDenied, gidDenied]

theorem containerEnv_get_ids (env : Env) (key : String)
    (isId : key = "KERNEL_UID" ∨ key = "KERNEL_GID") :
    (containerEnv cfg w env).get key = (requestedEnv cfg w env).get key := by
  unfold containerEnv
  rcases isId with rfl | rfl <;> cases cfg.mirrorWorkingDirs <;>
    simp [PyDict.get_setItem, PyDict.get_erase]

theorem launchEnv_get_user (env : Env) :
    (launchEnv cfg w env).get "KERNEL_USERNAME" = some (requestedUser cfg w env) := by
  unfold launchEnv containerEnv
  cases cfg.mirrorWorkingDirs <;> simp [PyDict.get_setItem, PyDict.get_erase]

theorem launchEnv_get_uid (env : Env) :
    (launchEnv cfg w env).get "KERNEL_UID" = some (requestedUid cfg w env) := by
  simp [launchEnv, PyDict.get_setItem]

theorem launchEnv_get_gid (env : Env) :
    (launchEnv cfg w env).get "KERNEL_GID" = some (requestedGid cfg w env) := by
  simp [launchEnv, PyDict.get_setItem]

/-- Up to the user check, `RemoteProvisionerBase.pre_launch` raises the `TypeError` of building
the command, or goes on to `_enforce_authorization` with the user assigned. -/
theorem basePreLaunch_eq (env : Env) (others : PyDict PyVal) (s : Sys) :
    basePreLaunch cfg w env others s =
      match launchCommand cfg (keywordArguments env others) with
      | .error e => .error e (preparedState cfg w env others s)
      | .ok cmd =>
          if "cmd" ∈ others.keys then .error duplicateCmdError (preparedState cfg w env others s)
          else ((fun env => (⟨cmd, env, others⟩ : LaunchKwargs)) <$>
            enforceAuthorization cfg (requestedUser cfg w env)
              ((requestedEnv cfg w env).setItem "KERNEL_USERNAME" (requestedUser cfg w env)))
            (preparedState cfg w env others s) := by
  simp only [basePreLaunch, run_bind, run_modifySelf, run_emit, preparedState, CommandBuilt]
  rcases launchCommand cfg (keywordArguments env others) with e | cmd
  · rfl
  · by_cases duplicate : "cmd" ∈ others.keys
    · simp [duplicate]; rfl
    · simp only [run_ofExcept_ok, duplicate, ↓reduceIte, Except.toBool, not_false_eq_true,
        and_self, run_pure, run_map, run_bind, run_modifySelf, Sys.extend]
      rfl

/-- A whole `pre_launch` call. It raises the `TypeError` of building the command, or returns
`launchEnv` exactly when the user is allowed and neither id is denied, and raises a
`PermissionError` otherwise; it leaves the prepared state in every case. -/
theorem preLaunch_run (env : Env) (others : PyDict PyVal) (s : Sys) :
    (¬ CommandBuilt cfg env others →
      ∃ message, preLaunch cfg w env others s =
        .error (.typeError message) (preparedState cfg w env others s)) ∧
    (∀ cmd, launchCommand cfg (keywordArguments env others) = .ok cmd → "cmd" ∉ others.keys →
      (UserAllowed cfg (requestedUser cfg w env) → requestedUid cfg w env ∉ cfg.prohibitedUids →
        requestedGid cfg w env ∉ cfg.prohibitedGids →
        preLaunch cfg w env others s =
          .ok ⟨cmd, launchEnv cfg w env, others⟩ (preparedState cfg w env others s)) ∧
      (¬ UserAllowed cfg (requestedUser cfg w env) ∨ requestedUid cfg w env ∈ cfg.prohibitedUids ∨
          requestedGid cfg w env ∈ cfg.prohibitedGids →
        ∃ message, preLaunch cfg w env others s =
          .error (.permissionError message) (preparedState cfg w env others s))) := by
  have base := basePreLaunch_eq cfg w env others s
  constructor
  · intro unbuilt
    rcases built : launchCommand cfg (keywordArguments env others) with e | cmd
    · obtain ⟨message, rfl⟩ := launchCommand_error_typeError cfg _ built
      exact ⟨message, by simp only [preLaunch, run_bind, base, built]⟩
    · have duplicate : "cmd" ∈ others.keys := by
        by_contra fresh
        exact unbuilt ⟨by simp [built, Except.toBool], fresh⟩
      exact ⟨_, by simp only [preLaunch, run_bind, base, built, duplicate, ↓reduceIte]; rfl⟩
  · intro cmd built fresh
    have authorization := enforceAuthorization_run cfg (requestedUser cfg w env)
      ((requestedEnv cfg w env).setItem "KERNEL_USERNAME" (requestedUser cfg w env))
      (preparedState cfg w env others s)
    have ids := enforceProhibitedIds_run cfg (containerEnv cfg w env)
      (preparedState cfg w env others s)
    simp only [containerEnv_get_ids cfg w env _ (.inl rfl),
      containerEnv_get_ids cfg w env _ (.inr rfl)] at ids
    simp only [built, fresh, ↓reduceIte] at base
    by_cases allowed : UserAllowed cfg (requestedUser cfg w env)
    · have entered : preLaunch cfg w env others s =
          ((fun env => ({ cmd := cmd, env := env, others := others } : LaunchKwargs)) <$>
            enforceProhibitedIds cfg (containerEnv cfg w env)) (preparedState cfg w env others s) := by
        simp only [preLaunch, run_bind, base, run_map, authorization.1 allowed]
        rfl
      rw [entered]
      refine ⟨fun _ uidOk gidOk => ?_, fun denied => ?_⟩
      · rw [run_map, ids.1 uidOk gidOk]; rfl
      · obtain ⟨message, raised⟩ := ids.2 (denied.resolve_left (not_not_intro allowed))
        exact ⟨message, by rw [run_map, raised]⟩
    · obtain ⟨message, raised⟩ := authorization.2 allowed
      refine ⟨fun ok => absurd ok allowed, fun _ => ⟨message, ?_⟩⟩
      simp only [preLaunch, run_bind, base, run_map, raised]

/-- Whether it returns or raises, `pre_launch` leaves the prepared state. -/
theorem resultState_preLaunch (env : Env) (others : PyDict PyVal) (s : Sys) :
    resultState (preLaunch cfg w env others s) = preparedState cfg w env others s := by
  obtain ⟨unbuilt, built⟩ := preLaunch_run cfg w env others s
  by_cases command : CommandBuilt cfg env others
  · obtain ⟨templated, fresh⟩ := command
    obtain ⟨cmd, templates⟩ : ∃ cmd, launchCommand cfg (keywordArguments env others) = .ok cmd := by
      revert templated; cases launchCommand cfg (keywordArguments env others) <;> simp [Except.toBool]
    obtain ⟨returns, raises⟩ := built cmd templates fresh
    by_cases passed : UserAllowed cfg (requestedUser cfg w env) ∧
        requestedUid cfg w env ∉ cfg.prohibitedUids ∧ requestedGid cfg w env ∉ cfg.prohibitedGids
    · rw [returns passed.1 passed.2.1 passed.2.2]; rfl
    · obtain ⟨message, raised⟩ := raises (by simpa only [not_and_or, not_not] using passed)
      rw [raised]; rfl
  · obtain ⟨message, raised⟩ := unbuilt command
    rw [raised]; rfl

/-- **What `pre_launch` leaves in the object.** Whether it returns or raises, the per-launch
fields of `RemoteProvisionerBase` hold the values of a fresh object and `container_name` and
`assigned_node_ip` keep the values an earlier run left; so two objects that differ only in the
base per-launch fields are equal after the same call. -/
theorem preLaunch_resets (env : Env) (others : PyDict PyVal) (s : Sys) :
    ((resultState (preLaunch cfg w env others s)).self.launchFields =
        (Provisioner.fresh s.self.lowerPort s.self.upperPort s.self.connectionInfo).launchFields ∧
      (resultState (preLaunch cfg w env others s)).self.containerName = s.self.containerName ∧
      (resultState (preLaunch cfg w env others s)).self.assignedNodeIp = s.self.assignedNodeIp) ∧
    ∀ other : Sys, other.self.resetLaunchState = s.self.resetLaunchState →
      (resultState (preLaunch cfg w env others other)).self =
        (resultState (preLaunch cfg w env others s)).self := by
  simp only [resultState_preLaunch, preparedState]
  refine ⟨⟨?_, ?_, ?_⟩, fun other same => by rw [same]⟩ <;> split <;> rfl

/-- **`pre_launch` registers the kernel first.** Whether it returns or raises, a `pre_launch`
call makes exactly one call on its collaborators: `register_event(kernel_id)`, made before
anything in it can raise. -/
theorem preLaunch_registers (env : Env) (others : PyDict PyVal) (s : Sys) :
    (resultState (preLaunch cfg w env others s)).calls = s.calls ++ [.registerEvent cfg.kernelId] := by
  rw [resultState_preLaunch]
  rfl

end PreLaunch

/-- A `pre_launch` refused for a root uid has registered its kernel id: the call raises a
`PermissionError`, and its one call on the Secure Response Channel is the registration. -/
theorem preLaunch_registers_denied_root :
    ∃ message s', preLaunch { Settings.default with kernelId := "kernel-1" } World.calm
        (PyDict.empty.setItem "KERNEL_UID" "0") .empty ⟨Provisioner.fresh 0 0 .empty, []⟩ =
        .error (.permissionError message) s' ∧ s'.calls = [.registerEvent "kernel-1"] :=
  ⟨_, _, rfl, rfl⟩

end RemoteProvisioners
