import ProxVM.Iam.AccessSync
import ProxVM.Routes.VmAccess

/-!
# Launching a Guacamole connection

`POST /vms/:id/guacamole/launch` of `routes/guacamole.ts`, with the
`checkAccess` of `services/iam.ts` it starts from.

The protocols of the effective access filter the connections offered to the caller; the
READ permissions come from `grantVmAccess`, which takes all connections of the VM.
The result is **`launch_readsPermitted_iff`**.

What the start of a stopped VM and the session in Guacamole come to are parameters.
-/

namespace ProxVM

open Tables Fallible

/-! ## `checkAccess` -/

inductive AccessReason
  | ok
  | inactiveUser
  | missingPermission
  | missingVmAccess
  | accessExpired
  | protocolDenied
  deriving DecidableEq, Repr

/-- What `checkAccess` is asked for. -/
structure AccessQuery where
  permission : Option Permission
  vmId : Option VmId
  protocol : Option Protocol
  deriving DecidableEq, Repr

def hadAccess (db : Db) (now : Time) (vmId : VmId) (userId : UserId) : Bool :=
  db.vmAccess.rows.any fun va =>
    decide (va.vmId = vmId) && decide (va.userId = userId) && isExpired va.expiresAt now

/-- The part of `checkAccess` about one VM. -/
def checkVmAccess (db : Db) (now : Time) (userId : UserId) (vmId : VmId)
    (protocol : Option Protocol) : AccessReason :=
  let effective := resolveEffectiveAccess db now userId
  if (effective.vmAccess vmId).isNone then
    if hadAccess db now vmId userId then .accessExpired else .missingVmAccess
  else if protocol.any fun p => !permits (allowedProtocols effective vmId) p then
    .protocolDenied
  else
    .ok

/-- `checkAccess`: allowed exactly when the reason is `ok`. -/
def checkAccess (db : Db) (now : Time) (user : UserWithRoles) (opts : AccessQuery) : AccessReason :=
  let effective := resolveEffectiveAccess db now user.row.id
  if !user.row.active then
    .inactiveUser
  else if opts.permission.any fun p => !effective.has p then
    .missingPermission
  else
    match opts.vmId with
    | some vmId => checkVmAccess db now user.row.id vmId opts.protocol
    | none =>
        if opts.protocol.any fun p => !decide (p ∈ effective.globalProtocols) then
          .protocolDenied
        else
          .ok

/-! ## The route -/

structure LaunchEnv extends AccessEnv where
  startVmForLaunchIfStopped : Except AppError Bool
  launch : Protocol → Except AppError Unit

/-- `user.roles.some((r) => r === "ADMIN" || r === "OPERATOR")`. -/
def isPrivileged (user : UserWithRoles) : Bool :=
  decide (Role.admin ∈ user.roles) || decide (Role.operator ∈ user.roles)

/-- The `private` part of `VmsRepository.visibleTo`. -/
def isPrivateVm (db : Db) (vmId : VmId) : Bool :=
  (findVmById db vmId).any fun vm => vm.privacyFlag

/-- Access to the VM is a matter of grants: `!privileged || visibility.private`. -/
def isLimited (db : Db) (user : UserWithRoles) (vmId : VmId) : Bool :=
  !isPrivileged user || isPrivateVm db vmId

def cleanExpired (senv : SweepEnv) (vmId : VmId) (userId : UserId) : SweepProgram Unit := do
  swallow do
    senv.reach vmId userId .getGuacDb
    revokeVmAccess senv vmId userId
  write fun w => { w with db := w.db.deleteVmAccess vmId userId }

def checkLimited (ctx : RequestContext) (env : LaunchEnv) (user : UserWithRoles) (id : VmId)
    (protocol : Option Protocol) : SweepProgram (Option (List Protocol)) := do
  let verdict ← query fun w => checkAccess w.db ctx.now user ⟨none, some id, protocol⟩
  if verdict = .ok then
    query fun w => allowedProtocols (resolveEffectiveAccess w.db ctx.now user.row.id) id
  else do
    if verdict = .accessExpired then cleanExpired (env.at ctx.now) id user.row.id else pure ()
    fail (AppError.forbidden "You do not have permission to launch this Guacamole connection")

/-- `effectiveProtocols`. -/
def checkLaunch (ctx : RequestContext) (env : LaunchEnv) (user : UserWithRoles) (id : VmId)
    (protocol : Option Protocol) : SweepProgram (Option (List Protocol)) := do
  let limited ← query fun w => isLimited w.db user id
  if limited then checkLimited ctx env user id protocol else pure none

def noConnection (records usable : List VmConnectionRow) : AppError :=
  if records.isEmpty then
    AppError.notFound "No Guacamole connection exists for this VM"
  else
    AppError.notFound
      ("No Guacamole connection exists for this VM for the permitted protocol(s): " ++
        if usable.isEmpty then "none" else ", ".intercalate (usable.map fun r => r.protocol.text))

def chooseProtocol (protocol : Option Protocol) (records usable : List VmConnectionRow) :
    SweepProgram Protocol := do
  ensure (protocol.all fun p => usable.any fun r => decide (r.protocol = p))
    (noConnection records usable)
  let first ← orFail usable.head? (AppError.notFound "No Guacamole connection exists for this VM")
  pure (protocol.getD first.protocol)

def recordAutoStart (id : VmId) (autoStarted : Bool) : SweepProgram Unit :=
  if autoStarted then
    write fun w => { w with db := w.db.updateVmStatus id .running }
  else
    pure ()

def launchVm (ctx : RequestContext) (env : LaunchEnv) (user : UserWithRoles) (id : VmId)
    (protocol : Option Protocol) (effectiveProtocols : Option (List Protocol)) :
    SweepProgram Unit := do
  let vm ← onDb (requireVmById id)
  (env.at ctx.now).reach vm.id user.row.id .getGuacDb
  ensureGuacUser env.toAccessEnv user.row.id user.row.username
  grantVmAccess (env.at ctx.now) vm.id user.row.id
  let records ← query fun w => w.listConnectionRecords vm.id
  let usable := records.filter fun r => permits effectiveProtocols r.protocol
  let resolvedProtocol ← chooseProtocol protocol records usable
  let autoStarted ← outcome env.startVmForLaunchIfStopped
  recordAutoStart vm.id autoStarted
  outcome (env.launch resolvedProtocol)

/-- `POST /vms/:id/guacamole/launch`. -/
def postGuacamoleLaunch (ctx : RequestContext) (env : LaunchEnv) (id : VmId)
    (protocol : Option Protocol) : SweepProgram Unit := do
  let user ← onDb (requirePermission ctx .guacLaunch)
  let effectiveProtocols ← checkLaunch ctx env user id protocol
  launchVm ctx env user id protocol effectiveProtocols

/-! ## What a successful launch leaves -/

section launch

variable {ctx : RequestContext} {env : LaunchEnv} {user : UserWithRoles} {id : VmId}
  {protocol : Option Protocol} {w w' : AccessWorld}

theorem onSuccess_checkLaunch {P : Option (List Protocol) → AccessWorld → Prop}
    (hok : ∀ protocols, P protocols w) : onSuccess (checkLaunch ctx env user id protocol) P w := by
  simp only [checkLaunch, checkLimited, onSuccess_bind, onSuccess_query, onSuccess_ite,
    onSuccess_pure]
  refine ⟨fun _ => ⟨fun _ => hok _, fun _ => ?_⟩, fun _ => hok _⟩
  exact ⟨fun _ _ _ => onSuccess_fail, fun _ => onSuccess_fail⟩

theorem onSuccess_chooseProtocol {records usable : List VmConnectionRow}
    {P : Protocol → AccessWorld → Prop} (hok : ∀ resolved, P resolved w) :
    onSuccess (chooseProtocol protocol records usable) P w := by
  simp only [chooseProtocol, onSuccess_bind, onSuccess_ensure, onSuccess_orFail, onSuccess_pure]
  exact fun _ _ _ => hok _

structure LaunchKept (w w' : AccessWorld) : Prop where
  connections : w'.connections = w.connections
  effective : ∀ now userId,
    resolveEffectiveAccess w'.db now userId = resolveEffectiveAccess w.db now userId

theorem onSuccess_recordAutoStart {autoStarted : Bool} (hkept : LaunchKept w w')
    (hgranted : w'.Granted id user.row.id) : onSuccess (recordAutoStart id autoStarted)
      (fun _ w'' => w''.Granted id user.row.id ∧ LaunchKept w w'') w' := by
  simp only [recordAutoStart, onSuccess_ite, onSuccess_write, onSuccess_pure]
  exact ⟨fun _ => ⟨hgranted, hkept.connections, hkept.effective⟩, fun _ => ⟨hgranted, hkept⟩⟩

theorem onSuccess_launchVm {protocols : Option (List Protocol)} :
    onSuccess (launchVm ctx env user id protocol protocols)
      (fun _ w' => w'.Granted id user.row.id ∧ LaunchKept w w') w := by
  simp only [launchVm, onSuccess_bind, onSuccess_onDb]
  refine onSuccess_requireVmById fun vm _ hvm => ?_
  subst hvm
  rw [onSuccess_reach]
  intro _
  refine onSuccess_mono (onSuccess_ensureGuacUser vm.id user.row.username) ?_
  rintro _ w₁ ⟨hensured, hdb₁, hfound⟩
  refine onSuccess_mono onSuccess_grantVmAccess ?_
  rintro _ w₂ ⟨hgrants, hdb₂, hgranted⟩
  have hkept : LaunchKept w w₂ :=
    ⟨hgrants.connections.trans hensured.connections, fun _ _ => by rw [hdb₂, hdb₁]⟩
  rw [onSuccess_query]
  refine onSuccess_chooseProtocol fun resolved => ?_
  rw [onSuccess_outcome]
  intro autoStarted _
  refine onSuccess_mono (onSuccess_recordAutoStart hkept (hgranted hfound)) fun _ w₃ hlaunched => ?_
  rw [onSuccess_outcome]
  exact fun _ _ => hlaunched

theorem onSuccess_postGuacamoleLaunch : onSuccess (postGuacamoleLaunch ctx env id protocol)
    (fun _ w' => w'.Granted id ctx.userId ∧ LaunchKept w w') w := by
  simp only [postGuacamoleLaunch, onSuccess_bind, onSuccess_onDb]
  refine onSuccess_requirePermission fun user huser => onSuccess_checkLaunch fun protocols => ?_
  rw [← huser]
  exact onSuccess_launchVm

/-- **A launch keeps to the scope exactly when the scope covers every connection.**  After a
successful launch the READ permissions of the user on the connections of the VM are those
with a permitted protocol if and only if every connection of the VM has one. -/
theorem launch_readsPermitted_iff (hok : (exec (postGuacamoleLaunch ctx env id protocol) w).1 = .ok ()) :
    (exec (postGuacamoleLaunch ctx env id protocol) w).2.ReadsPermitted ctx.now id ctx.userId ↔
      ∀ c ∈ w.listConnectionRecords id,
        permits (allowedProtocols (resolveEffectiveAccess w.db ctx.now ctx.userId) id) c.protocol = true := by
  obtain ⟨hgranted, hkept⟩ := onSuccess_postGuacamoleLaunch () hok
  rw [hgranted.readsPermitted_iff, hkept.effective, AccessWorld.listConnectionRecords,
    hkept.connections, AccessWorld.listConnectionRecords]

end launch

/-! ## A scoped grant -/

/-- The user 12 holds `guac.launch` and reaches VM 30 by the direct grant of these
protocols; VM 30 has an SSH and an RDP connection. -/
def AccessWorld.launching (protocols : Option (List Protocol)) : AccessWorld where
  db :=
    { Db.sample with
      userRoles := ⟨[⟨10, 1, none⟩, ⟨12, 3, none⟩], by decide⟩
      vmAccess := ⟨[⟨30, 12, protocols, none, some 10⟩], List.nodup_singleton _⟩ }
  connections := [⟨30, .ssh, "proxvm-lab-1-ssh"⟩, ⟨30, .rdp, "proxvm-lab-1-rdp"⟩]
  guacUsers := Table.empty
  reads := []

def LaunchEnv.calm : LaunchEnv where
  fails := fun _ _ _ => false
  ensureFails := fun _ => false
  startVmForLaunchIfStopped := .ok false
  launch := fun _ => .ok ()

theorem launch_readsPermitted_iff_sample : (exec (postGuacamoleLaunch ⟨12, 5, 0⟩ .calm 30 none)
      (.launching (some [.ssh, .rdp]))).2.ReadsPermitted 5 30 12 :=
  (@launch_readsPermitted_iff ⟨12, 5, 0⟩ .calm 30 none (.launching (some [.ssh, .rdp]))
    (by decide +kernel)).mpr (by decide +kernel)

/-- A user whose grant covers SSH only may read the RDP connection after a launch. -/
theorem not_launch_readsPermitted : (findUserById (AccessWorld.launching (some [.ssh])).db 5 12).any
        (fun user => isLimited (AccessWorld.launching (some [.ssh])).db user 30) = true ∧
      (exec (postGuacamoleLaunch ⟨12, 5, 0⟩ .calm 30 none) (.launching (some [.ssh]))).1 = .ok () ∧
      ¬ (exec (postGuacamoleLaunch ⟨12, 5, 0⟩ .calm 30 none)
        (.launching (some [.ssh]))).2.ReadsPermitted 5 30 12 := by
  refine ⟨by decide +kernel, by decide +kernel, fun hpermitted => ?_⟩
  have hread := (hpermitted ⟨12, "px_ann"⟩ (by decide +kernel)
    ⟨30, .rdp, "proxvm-lab-1-rdp"⟩ (by decide +kernel)).mp (by decide +kernel)
  exact absurd hread (by decide +kernel)

end ProxVM
