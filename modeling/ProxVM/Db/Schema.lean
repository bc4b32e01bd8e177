import ProxVM.Iam.Rbac
import ProxVM.Lib.Table

/-!
# The database

The tables of `db/migrations` that the modelled services read
or write, one row type per table, and the database as a record of tables.  A
`Table` carries its primary key, so a `Db` cannot hold two rows for one key.
Columns that nothing modelled reads (audit stamps such as `granted_by`,
descriptions of catalog entries) are left out.

Timestamps are milliseconds.  A nullable column is an `Option`.
-/

namespace ProxVM

open Tables

/-! ## Identity -/

/-- A row of `users`. -/
structure UserRow where
  id : UserId
  username : String
  email : Option String
  givenName : Option String
  passwordHash : String
  active : Bool
  isInitialAdmin : Bool
  maxVms : Option Nat
  deriving DecidableEq, Repr, Inhabited

/-- A row of `roles`. -/
structure RoleRow where
  id : RoleId
  name : String
  description : String
  isSystem : Bool
  deriving DecidableEq, Repr

/-- A row of `user_roles`: a role assigned to a user, possibly until a deadline. -/
structure UserRoleRow where
  userId : UserId
  roleId : RoleId
  expiresAt : Option Time
  deriving DecidableEq, Repr

/-- A row of `role_permissions`. -/
structure RolePermissionRow where
  roleId : RoleId
  permission : Permission
  deriving DecidableEq, Repr

/-- A row of `user_permissions`: a direct global grant. -/
structure UserPermissionRow where
  userId : UserId
  permission : Permission
  expiresAt : Option Time
  deriving DecidableEq, Repr

/-- A row of `groups`. -/
structure GroupRow where
  id : GroupId
  name : String
  description : String
  deriving DecidableEq, Repr

/-- A row of `group_members`. -/
structure GroupMemberRow where
  groupId : GroupId
  userId : UserId
  expiresAt : Option Time
  deriving DecidableEq, Repr

/-- A row of `group_roles`. -/
structure GroupRoleRow where
  groupId : GroupId
  roleId : RoleId
  expiresAt : Option Time
  deriving DecidableEq, Repr

/-- A row of `group_vm_access`; `protocols = none` means every protocol. -/
structure GroupVmAccessRow where
  groupId : GroupId
  vmId : VmId
  protocols : Option (List Protocol)
  expiresAt : Option Time
  deriving DecidableEq, Repr

/-- A row of `vm_access`: a direct grant. -/
structure VmAccessRow where
  vmId : VmId
  userId : UserId
  protocols : Option (List Protocol)
  expiresAt : Option Time
  createdBy : Option UserId
  deriving DecidableEq, Repr

/-- `status` of a registration request. -/
inductive RegistrationStatus
  | pending
  | approved
  | rejected
  deriving DecidableEq, Repr

def RegistrationStatus.text : RegistrationStatus → String
  | .pending => "pending"
  | .approved => "approved"
  | .rejected => "rejected"

/-- A row of `registration_requests`. -/
structure RegistrationRow where
  id : Nat
  username : String
  email : Option String
  passwordHash : String
  status : RegistrationStatus
  createdAt : Time
  deriving DecidableEq, Repr

def UserRoleRow.key (r : UserRoleRow) : UserId × RoleId := (r.userId, r.roleId)
def RolePermissionRow.key (r : RolePermissionRow) : RoleId × Permission := (r.roleId, r.permission)
def UserPermissionRow.key (r : UserPermissionRow) : UserId × Permission := (r.userId, r.permission)
def GroupMemberRow.key (r : GroupMemberRow) : GroupId × UserId := (r.groupId, r.userId)
def GroupRoleRow.key (r : GroupRoleRow) : GroupId × RoleId := (r.groupId, r.roleId)
def GroupVmAccessRow.key (r : GroupVmAccessRow) : GroupId × VmId := (r.groupId, r.vmId)
def VmAccessRow.key (r : VmAccessRow) : VmId × UserId := (r.vmId, r.userId)

/-! ## Inventory and provisioning -/

/-- A row of `vms`. -/
structure VmRow where
  id : VmId
  vmid : Nat
  node : String
  name : String
  status : VmStatus
  osType : Option OsType
  osName : Option String
  ipAddress : Option String
  ipStatic : Bool
  createdByUserId : Option UserId
  templateId : Option TemplateId
  privacyFlag : Bool
  deletedAt : Option Time
  deriving DecidableEq, Repr, Inhabited

/-- A row of `vm_templates`. -/
structure TemplateRow where
  id : TemplateId
  name : String
  node : String
  proxmoxVmid : Nat
  osType : OsType
  provisioningMethod : ProvisioningMethod
  cloudInitSupport : Bool
  guestAgentRequired : Bool
  supportedProtocols : List Protocol
  deriving DecidableEq, Repr, Inhabited

/-- The `network` object of a provisioning request. -/
structure NetworkRequest where
  bridge : String
  vlan : Option Nat
  isStatic : Bool
  ip : Option String
  cidr : Option Nat
  gateway : Option String
  dns : List String
  deriving DecidableEq, Repr, Inhabited

/-- `ProvisionVmRequest`, the payload of a provisioning job. -/
structure ProvisionRequest where
  name : String
  templateId : Option TemplateId
  proxmoxTemplateVmid : Option Nat
  node : Option String
  vmid : Option Nat
  cpu : Nat
  ramMb : Nat
  diskGb : Rat
  storage : String
  network : NetworkRequest
  osType : OsType
  protocols : Option (List Protocol)
  guestUser : String
  password : String
  startAfterProvision : Bool
  linkedClone : Bool
  assignToUserIds : List UserId
  deriving DecidableEq, Repr, Inhabited

/-- The BullMQ id `db-<jobDbId>-a<attempt>`. -/
structure BullJobId where
  jobDbId : JobId
  attempt : Nat
  deriving DecidableEq, Repr, Inhabited

/-- A row of `provisioning_jobs`. -/
structure JobRow where
  id : JobId
  vmId : Option VmId
  status : JobStatus
  error : Option String
  request : ProvisionRequest
  createdByUserId : Option UserId
  bullJobId : Option BullJobId
  startedAt : Option Time
  finishedAt : Option Time
  updatedAt : Time
  deriving DecidableEq, Repr, Inhabited

/-- A row of `provisioning_steps`. -/
structure StepRow where
  jobId : JobId
  step : JobStep
  state : StepState
  error : Option String
  startedAt : Option Time
  finishedAt : Option Time
  deriving DecidableEq, Repr

def StepRow.key (r : StepRow) : JobId × JobStep := (r.jobId, r.step)

/-! ## The database -/

structure Db where
  users : Table UserRow.id
  roles : Table RoleRow.id
  userRoles : Table UserRoleRow.key
  rolePermissions : Table RolePermissionRow.key
  userPermissions : Table UserPermissionRow.key
  groups : Table GroupRow.id
  groupMembers : Table GroupMemberRow.key
  groupRoles : Table GroupRoleRow.key
  groupVmAccess : Table GroupVmAccessRow.key
  vmAccess : Table VmAccessRow.key
  registrationRequests : Table RegistrationRow.id
  vms : Table VmRow.id
  templates : Table TemplateRow.id
  jobs : Table JobRow.id
  steps : Table StepRow.key

/-- `expires_at IS NULL OR expires_at > NOW()`, which is also `isLive` of
`services/iam.ts`: a grant that expires now is already dead. -/
def isLive (expiresAt : Option Time) (now : Time) : Bool :=
  match expiresAt with
  | none => true
  | some t => decide (now < t)

@[simp] theorem isLive_none (now : Time) : isLive none now = true := rfl

theorem isLive_of_le {expiresAt : Option Time} {now now' : Time} (hle : now ≤ now')
    (hlive : isLive expiresAt now' = true) : isLive expiresAt now = true := by
  cases expiresAt with
  | none => rfl
  | some t =>
      simp only [isLive, decide_eq_true_eq] at hlive ⊢
      exact Nat.lt_of_le_of_lt hle hlive

end ProxVM
