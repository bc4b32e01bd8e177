import ProxVM.Iam.WellFormed

/-!
# The database the migrations leave

`Db.migrated` is the database after the migrations have run on an empty server:
the legacy roles, the presets with their permissions, and nothing else.  It is
well-formed, so the invariants of `WellFormed` hold where every installation
starts.
-/

namespace ProxVM

open Tables

def Db.empty : Db :=
  { users := .empty, roles := .empty, userRoles := .empty, rolePermissions := .empty,
    userPermissions := .empty, groups := .empty, groupMembers := .empty, groupRoles := .empty,
    groupVmAccess := .empty, vmAccess := .empty, registrationRequests := .empty, vms := .empty,
    templates := .empty, jobs := .empty, steps := .empty }

/-- The rows of `roles` seeded by `007_iam` and `022_guest_role`. -/
def seededRoles : List RoleRow :=
  [⟨1, "ADMIN", "Full system access", true⟩,
    ⟨2, "OPERATOR", "Operate and provision VMs", true⟩,
    ⟨3, "USER", "Access assigned VMs", true⟩,
    ⟨4, "GUEST", "Self-serve account with no VM access until an administrator grants roles", true⟩,
    ⟨101, "Viewer", "Read-only VM and job visibility", true⟩,
    ⟨102, "VM Operator", "Operate assigned VMs and remote access", true⟩,
    ⟨103, "VM Manager", "Operator plus VM editing and access management", true⟩,
    ⟨104, "Provisioner", "Provision and manage new VMs", true⟩]

/-- The preset permissions seeded by `007_iam`. -/
def presetPermissions : List (RoleId × List Permission) :=
  [(101, [.vmList, .vmRead, .jobsRead, .healthRead]),
    (102, [.vmList, .vmRead, .vmStart, .vmStop, .vmRestart, .jobsRead, .healthRead, .protocolSsh,
      .protocolRdp, .protocolVnc]),
    (103, [.vmList, .vmRead, .vmStart, .vmStop, .vmRestart, .vmEdit, .jobsRead, .healthRead,
      .protocolSsh, .protocolRdp, .protocolVnc]),
    (104, [.vmList, .vmRead, .vmCreate, .vmProvision, .vmStart, .vmStop, .vmRestart, .vmEdit,
      .jobsRead, .jobsRetry, .jobsCancel, .healthRead, .proxmoxRead])]

/-- The rows of `role_permissions` seeded by `007_iam`. -/
def seededRolePermissions : List RolePermissionRow :=
  presetPermissions.flatMap fun preset => preset.2.map fun p => ⟨preset.1, p⟩

def Db.migrated : Db :=
  { Db.empty with
    roles := ⟨seededRoles, by decide⟩
    rolePermissions := ⟨seededRolePermissions, by decide⟩ }

/-- **The migrations establish the invariants.** -/
theorem wellFormed_migrated : WellFormed Db.migrated where
  userRole_role := by decide
  rolePermission_role := by decide
  groupRole_role := by decide
  groupMember_group := by decide
  groupRole_group := by decide
  groupVm_group := by decide
  roleName_unique := by decide
  legacy := by
    intro r
    cases r <;> decide
  hardcoded_bare := by decide

/-! ## A small installation -/

def plainUser (id : UserId) (username : String) (isInitialAdmin : Bool) : UserRow :=
  { id, username, email := none, givenName := none, passwordHash := "hash", active := true,
    isInitialAdmin, maxVms := none }

/-- A VM on `pve1`. -/
def plainVm (id : VmId) (vmid : Nat) (name : String) (createdByUserId : Option UserId) : VmRow :=
  { id, vmid, node := "pve1", name, status := .running, osType := some .linux, osName := none,
    ipAddress := none, ipStatic := false, createdByUserId, templateId := none,
    privacyFlag := false, deletedAt := none }

/-- An installation in use: the initial administrator `root`, a second full administrator `admin`, the guest `ann`,
who may access the one VM there is, and `lead`, who may manage groups and nothing else. -/
def Db.sample : Db :=
  { Db.migrated with
    users := ⟨[plainUser 10 "root" true, plainUser 11 "admin" false, plainUser 12 "ann" false,
      plainUser 13 "lead" false], by decide⟩
    userRoles := ⟨[⟨10, 1, none⟩, ⟨11, 1, none⟩, ⟨12, 4, none⟩], by decide⟩
    userPermissions := ⟨[⟨13, .groupsManage, none⟩], by decide⟩
    groups := ⟨[⟨20, "lab", ""⟩], by decide⟩
    groupVmAccess := ⟨[⟨20, 30, none, none⟩], by decide⟩
    vmAccess := ⟨[⟨30, 12, none, none, some 10⟩], by decide⟩
    vms := ⟨[plainVm 30 100 "lab-1" (some 10)], by decide⟩ }

theorem wellFormed_sample : WellFormed Db.sample where
  userRole_role := by decide
  rolePermission_role := wellFormed_migrated.rolePermission_role
  groupRole_role := by decide
  groupMember_group := by decide
  groupRole_group := by decide
  groupVm_group := by decide
  roleName_unique := wellFormed_migrated.roleName_unique
  legacy := wellFormed_migrated.legacy
  hardcoded_bare := wellFormed_migrated.hardcoded_bare

end ProxVM
