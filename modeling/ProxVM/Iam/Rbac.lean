import ProxVM.Shared.Enums

/-!
# Legacy role permissions

`services/rbac.ts`: the permission catalog, the fixed ids of
the legacy roles and the hardcoded permission set of each.  A `Permission` is a
code of the catalog; the `permissions` table holds the same codes and grants
reference it by foreign key, so no other code can be stored.
-/

namespace ProxVM

/-- `PERMISSIONS`. -/
inductive Permission
  | vmList
  | vmRead
  | vmCreate
  | vmManage
  | vmEdit
  | vmDelete
  | vmProvision
  | vmStart
  | vmStop
  | vmRestart
  | credReveal
  | credRotate
  | guacLaunch
  | guacManage
  | protocolSsh
  | protocolRdp
  | protocolVnc
  | usersManage
  | rolesManage
  | groupsManage
  | templatesManage
  | auditRead
  | jobsRead
  | jobsRetry
  | jobsCancel
  | settingsManage
  | healthRead
  | proxmoxRead
  | driftManage
  deriving DecidableEq, Repr

/-- `PERMISSIONS`, in source order. -/
def Permission.all : List Permission :=
  [.vmList, .vmRead, .vmCreate, .vmManage, .vmEdit, .vmDelete, .vmProvision, .vmStart, .vmStop,
    .vmRestart, .credReveal, .credRotate, .guacLaunch, .guacManage, .protocolSsh, .protocolRdp,
    .protocolVnc, .usersManage, .rolesManage, .groupsManage, .templatesManage, .auditRead,
    .jobsRead, .jobsRetry, .jobsCancel, .settingsManage, .healthRead, .proxmoxRead, .driftManage]

theorem Permission.mem_all (p : Permission) : p ∈ Permission.all := by
  cases p <;> decide

def Permission.code : Permission → String
  | .vmList => "vm.list"
  | .vmRead => "vm.read"
  | .vmCreate => "vm.create"
  | .vmManage => "vm.manage"
  | .vmEdit => "vm.edit"
  | .vmDelete => "vm.delete"
  | .vmProvision => "vm.provision"
  | .vmStart => "vm.start"
  | .vmStop => "vm.stop"
  | .vmRestart => "vm.restart"
  | .credReveal => "cred.reveal"
  | .credRotate => "cred.rotate"
  | .guacLaunch => "guac.launch"
  | .guacManage => "guac.manage"
  | .protocolSsh => "protocol.ssh"
  | .protocolRdp => "protocol.rdp"
  | .protocolVnc => "protocol.vnc"
  | .usersManage => "users.manage"
  | .rolesManage => "roles.manage"
  | .groupsManage => "groups.manage"
  | .templatesManage => "templates.manage"
  | .auditRead => "audit.read"
  | .jobsRead => "jobs.read"
  | .jobsRetry => "jobs.retry"
  | .jobsCancel => "jobs.cancel"
  | .settingsManage => "settings.manage"
  | .healthRead => "health.read"
  | .proxmoxRead => "proxmox.read"
  | .driftManage => "drift.manage"

def Permission.ofCode? (code : String) : Option Permission :=
  Permission.all.find? fun p => decide (p.code = code)

/-- `ROLE_IDS`: the legacy roles have fixed ids. -/
def Role.id : Role → RoleId
  | .admin => 1
  | .operator => 2
  | .user => 3
  | .guest => 4

/-- `ROLE_PERMISSIONS` through `permissionsForRole`. -/
def permissionsForRole : Role → List Permission
  | .admin => Permission.all
  | .operator =>
      [.vmList, .vmRead, .vmCreate, .vmManage, .vmEdit, .vmProvision, .credRotate, .guacLaunch,
        .guacManage, .jobsRead, .jobsRetry, .jobsCancel, .healthRead, .proxmoxRead]
  | .user => [.vmRead, .guacLaunch, .jobsRead, .healthRead]
  | .guest => []

/-- The role names `resolveEffectiveAccess` and `roleEffectivePermissions` treat as hardcoded: `"ADMIN"`, `"OPERATOR"`
and `"USER"`. -/
def hardcodedRole? (name : String) : Option Role :=
  if name = "ADMIN" then some .admin
  else if name = "OPERATOR" then some .operator
  else if name = "USER" then some .user
  else none

theorem hardcodedRole?_eq_some {name : String} {r : Role}
    (hrole : hardcodedRole? name = some r) : name = r.name := by
  unfold hardcodedRole? at hrole
  split at hrole
  · cases hrole
    assumption
  · split at hrole
    · cases hrole
      assumption
    · split at hrole
      · cases hrole
        assumption
      · cases hrole

theorem hardcodedRole?_name {r : Role} (hne : r ≠ .guest) : hardcodedRole? r.name = some r := by
  cases r with
  | admin => decide
  | operator => decide
  | user => decide
  | guest => exact absurd rfl hne

end ProxVM
