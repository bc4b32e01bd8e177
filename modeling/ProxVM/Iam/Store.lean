import ProxVM.Db.Schema

/-!
# Statements on the identity tables

The SQL statements behind `services/users.ts` and `services/iam-store.ts`, each
as a function of the database.  A statement that a constraint can reject returns
an `Option`: `none` is the rejected statement, which changes nothing.  Deletions
include what `ON DELETE CASCADE` and `ON DELETE SET NULL` do.
-/

namespace ProxVM

def RoleRow.rename (r : RoleRow) (id : RoleId) (name description : Option String) : RoleRow :=
  if r.id = id then
    { r with name := name.getD r.name, description := description.getD r.description }
  else
    r

@[simp] theorem RoleRow.rename_id (r : RoleRow) (id : RoleId) (name description : Option String) :
    (r.rename id name description).id = r.id := by
  unfold RoleRow.rename
  split <;> rfl

variable {r : RoleRow} {id : RoleId}

theorem RoleRow.rename_of_ne (hne : r.id ≠ id)
    (name description : Option String) : r.rename id name description = r :=
  if_neg hne

theorem RoleRow.rename_name (hid : r.id = id)
    (name description : Option String) : (r.rename id name description).name = name.getD r.name := by
  simp [RoleRow.rename, hid]

end ProxVM

namespace ProxVM.Db

open Tables

/-! ## Users -/

/-- `INSERT INTO users`: the id and the username are unique. -/
def insertUser (db : Db) (row : UserRow) : Option Db :=
  if db.users.rows.any fun u => decide (u.username = row.username) then
    none
  else
    (db.users.insert? row).map fun users => { db with users }

/-- `UPDATE users SET active`. -/
def setUserActive (db : Db) (userId : UserId) (active : Bool) : Db :=
  { db with
    users := db.users.updateWhere (fun u => decide (u.id = userId))
      (fun u => { u with active }) fun _ => rfl }

/-- `UPDATE users SET password_hash`. -/
def setUserPassword (db : Db) (userId : UserId) (passwordHash : String) : Db :=
  { db with
    users := db.users.updateWhere (fun u => decide (u.id = userId))
      (fun u => { u with passwordHash }) fun _ => rfl }

/-- `UPDATE users SET email = COALESCE($2, email), given_name = COALESCE($3, given_name)`. -/
def setUserProfile (db : Db) (userId : UserId) (email givenName : Option String) : Db :=
  { db with
    users := db.users.updateWhere (fun u => decide (u.id = userId))
      (fun u => { u with email := email <|> u.email, givenName := givenName <|> u.givenName })
      fun _ => rfl }

/-- `DELETE FROM users`, with its cascades. -/
def deleteUser (db : Db) (userId : UserId) : Db :=
  { db with
    users := db.users.deleteWhere fun u => decide (u.id = userId)
    userRoles := db.userRoles.deleteWhere fun ur => decide (ur.userId = userId)
    userPermissions := db.userPermissions.deleteWhere fun up => decide (up.userId = userId)
    groupMembers := db.groupMembers.deleteWhere fun gm => decide (gm.userId = userId)
    vmAccess := (db.vmAccess.deleteWhere fun va => decide (va.userId = userId)).updateWhere
      (fun va => decide (va.createdBy = some userId)) (fun va => { va with createdBy := none })
      fun _ => rfl
    vms := db.vms.updateWhere (fun v => decide (v.createdByUserId = some userId))
      (fun v => { v with createdByUserId := none }) fun _ => rfl
    jobs := db.jobs.updateWhere (fun j => decide (j.createdByUserId = some userId))
      (fun j => { j with createdByUserId := none }) fun _ => rfl }

/-! ## Role assignments and direct grants -/

/-- `DELETE FROM user_roles WHERE user_id = $1`. -/
def deleteUserRoles (db : Db) (userId : UserId) : Db :=
  { db with userRoles := db.userRoles.deleteWhere fun ur => decide (ur.userId = userId) }

/-- `INSERT INTO user_roles (user_id, role_id)`: both references must exist. -/
def insertUserRole (db : Db) (row : UserRoleRow) : Option Db :=
  if (db.users.find? row.userId).isSome && (db.roles.find? row.roleId).isSome then
    (db.userRoles.insert? row).map fun userRoles => { db with userRoles }
  else
    none

/-- `INSERT INTO user_roles … ON CONFLICT (user_id, role_id) DO UPDATE`. -/
def putUserRole (db : Db) (row : UserRoleRow) : Db :=
  { db with userRoles := db.userRoles.put row }

/-- `DELETE FROM user_roles WHERE user_id = $1 AND role_id = $2`. -/
def deleteUserRole (db : Db) (userId : UserId) (roleId : RoleId) : Db :=
  { db with userRoles := db.userRoles.deleteWhere fun ur =>
      decide (ur.userId = userId) && decide (ur.roleId = roleId) }

/-- `INSERT INTO user_permissions … ON CONFLICT (user_id, permission) DO UPDATE`. -/
def putUserPermission (db : Db) (row : UserPermissionRow) : Db :=
  { db with userPermissions := db.userPermissions.put row }

/-- `DELETE FROM user_permissions WHERE user_id = $1 AND permission = $2`. -/
def deleteUserPermission (db : Db) (userId : UserId) (permission : Permission) : Db :=
  { db with userPermissions := db.userPermissions.deleteWhere fun up =>
      decide (up.userId = userId) && decide (up.permission = permission) }

/-! ## Roles -/

/-- `INSERT INTO roles`: the id and the name are unique. -/
def insertRole (db : Db) (row : RoleRow) : Option Db :=
  if db.roles.rows.any fun r => decide (r.name = row.name) then
    none
  else
    (db.roles.insert? row).map fun roles => { db with roles }

/-- `UPDATE roles SET name = COALESCE($2, name), description = COALESCE($3, description)`:
another role may not have the name. -/
def updateRole (db : Db) (id : RoleId) (name description : Option String) : Option Db :=
  if db.roles.rows.any fun r => decide (some r.name = name) && decide (r.id ≠ id) then
    none
  else
    some { db with
      roles := db.roles.updateWhere (fun r => decide (r.id = id))
        (fun r => { r with name := name.getD r.name, description := description.getD r.description })
        fun _ => rfl }

/-- `DELETE FROM roles`, with its cascades. -/
def deleteRole (db : Db) (id : RoleId) : Db :=
  { db with
    roles := db.roles.deleteWhere fun r => decide (r.id = id)
    userRoles := db.userRoles.deleteWhere fun ur => decide (ur.roleId = id)
    rolePermissions := db.rolePermissions.deleteWhere fun rp => decide (rp.roleId = id)
    groupRoles := db.groupRoles.deleteWhere fun gr => decide (gr.roleId = id) }

/-- `INSERT INTO role_permissions … ON CONFLICT DO NOTHING`. -/
def insertRolePermission (db : Db) (roleId : RoleId) (permission : Permission) : Db :=
  { db with rolePermissions := db.rolePermissions.put ⟨roleId, permission⟩ }

/-- `DELETE FROM role_permissions WHERE role_id = $1`. -/
def deleteRolePermissions (db : Db) (roleId : RoleId) : Db :=
  { db with rolePermissions := db.rolePermissions.deleteWhere fun rp => decide (rp.roleId = roleId) }

/-! ## Groups -/

/-- `INSERT INTO groups`: the id and the name are unique. -/
def insertGroup (db : Db) (row : GroupRow) : Option Db :=
  if db.groups.rows.any fun g => decide (g.name = row.name) then
    none
  else
    (db.groups.insert? row).map fun groups => { db with groups }

/-- `UPDATE groups SET name = COALESCE($2, name), description = COALESCE($3, description)`. -/
def updateGroup (db : Db) (id : GroupId) (name description : Option String) : Option Db :=
  if db.groups.rows.any fun g => decide (some g.name = name) && decide (g.id ≠ id) then
    none
  else
    some { db with
      groups := db.groups.updateWhere (fun g => decide (g.id = id))
        (fun g => { g with name := name.getD g.name, description := description.getD g.description })
        fun _ => rfl }

/-- `DELETE FROM groups`, with its cascades. -/
def deleteGroup (db : Db) (id : GroupId) : Db :=
  { db with
    groups := db.groups.deleteWhere fun g => decide (g.id = id)
    groupMembers := db.groupMembers.deleteWhere fun gm => decide (gm.groupId = id)
    groupRoles := db.groupRoles.deleteWhere fun gr => decide (gr.groupId = id)
    groupVmAccess := db.groupVmAccess.deleteWhere fun gva => decide (gva.groupId = id) }

/-- `INSERT INTO group_members … ON CONFLICT (group_id, user_id) DO UPDATE`. -/
def putGroupMember (db : Db) (row : GroupMemberRow) : Db :=
  { db with groupMembers := db.groupMembers.put row }

/-- `DELETE FROM group_members WHERE group_id = $1 AND user_id = $2`. -/
def deleteGroupMember (db : Db) (groupId : GroupId) (userId : UserId) : Db :=
  { db with groupMembers := db.groupMembers.deleteWhere fun gm =>
      decide (gm.groupId = groupId) && decide (gm.userId = userId) }

/-- `INSERT INTO group_roles … ON CONFLICT (group_id, role_id) DO UPDATE`. -/
def putGroupRole (db : Db) (row : GroupRoleRow) : Db :=
  { db with groupRoles := db.groupRoles.put row }

/-- `DELETE FROM group_roles WHERE group_id = $1 AND role_id = $2`. -/
def deleteGroupRole (db : Db) (groupId : GroupId) (roleId : RoleId) : Db :=
  { db with groupRoles := db.groupRoles.deleteWhere fun gr =>
      decide (gr.groupId = groupId) && decide (gr.roleId = roleId) }

/-- `INSERT INTO group_vm_access … ON CONFLICT (group_id, vm_id) DO UPDATE`. -/
def putGroupVmAccess (db : Db) (row : GroupVmAccessRow) : Db :=
  { db with groupVmAccess := db.groupVmAccess.put row }

/-- `DELETE FROM group_vm_access WHERE group_id = $1 AND vm_id = $2`. -/
def deleteGroupVmAccess (db : Db) (groupId : GroupId) (vmId : VmId) : Db :=
  { db with groupVmAccess := db.groupVmAccess.deleteWhere fun gva =>
      decide (gva.groupId = groupId) && decide (gva.vmId = vmId) }

/-! ## Direct VM access -/

/-- `VmsRepository.replaceAccess`: the grant is replaced, its first author stays. -/
def replaceVmAccess (db : Db) (row : VmAccessRow) : Db :=
  let author := (db.vmAccess.find? row.key).bind fun va => va.createdBy
  { db with vmAccess := db.vmAccess.put { row with createdBy := author <|> row.createdBy } }

/-- `VmsRepository.revokeAccess`. -/
def deleteVmAccess (db : Db) (vmId : VmId) (userId : UserId) : Db :=
  { db with vmAccess := db.vmAccess.deleteWhere fun va =>
      decide (va.vmId = vmId) && decide (va.userId = userId) }

/-! ## Registration requests -/

def setRegistrationStatus (db : Db) (id : Nat) (status : RegistrationStatus) : Db :=
  { db with
    registrationRequests := db.registrationRequests.updateWhere
      (fun r => decide (r.id = id)) (fun r => { r with status }) fun _ => rfl }

/-- `DELETE FROM registration_requests`. -/
def deleteRegistration (db : Db) (id : Nat) : Db :=
  { db with registrationRequests := db.registrationRequests.deleteWhere fun r => decide (r.id = id) }

/-! ## What an accepted statement did -/

section inversion

variable {db db' : Db}

private theorem names_fresh {α : Type} {rows : List α} {name : α → String} {n : String}
    (hnone : ¬ (rows.any fun r => decide (name r = n)) = true) : ∀ r ∈ rows, name r ≠ n := by
  intro r hr heq
  exact hnone (List.any_eq_true.mpr ⟨r, hr, decide_eq_true heq⟩)

theorem insertUser_eq_some {row : UserRow} (hins : db.insertUser row = some db') :
    ∃ users, db' = { db with users } ∧ (∀ u ∈ db.users, u.id ≠ row.id) ∧
      ∀ u, u ∈ users ↔ u ∈ db.users ∨ u = row := by
  unfold insertUser at hins
  split at hins
  · cases hins
  · obtain ⟨users, htable, rfl⟩ := Option.map_eq_some_iff.mp hins
    exact ⟨users, rfl, Table.insert?_eq_some htable⟩

theorem insertUserRole_eq_some {row : UserRoleRow} (hins : db.insertUserRole row = some db') :
    ∃ userRoles, db' = { db with userRoles } ∧ (∃ role ∈ db.roles, role.id = row.roleId) ∧
      ∀ ur, ur ∈ userRoles ↔ ur ∈ db.userRoles ∨ ur = row := by
  unfold insertUserRole at hins
  split at hins
  · rename_i hexists
    simp only [Bool.and_eq_true, Option.isSome_iff_exists] at hexists
    obtain ⟨-, role, hrole⟩ := hexists
    obtain ⟨userRoles, htable, rfl⟩ := Option.map_eq_some_iff.mp hins
    exact ⟨userRoles, rfl, ⟨role, Table.mem_of_find? hrole, Table.key_of_find? hrole⟩,
      (Table.insert?_eq_some htable).2⟩
  · cases hins

theorem insertRole_eq_some {row : RoleRow} (hins : db.insertRole row = some db') :
    ∃ roles, db' = { db with roles } ∧ (∀ r ∈ db.roles, r.name ≠ row.name) ∧
      (∀ r ∈ db.roles, r.id ≠ row.id) ∧ ∀ r, r ∈ roles ↔ r ∈ db.roles ∨ r = row := by
  unfold insertRole at hins
  split at hins
  · cases hins
  · rename_i hnames
    obtain ⟨roles, htable, rfl⟩ := Option.map_eq_some_iff.mp hins
    exact ⟨roles, rfl, names_fresh hnames, Table.insert?_eq_some htable⟩

theorem insertGroup_eq_some {row : GroupRow} (hins : db.insertGroup row = some db') :
    ∃ groups, db' = { db with groups } ∧ (∀ g ∈ db.groups, g.id ≠ row.id) ∧
      ∀ g, g ∈ groups ↔ g ∈ db.groups ∨ g = row := by
  unfold insertGroup at hins
  split at hins
  · cases hins
  · obtain ⟨groups, htable, rfl⟩ := Option.map_eq_some_iff.mp hins
    exact ⟨groups, rfl, Table.insert?_eq_some htable⟩

variable {name description : Option String}

theorem updateRole_eq_some {id : RoleId} (hupd : db.updateRole id name description = some db') :
    ∃ roles, db' = { db with roles } ∧ (∀ r ∈ db.roles, r.id ≠ id → some r.name ≠ name) ∧
      ∀ r', r' ∈ roles ↔ ∃ r ∈ db.roles, r' = r.rename id name description := by
  unfold updateRole at hupd
  split at hupd
  · cases hupd
  · rename_i hnames
    cases hupd
    refine ⟨_, rfl, fun r hr hne heq => ?_, fun r' => Table.mem_updateWhere.trans ?_⟩
    · exact hnames (List.any_eq_true.mpr ⟨r, hr, by simp [heq, hne]⟩)
    · simp only [RoleRow.rename, decide_eq_true_eq]

theorem updateGroup_eq_some {id : GroupId} (hupd : db.updateGroup id name description = some db') :
    ∃ groups, db' = { db with groups } ∧ ∀ g ∈ db.groups, ∃ g' ∈ groups, g'.id = g.id := by
  unfold updateGroup at hupd
  split at hupd
  · cases hupd
  · cases hupd
    refine ⟨_, rfl, fun g hg => ⟨_, Table.mem_updateWhere.mpr ⟨g, hg, rfl⟩, ?_⟩⟩
    split <;> rfl

theorem foldl_insertRolePermission_eq (db : Db) (id : RoleId) (ps : List Permission) :
    ∃ rolePermissions, ps.foldl (fun db p => db.insertRolePermission id p) db = { db with rolePermissions } ∧
      ∀ rp, rp ∈ rolePermissions ↔ rp ∈ db.rolePermissions ∨ (rp.roleId = id ∧ rp.permission ∈ ps) := by
  induction ps generalizing db with
  | nil => exact ⟨db.rolePermissions, rfl, fun rp => by simp⟩
  | cons p rest ih =>
      obtain ⟨rolePermissions, heq, hmem⟩ := ih (db.insertRolePermission id p)
      refine ⟨rolePermissions, heq, fun rp => (hmem rp).trans ?_⟩
      obtain ⟨roleId, permission⟩ := rp
      simp only [insertRolePermission, Table.mem_put, RolePermissionRow.mk.injEq,
        RolePermissionRow.key, ne_eq, Prod.mk.injEq, List.mem_cons]
      constructor
      · rintro ((⟨rfl, rfl⟩ | ⟨hold, -⟩) | ⟨rfl, hrest⟩)
        · exact Or.inr ⟨rfl, Or.inl rfl⟩
        · exact Or.inl hold
        · exact Or.inr ⟨rfl, Or.inr hrest⟩
      · rintro (hold | ⟨rfl, rfl | hrest⟩)
        · by_cases hsame : roleId = id ∧ permission = p
          · exact Or.inl (Or.inl hsame)
          · exact Or.inl (Or.inr ⟨hold, hsame⟩)
        · exact Or.inl (Or.inl ⟨rfl, rfl⟩)
        · exact Or.inr ⟨rfl, hrest⟩

end inversion

end ProxVM.Db
