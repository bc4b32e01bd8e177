import ProxVM.Iam.Store

/-!
# Well-formed identity tables

What the schema and the migrations establish about the identity tables and every
operation keeps:

- the foreign keys between them;
- role names are unique;
- the legacy roles are there, under their fixed ids, and protected;
- no permission rows are stored for a role whose permissions are hardcoded.

The last two are not database constraints.  They hold because the migrations seed
the legacy roles and because the API refuses to modify a system role, so they are
invariants to be preserved.
-/

namespace ProxVM

open Tables

structure WellFormed (db : Db) : Prop where
  userRole_role : ∀ ur ∈ db.userRoles, ∃ role ∈ db.roles, role.id = ur.roleId
  rolePermission_role : ∀ rp ∈ db.rolePermissions, ∃ role ∈ db.roles, role.id = rp.roleId
  groupRole_role : ∀ gr ∈ db.groupRoles, ∃ role ∈ db.roles, role.id = gr.roleId
  groupMember_group : ∀ gm ∈ db.groupMembers, ∃ group ∈ db.groups, group.id = gm.groupId
  groupRole_group : ∀ gr ∈ db.groupRoles, ∃ group ∈ db.groups, group.id = gr.groupId
  groupVm_group : ∀ gva ∈ db.groupVmAccess, ∃ group ∈ db.groups, group.id = gva.groupId
  roleName_unique : ∀ role ∈ db.roles, ∀ role' ∈ db.roles, role.name = role'.name → role = role'
  legacy : ∀ r : Role, ∃ role ∈ db.roles, role.id = r.id ∧ role.name = r.name ∧
    role.isSystem = true
  hardcoded_bare : ∀ rp ∈ db.rolePermissions, ∀ role ∈ db.roles, role.id = rp.roleId →
    hardcodedRole? role.name = none

namespace WellFormed

variable {db db' : Db}

variable {role : RoleRow} {r : Role} {row : UserRoleRow} {group : GroupRow} {name description : Option String}
  {id : RoleId}

theorem isSystem_of_hardcoded (hwf : WellFormed db) (hrole : role ∈ db.roles) (hname : hardcodedRole? role.name = some r) : role.isSystem = true := by
  obtain ⟨legacy, hlegacy, -, hlegacyName, hsys⟩ := hwf.legacy r
  have hsame : role = legacy :=
    hwf.roleName_unique role hrole legacy hlegacy
      ((hardcodedRole?_eq_some hname).trans hlegacyName.symm)
  rw [hsame]
  exact hsys

theorem not_hardcoded_of_fresh (hwf : WellFormed db) {name : String}
    (hfresh : ∀ role ∈ db.roles, role.name ≠ name) : hardcodedRole? name = none := by
  cases hname : hardcodedRole? name with
  | none => rfl
  | some r =>
      obtain ⟨legacy, hlegacy, -, hlegacyName, -⟩ := hwf.legacy r
      exact absurd (hlegacyName.trans (hardcodedRole?_eq_some hname).symm) (hfresh legacy hlegacy)

theorem legacy_of_id (hwf : WellFormed db) (hrole : role ∈ db.roles)
    (hid : role.id = r.id) : role.name = r.name ∧ role.isSystem = true := by
  obtain ⟨legacy, hlegacy, hlegacyId, hlegacyName, hsys⟩ := hwf.legacy r
  obtain rfl : role = legacy := Table.eq_of_key_eq hrole hlegacy (hid.trans hlegacyId.symm)
  exact ⟨hlegacyName, hsys⟩

theorem id_ne_of_not_system (hwf : WellFormed db) (hrole : role ∈ db.roles)
    (hsys : role.isSystem = false) (r : Role) : role.id ≠ r.id := by
  intro hid
  rw [(hwf.legacy_of_id hrole hid).2] at hsys
  cases hsys

theorem congr (hwf : WellFormed db) (hroles : db'.roles = db.roles)
    (huserRoles : db'.userRoles = db.userRoles) (hrolePermissions : db'.rolePermissions = db.rolePermissions)
    (hgroups : db'.groups = db.groups) (hgroupMembers : db'.groupMembers = db.groupMembers)
    (hgroupRoles : db'.groupRoles = db.groupRoles)
    (hgroupVm : db'.groupVmAccess = db.groupVmAccess) : WellFormed db' := by
  constructor
  · rw [huserRoles, hroles]
    exact hwf.userRole_role
  · rw [hrolePermissions, hroles]
    exact hwf.rolePermission_role
  · rw [hgroupRoles, hroles]
    exact hwf.groupRole_role
  · rw [hgroupMembers, hgroups]
    exact hwf.groupMember_group
  · rw [hgroupRoles, hgroups]
    exact hwf.groupRole_group
  · rw [hgroupVm, hgroups]
    exact hwf.groupVm_group
  · rw [hroles]
    exact hwf.roleName_unique
  · rw [hroles]
    exact hwf.legacy
  · rw [hrolePermissions, hroles]
    exact hwf.hardcoded_bare

/-! ## Statements that add rows -/

theorem putUserRole (hwf : WellFormed db)
    (hrole : role ∈ db.roles) (hid : role.id = row.roleId) : WellFormed (db.putUserRole row) :=
  { hwf with
    userRole_role := by
      intro ur hur
      rcases Table.mem_put.mp hur with rfl | ⟨hold, -⟩
      · exact ⟨role, hrole, hid⟩
      · exact hwf.userRole_role ur hold }

theorem insertUserRole (hwf : WellFormed db) (hins : db.insertUserRole row = some db') : WellFormed db' := by
  obtain ⟨userRoles, rfl, hrole, hmem⟩ := Db.insertUserRole_eq_some hins
  refine { hwf with userRole_role := ?_ }
  intro ur hur
  rcases (hmem ur).mp hur with hold | rfl
  · exact hwf.userRole_role ur hold
  · exact hrole

theorem putUserPermission (hwf : WellFormed db) (row : UserPermissionRow) :
    WellFormed (db.putUserPermission row) :=
  hwf.congr rfl rfl rfl rfl rfl rfl rfl

theorem putGroupMember (hwf : WellFormed db) {row : GroupMemberRow}
    (hgroup : group ∈ db.groups) (hid : group.id = row.groupId) : WellFormed (db.putGroupMember row) :=
  { hwf with
    groupMember_group := by
      intro gm hgm
      rcases Table.mem_put.mp hgm with rfl | ⟨hold, -⟩
      · exact ⟨group, hgroup, hid⟩
      · exact hwf.groupMember_group gm hold }

theorem putGroupRole (hwf : WellFormed db) {row : GroupRoleRow}
    (hgroup : group ∈ db.groups) (hgid : group.id = row.groupId) (hrole : role ∈ db.roles)
    (hrid : role.id = row.roleId) : WellFormed (db.putGroupRole row) :=
  { hwf with
    groupRole_role := by
      intro gr hgr
      rcases Table.mem_put.mp hgr with rfl | ⟨hold, -⟩
      · exact ⟨role, hrole, hrid⟩
      · exact hwf.groupRole_role gr hold
    groupRole_group := by
      intro gr hgr
      rcases Table.mem_put.mp hgr with rfl | ⟨hold, -⟩
      · exact ⟨group, hgroup, hgid⟩
      · exact hwf.groupRole_group gr hold }

theorem putGroupVmAccess (hwf : WellFormed db) {row : GroupVmAccessRow}
    (hgroup : group ∈ db.groups) (hid : group.id = row.groupId) : WellFormed (db.putGroupVmAccess row) :=
  { hwf with
    groupVm_group := by
      intro gva hgva
      rcases Table.mem_put.mp hgva with rfl | ⟨hold, -⟩
      · exact ⟨group, hgroup, hid⟩
      · exact hwf.groupVm_group gva hold }

theorem insertRole (hwf : WellFormed db) {row : RoleRow} (hins : db.insertRole row = some db') :
    WellFormed db' := by
  obtain ⟨roles, rfl, hfresh, -, hmem⟩ := Db.insertRole_eq_some hins
  have hkeep : ∀ {id : RoleId}, (∃ role ∈ db.roles, role.id = id) →
      ∃ role ∈ roles, role.id = id := by
    rintro id ⟨role, hrole, hid⟩
    exact ⟨role, (hmem role).mpr (Or.inl hrole), hid⟩
  refine { hwf with
    userRole_role := fun ur hur => hkeep (hwf.userRole_role ur hur)
    rolePermission_role := fun rp hrp => hkeep (hwf.rolePermission_role rp hrp)
    groupRole_role := fun gr hgr => hkeep (hwf.groupRole_role gr hgr)
    roleName_unique := ?_, legacy := ?_, hardcoded_bare := ?_ }
  · intro role hrole role' hrole' hname
    rcases (hmem role).mp hrole with hold | rfl
    · rcases (hmem role').mp hrole' with hold' | rfl
      · exact hwf.roleName_unique role hold role' hold' hname
      · exact absurd hname (hfresh role hold)
    · rcases (hmem role').mp hrole' with hold' | rfl
      · exact absurd hname.symm (hfresh role' hold')
      · rfl
  · intro r
    obtain ⟨role, hrole, hlegacy⟩ := hwf.legacy r
    exact ⟨role, (hmem role).mpr (Or.inl hrole), hlegacy⟩
  · intro rp hrp role hrole hid
    rcases (hmem role).mp hrole with hold | rfl
    · exact hwf.hardcoded_bare rp hrp role hold hid
    · exact hwf.not_hardcoded_of_fresh hfresh

theorem insertRolePermission (hwf : WellFormed db) (hrole : role ∈ db.roles)
    (hname : hardcodedRole? role.name = none) (p : Permission) :
    WellFormed (db.insertRolePermission role.id p) :=
  { hwf with
    rolePermission_role := by
      intro rp hrp
      rcases Table.mem_put.mp hrp with rfl | ⟨hold, -⟩
      · exact ⟨role, hrole, rfl⟩
      · exact hwf.rolePermission_role rp hold
    hardcoded_bare := by
      intro rp hrp role' hrole' hid
      rcases Table.mem_put.mp hrp with rfl | ⟨hold, -⟩
      · rwa [show role' = role from Table.eq_of_key_eq hrole' hrole hid]
      · exact hwf.hardcoded_bare rp hold role' hrole' hid }

theorem foldl_insertRolePermission (hwf : WellFormed db) (hrole : role ∈ db.roles)
    (hname : hardcodedRole? role.name = none) (ps : List Permission) :
    WellFormed (ps.foldl (fun db p => db.insertRolePermission role.id p) db) := by
  induction ps generalizing db with
  | nil => exact hwf
  | cons p rest ih => exact ih (hwf.insertRolePermission hrole hname p) hrole

theorem rename_not_hardcoded (hwf : WellFormed db) (hrole : role ∈ db.roles)
    (hsys : role.isSystem = false) (hfree : ∀ r ∈ db.roles, r.id ≠ role.id → some r.name ≠ name) :
    hardcodedRole? (name.getD role.name) = none := by
  cases hhard : hardcodedRole? (name.getD role.name) with
  | none => rfl
  | some r =>
      cases name with
      | none =>
          rw [hwf.isSystem_of_hardcoded hrole hhard] at hsys
          cases hsys
      | some n =>
          obtain ⟨legacy, hlegacy, hlid, hlegacyName, -⟩ := hwf.legacy r
          have hne : legacy.id ≠ role.id := by
            rw [hlid]
            exact (hwf.id_ne_of_not_system hrole hsys r).symm
          have hname : legacy.name = n := hlegacyName.trans (hardcodedRole?_eq_some hhard).symm
          exact absurd (congrArg some hname) (hfree legacy hlegacy hne)

theorem updateRole (hwf : WellFormed db) (hrole : db.roles.find? id = some role) (hsys : role.isSystem = false)
    (hupd : db.updateRole id name description = some db') : WellFormed db' := by
  obtain ⟨roles, rfl, hfree, hmem⟩ := Db.updateRole_eq_some hupd
  obtain ⟨hroleMem, rfl⟩ := Table.find?_eq_some_iff.mp hrole
  have hkeep : ∀ {rid : RoleId}, (∃ r ∈ db.roles, r.id = rid) → ∃ r ∈ roles, r.id = rid := by
    rintro rid ⟨r, hr, hid⟩
    exact ⟨_, (hmem _).mpr ⟨r, hr, rfl⟩, by simpa using hid⟩
  refine { hwf with
    userRole_role := fun ur hur => hkeep (hwf.userRole_role ur hur)
    rolePermission_role := fun rp hrp => hkeep (hwf.rolePermission_role rp hrp)
    groupRole_role := fun gr hgr => hkeep (hwf.groupRole_role gr hgr)
    roleName_unique := ?_, legacy := ?_, hardcoded_bare := ?_ }
  · -- Two rows of one name are one row: the renamed row took a free name.
    have hother : ∀ r ∈ db.roles, r.id ≠ role.id → name.getD role.name ≠ r.name := by
      intro r hr hne heq
      cases name with
      | none => exact hne (hwf.roleName_unique role hroleMem r hr heq ▸ rfl)
      | some n => exact hfree r hr hne (congrArg some heq.symm)
    intro r₁ hr₁ r₂ hr₂ hname
    obtain ⟨o₁, ho₁, rfl⟩ := (hmem r₁).mp hr₁
    obtain ⟨o₂, ho₂, rfl⟩ := (hmem r₂).mp hr₂
    by_cases h₁ : o₁.id = role.id
    · obtain rfl : o₁ = role := Table.eq_of_key_eq ho₁ hroleMem h₁
      by_cases h₂ : o₂.id = o₁.id
      · obtain rfl : o₂ = o₁ := Table.eq_of_key_eq ho₂ ho₁ h₂
        rfl
      · rw [RoleRow.rename_name rfl, RoleRow.rename_of_ne h₂] at hname
        exact absurd hname (hother o₂ ho₂ h₂)
    · by_cases h₂ : o₂.id = role.id
      · obtain rfl : o₂ = role := Table.eq_of_key_eq ho₂ hroleMem h₂
        rw [RoleRow.rename_name rfl, RoleRow.rename_of_ne h₁] at hname
        exact absurd hname.symm (hother o₁ ho₁ h₁)
      · rw [RoleRow.rename_of_ne h₁, RoleRow.rename_of_ne h₂] at hname ⊢
        exact hwf.roleName_unique o₁ ho₁ o₂ ho₂ hname
  · intro r
    obtain ⟨legacy, hlegacy, hid, hlegacyName, hlegacySys⟩ := hwf.legacy r
    have hne : legacy.id ≠ role.id := by
      rw [hid]
      exact (hwf.id_ne_of_not_system hroleMem hsys r).symm
    refine ⟨legacy, (hmem legacy).mpr ⟨legacy, hlegacy, ?_⟩, hid, hlegacyName, hlegacySys⟩
    exact (RoleRow.rename_of_ne hne name description).symm
  · intro rp hrp r hr hid
    obtain ⟨o, ho, rfl⟩ := (hmem r).mp hr
    by_cases ho' : o.id = role.id
    · obtain rfl : o = role := Table.eq_of_key_eq ho hroleMem ho'
      rw [RoleRow.rename_name rfl]
      exact hwf.rename_not_hardcoded ho hsys hfree
    · rw [RoleRow.rename_of_ne ho'] at hid ⊢
      exact hwf.hardcoded_bare rp hrp o ho hid

theorem insertGroup (hwf : WellFormed db) {row : GroupRow} (hins : db.insertGroup row = some db') :
    WellFormed db' := by
  obtain ⟨groups, rfl, -, hmem⟩ := Db.insertGroup_eq_some hins
  have hkeep : ∀ {id : GroupId}, (∃ group ∈ db.groups, group.id = id) →
      ∃ group ∈ groups, group.id = id := by
    rintro id ⟨group, hgroup, hid⟩
    exact ⟨group, (hmem group).mpr (Or.inl hgroup), hid⟩
  exact { hwf with
    groupMember_group := fun gm hgm => hkeep (hwf.groupMember_group gm hgm)
    groupRole_group := fun gr hgr => hkeep (hwf.groupRole_group gr hgr)
    groupVm_group := fun gva hgva => hkeep (hwf.groupVm_group gva hgva) }

theorem updateGroup (hwf : WellFormed db) {id : GroupId}
    (hupd : db.updateGroup id name description = some db') : WellFormed db' := by
  obtain ⟨groups, rfl, hmem⟩ := Db.updateGroup_eq_some hupd
  have hkeep : ∀ {gid : GroupId}, (∃ group ∈ db.groups, group.id = gid) →
      ∃ group ∈ groups, group.id = gid := by
    rintro gid ⟨group, hgroup, rfl⟩
    exact hmem group hgroup
  exact { hwf with
    groupMember_group := fun gm hgm => hkeep (hwf.groupMember_group gm hgm)
    groupRole_group := fun gr hgr => hkeep (hwf.groupRole_group gr hgr)
    groupVm_group := fun gva hgva => hkeep (hwf.groupVm_group gva hgva) }

/-! ## Statements that delete rows -/

theorem of_sublists (hwf : WellFormed db) (hroles : db'.roles = db.roles)
    (hgroups : db'.groups = db.groups) (huserRoles : ∀ ur ∈ db'.userRoles, ur ∈ db.userRoles)
    (hrolePermissions : ∀ rp ∈ db'.rolePermissions, rp ∈ db.rolePermissions)
    (hgroupMembers : ∀ gm ∈ db'.groupMembers, gm ∈ db.groupMembers)
    (hgroupRoles : ∀ gr ∈ db'.groupRoles, gr ∈ db.groupRoles)
    (hgroupVm : ∀ gva ∈ db'.groupVmAccess, gva ∈ db.groupVmAccess) : WellFormed db' := by
  constructor
  · exact fun ur hur => hroles ▸ hwf.userRole_role ur (huserRoles ur hur)
  · exact fun rp hrp => hroles ▸ hwf.rolePermission_role rp (hrolePermissions rp hrp)
  · exact fun gr hgr => hroles ▸ hwf.groupRole_role gr (hgroupRoles gr hgr)
  · exact fun gm hgm => hgroups ▸ hwf.groupMember_group gm (hgroupMembers gm hgm)
  · exact fun gr hgr => hgroups ▸ hwf.groupRole_group gr (hgroupRoles gr hgr)
  · exact fun gva hgva => hgroups ▸ hwf.groupVm_group gva (hgroupVm gva hgva)
  · exact hroles ▸ hwf.roleName_unique
  · exact hroles ▸ hwf.legacy
  · intro rp hrp role hrole
    exact hwf.hardcoded_bare rp (hrolePermissions rp hrp) role (hroles ▸ hrole)

theorem deleteRole (hwf : WellFormed db)
    (hrole : db.roles.find? id = some role) (hsys : role.isSystem = false) :
    WellFormed (db.deleteRole id) := by
  have hkeep : ∀ {rid : RoleId}, rid ≠ id → (∃ r ∈ db.roles, r.id = rid) →
      ∃ r ∈ (db.deleteRole id).roles, r.id = rid := by
    rintro rid hne ⟨r, hr, hid⟩
    exact ⟨r, Table.mem_deleteWhere.mpr ⟨hr, decide_eq_false fun heq => hne (hid ▸ heq)⟩, hid⟩
  constructor
  · intro ur hur
    obtain ⟨hold, hne⟩ := Table.mem_deleteWhere.mp hur
    exact hkeep (of_decide_eq_false hne) (hwf.userRole_role ur hold)
  · intro rp hrp
    obtain ⟨hold, hne⟩ := Table.mem_deleteWhere.mp hrp
    exact hkeep (of_decide_eq_false hne) (hwf.rolePermission_role rp hold)
  · intro gr hgr
    obtain ⟨hold, hne⟩ := Table.mem_deleteWhere.mp hgr
    exact hkeep (of_decide_eq_false hne) (hwf.groupRole_role gr hold)
  · exact hwf.groupMember_group
  · intro gr hgr
    exact hwf.groupRole_group gr (Table.mem_deleteWhere.mp hgr).1
  · exact hwf.groupVm_group
  · intro r hr r' hr'
    exact hwf.roleName_unique r (Table.mem_deleteWhere.mp hr).1 r' (Table.mem_deleteWhere.mp hr').1
  · intro r
    obtain ⟨legacy, hlegacy, hid, hlegacyName⟩ := hwf.legacy r
    refine ⟨legacy, Table.mem_deleteWhere.mpr ⟨hlegacy, decide_eq_false ?_⟩, hid, hlegacyName⟩
    rw [hid, ← (Table.key_of_find? hrole : role.id = id)]
    exact fun heq => hwf.id_ne_of_not_system (Table.mem_of_find? hrole) hsys r heq.symm
  · intro rp hrp r hr
    exact hwf.hardcoded_bare rp (Table.mem_deleteWhere.mp hrp).1 r (Table.mem_deleteWhere.mp hr).1

theorem deleteGroup (hwf : WellFormed db) (id : GroupId) : WellFormed (db.deleteGroup id) := by
  have hkeep : ∀ {gid : GroupId}, gid ≠ id → (∃ g ∈ db.groups, g.id = gid) →
      ∃ g ∈ (db.deleteGroup id).groups, g.id = gid := by
    rintro gid hne ⟨g, hg, hid⟩
    exact ⟨g, Table.mem_deleteWhere.mpr ⟨hg, decide_eq_false fun heq => hne (hid ▸ heq)⟩, hid⟩
  refine { hwf with groupRole_role := ?_, groupMember_group := ?_, groupRole_group := ?_,
                    groupVm_group := ?_ }
  · intro gr hgr
    exact hwf.groupRole_role gr (Table.mem_deleteWhere.mp hgr).1
  · intro gm hgm
    obtain ⟨hold, hne⟩ := Table.mem_deleteWhere.mp hgm
    exact hkeep (of_decide_eq_false hne) (hwf.groupMember_group gm hold)
  · intro gr hgr
    obtain ⟨hold, hne⟩ := Table.mem_deleteWhere.mp hgr
    exact hkeep (of_decide_eq_false hne) (hwf.groupRole_group gr hold)
  · intro gva hgva
    obtain ⟨hold, hne⟩ := Table.mem_deleteWhere.mp hgva
    exact hkeep (of_decide_eq_false hne) (hwf.groupVm_group gva hold)

end WellFormed

end ProxVM
