import ProxVM.Db.Seeds
import ProxVM.Iam.WellFormed
import ProxVM.Routes.Iam

/-!
# Conferral is sound

Six operations put permissions into circulation.  Each checks, before it writes,
that its actor holds what it confers (`assertMayConfer`), but each computes "what
it confers" differently: requested codes, the set of a role, the union over the
roles of a group.  `conferral_sound` says that all six
approximations are on the safe side.
-/

namespace ProxVM

open Tables Fallible

variable {db db' : Db} {now : Time} {ctx : RequestContext} {u : UserId} {p : Permission}

/-! ## What a role row confers -/

variable {role : RoleRow} {db₁ : Db}

theorem mem_rolePermissionSet_of_hardcoded {r : Role}
    (hname : hardcodedRole? role.name = some r) (hp : p ∈ permissionsForRole r) :
    p ∈ rolePermissionSet db role := by
  simpa [rolePermissionSet, hname] using hp

theorem mem_rolePermissionSet_of_stored (hwf : WellFormed db)
    (hrole : role ∈ db.roles) (hp : ⟨role.id, p⟩ ∈ db.rolePermissions) : p ∈ rolePermissionSet db role := by
  have hname := hwf.hardcoded_bare _ hp role hrole rfl
  simpa [rolePermissionSet, hname] using mem_storedPermissions.mpr hp

/-! ## The derivations a new row adds -/

theorem sources_putUserRole (hwf : WellFormed db) {row : UserRoleRow}
    (hrole : role ∈ db.roles) (hid : role.id = row.roleId)
    (hsource : PermissionSource (db.putUserRole row) now u p) :
    PermissionSource db now u p ∨ p ∈ rolePermissionSet db role := by
  cases hsource with
  | legacyRole ur role' r hur huser hlive hrole' hid' hname hp =>
      rcases Table.mem_put.mp hur with rfl | ⟨hold, -⟩
      · obtain rfl : role' = role := Table.eq_of_key_eq hrole' hrole (hid'.trans hid.symm)
        exact Or.inr (mem_rolePermissionSet_of_hardcoded hname hp)
      · exact Or.inl (.legacyRole ur role' r hold huser hlive hrole' hid' hname hp)
  | customRole ur role' hur huser hlive hrole' hid' hp =>
      rcases Table.mem_put.mp hur with rfl | ⟨hold, -⟩
      · obtain rfl : role' = role := Table.eq_of_key_eq hrole' hrole (hid'.trans hid.symm)
        exact Or.inr (mem_rolePermissionSet_of_stored hwf hrole hp)
      · exact Or.inl (.customRole ur role' hold huser hlive hrole' hid' hp)
  | direct up hup huser hlive hp => exact Or.inl (.direct up hup huser hlive hp)
  | groupRole gm group gr role' hgm huser hlive hgroup hgid hgr hgrid hgrlive hrole' hid' hp =>
      exact Or.inl
        (.groupRole gm group gr role' hgm huser hlive hgroup hgid hgr hgrid hgrlive hrole' hid' hp)

theorem sources_putUserPermission {row : UserPermissionRow}
    (hsource : PermissionSource (db.putUserPermission row) now u p) :
    PermissionSource db now u p ∨ p = row.permission := by
  cases hsource with
  | legacyRole ur role r hur huser hlive hrole hid hname hp =>
      exact Or.inl (.legacyRole ur role r hur huser hlive hrole hid hname hp)
  | customRole ur role hur huser hlive hrole hid hp =>
      exact Or.inl (.customRole ur role hur huser hlive hrole hid hp)
  | direct up hup huser hlive hp =>
      rcases Table.mem_put.mp hup with rfl | ⟨hold, -⟩
      · exact Or.inr hp.symm
      · exact Or.inl (.direct up hold huser hlive hp)
  | groupRole gm group gr role hgm huser hlive hgroup hgid hgr hgrid hgrlive hrole hid hp =>
      exact Or.inl
        (.groupRole gm group gr role hgm huser hlive hgroup hgid hgr hgrid hgrlive hrole hid hp)

theorem sources_putGroupMember (hwf : WellFormed db) {row : GroupMemberRow}
    (hsource : PermissionSource (db.putGroupMember row) now u p) :
    PermissionSource db now u p ∨ p ∈ groupEffectivePermissions db now row.groupId := by
  cases hsource with
  | legacyRole ur role r hur huser hlive hrole hid hname hp =>
      exact Or.inl (.legacyRole ur role r hur huser hlive hrole hid hname hp)
  | customRole ur role hur huser hlive hrole hid hp =>
      exact Or.inl (.customRole ur role hur huser hlive hrole hid hp)
  | direct up hup huser hlive hp => exact Or.inl (.direct up hup huser hlive hp)
  | groupRole gm group gr role hgm huser hlive hgroup hgid hgr hgrid hgrlive hrole hid hp =>
      rcases Table.mem_put.mp hgm with rfl | ⟨hold, -⟩
      · refine Or.inr (mem_groupEffectivePermissions.mpr ⟨gr, hgr, hgrid.trans hgid, hgrlive, role,
          hrole, hid, mem_rolePermissionSet_of_stored hwf hrole hp⟩)
      · exact Or.inl
          (.groupRole gm group gr role hold huser hlive hgroup hgid hgr hgrid hgrlive hrole hid hp)

theorem sources_putGroupRole (hwf : WellFormed db) {row : GroupRoleRow}
    (hrole : role ∈ db.roles) (hid : role.id = row.roleId)
    (hsource : PermissionSource (db.putGroupRole row) now u p) :
    PermissionSource db now u p ∨ p ∈ rolePermissionSet db role := by
  cases hsource with
  | legacyRole ur role' r hur huser hlive hrole' hid' hname hp =>
      exact Or.inl (.legacyRole ur role' r hur huser hlive hrole' hid' hname hp)
  | customRole ur role' hur huser hlive hrole' hid' hp =>
      exact Or.inl (.customRole ur role' hur huser hlive hrole' hid' hp)
  | direct up hup huser hlive hp => exact Or.inl (.direct up hup huser hlive hp)
  | groupRole gm group gr role' hgm huser hlive hgroup hgid hgr hgrid hgrlive hrole' hid' hp =>
      rcases Table.mem_put.mp hgr with rfl | ⟨hold, -⟩
      · obtain rfl : role' = role := Table.eq_of_key_eq hrole' hrole (hid'.trans hid.symm)
        exact Or.inr (mem_rolePermissionSet_of_stored hwf hrole hp)
      · exact Or.inl
          (.groupRole gm group gr role' hgm huser hlive hgroup hgid hold hgrid hgrlive hrole' hid' hp)

theorem sources_createRole (hwf : WellFormed db) {row : RoleRow}
    (hins : db.insertRole row = some db₁) (ps : List Permission)
    (hsource : PermissionSource (ps.foldl (fun db p => db.insertRolePermission row.id p) db₁) now u p) :
    PermissionSource db now u p := by
  obtain ⟨rolePermissions, heq, hperms⟩ := Db.foldl_insertRolePermission_eq db₁ row.id ps
  obtain ⟨roles, rfl, -, hfreshId, hroles⟩ := Db.insertRole_eq_some hins
  rw [heq] at hsource
  have hold : ∀ {role : RoleRow} {rid : RoleId}, role ∈ roles → role.id = rid →
      (∃ r ∈ db.roles, r.id = rid) → role ∈ db.roles := by
    rintro role rid hrole rfl ⟨r, hr, hid⟩
    rcases (hroles role).mp hrole with hold | rfl
    · exact hold
    · exact absurd hid (hfreshId r hr)
  have hstored : ∀ {role : RoleRow}, role ∈ db.roles → ⟨role.id, p⟩ ∈ rolePermissions →
      ⟨role.id, p⟩ ∈ db.rolePermissions := by
    intro role hrole hp
    rcases (hperms _).mp hp with hold | ⟨hid, -⟩
    · exact hold
    · exact absurd hid (hfreshId role hrole)
  cases hsource with
  | legacyRole ur role r hur huser hlive hrole hid hname hp =>
      exact .legacyRole ur role r hur huser hlive (hold hrole hid (hwf.userRole_role ur hur)) hid
        hname hp
  | customRole ur role hur huser hlive hrole hid hp =>
      have hrole' := hold hrole hid (hwf.userRole_role ur hur)
      exact .customRole ur role hur huser hlive hrole' hid (hstored hrole' hp)
  | direct up hup huser hlive hp => exact .direct up hup huser hlive hp
  | groupRole gm group gr role hgm huser hlive hgroup hgid hgr hgrid hgrlive hrole hid hp =>
      have hrole' := hold hrole hid (hwf.groupRole_role gr hgr)
      exact .groupRole gm group gr role hgm huser hlive hgroup hgid hgr hgrid hgrlive hrole' hid
        (hstored hrole' hp)

theorem sources_updateRole (hwf : WellFormed db) (hrole : role ∈ db.roles)
    (hsys : role.isSystem = false) {name description : Option String}
    (hupd : db.updateRole role.id name description = some db₁)
    {rolePermissions : Table RolePermissionRow.key} {ps : List Permission}
    (hperms : ∀ rp ∈ rolePermissions, rp ∈ db.rolePermissions ∨ rp.permission ∈ ps)
    (hsource : PermissionSource { db₁ with rolePermissions } now u p) :
    PermissionSource db now u p ∨ p ∈ ps := by
  obtain ⟨roles, rfl, hfree, hroles⟩ := Db.updateRole_eq_some hupd
  cases hsource with
  | legacyRole ur role' r hur huser hlive hrole' hid hname hp =>
      obtain ⟨o, ho, rfl⟩ := (hroles role').mp hrole'
      by_cases hsame : o.id = role.id
      · obtain rfl : o = role := Table.eq_of_key_eq ho hrole hsame
        rw [RoleRow.rename_name rfl, hwf.rename_not_hardcoded ho hsys hfree] at hname
        cases hname
      · rw [RoleRow.rename_of_ne hsame] at hid hname
        exact Or.inl (.legacyRole ur o r hur huser hlive ho hid hname hp)
  | customRole ur role' hur huser hlive hrole' hid hp =>
      obtain ⟨o, ho, rfl⟩ := (hroles role').mp hrole'
      rw [RoleRow.rename_id] at hid hp
      rcases hperms _ hp with hold | hnew
      · exact Or.inl (.customRole ur o hur huser hlive ho hid hold)
      · exact Or.inr hnew
  | direct up hup huser hlive hp => exact Or.inl (.direct up hup huser hlive hp)
  | groupRole gm group gr role' hgm huser hlive hgroup hgid hgr hgrid hgrlive hrole' hid hp =>
      obtain ⟨o, ho, rfl⟩ := (hroles role').mp hrole'
      rw [RoleRow.rename_id] at hid hp
      rcases hperms _ hp with hold | hnew
      · exact Or.inl
          (.groupRole gm group gr o hgm huser hlive hgroup hgid hgr hgrid hgrlive ho hid hold)
      · exact Or.inr hnew

/-! ## The operations -/

inductive GrantOp
  | postRoles (body : CreateRoleBody)
  | patchRole (id : RoleId) (body : UpdateRoleBody)
  | postUserRole (id : UserId) (body : AssignRoleBody)
  | postUserPermission (id : UserId) (body : GrantPermissionBody)
  | postGroupRole (id : GroupId) (body : AssignRoleBody)
  | postGroupMember (id : GroupId) (body : AddMemberBody)

def GrantOp.handler (ctx : RequestContext) : GrantOp → Handler Unit
  | .postRoles body => ProxVM.postRoles ctx body
  | .patchRole id body => ProxVM.patchRole ctx id body
  | .postUserRole id body => ProxVM.postUserRole ctx id body
  | .postUserPermission id body => ProxVM.postUserPermission ctx id body
  | .postGroupRole id body => ProxVM.postGroupRole ctx id body
  | .postGroupMember id body => ProxVM.postGroupMember ctx id body

def ConfersOnlyHeld (ctx : RequestContext) (db db' : Db) : Prop :=
  ∀ u p, PermissionSource db' ctx.now u p →
    PermissionSource db ctx.now u p ∨ (resolveEffectiveAccess db ctx.now ctx.userId).has p = true

theorem ConfersOnlyHeld.refl : ConfersOnlyHeld ctx db db :=
  fun _ _ hsource => Or.inl hsource

private theorem confers_postRoles (hwf : WellFormed db) (body : CreateRoleBody) :
    after (postRoles ctx body) (fun _ db' => ConfersOnlyHeld ctx db db') db := by
  refine after_postRoles (fun _ => ConfersOnlyHeld.refl) fun ps db₁ _ _ hins u p hsource => ?_
  exact Or.inl (sources_createRole hwf hins (unique ps) hsource)

private theorem confers_patchRole (hwf : WellFormed db) (id : RoleId) (body : UpdateRoleBody) :
    after (patchRole ctx id body) (fun _ db' => ConfersOnlyHeld ctx db db') db := by
  refine after_patchRole (fun _ => ConfersOnlyHeld.refl)
    fun role db₁ ps hrole hsys _ hholds hupd u p hsource => ?_
  obtain ⟨hroleMem, rfl⟩ := Table.find?_eq_some_iff.mp hrole
  cases ps with
  | none =>
      have hsame : db₁.rolePermissions = db.rolePermissions := by
        obtain ⟨roles, rfl, -⟩ := Db.updateRole_eq_some hupd
        rfl
      have hkept : ∀ rp ∈ db₁.rolePermissions, rp ∈ db.rolePermissions ∨ rp.permission ∈ [] :=
        fun rp hrp => Or.inl (hsame ▸ hrp)
      rcases sources_updateRole hwf hroleMem hsys hupd hkept hsource with hold | hnew
      · exact Or.inl hold
      · cases hnew
  | some ps =>
      obtain ⟨rolePermissions, heq, hperms⟩ := Db.foldl_insertRolePermission_eq
        (db₁.deleteRolePermissions role.id) role.id (unique ps)
      have hnew : ∀ rp ∈ rolePermissions, rp ∈ db.rolePermissions ∨ rp.permission ∈ ps := by
        intro rp hrp
        rcases (hperms rp).mp hrp with hold | ⟨-, hmem⟩
        · obtain ⟨roles, rfl, -⟩ := Db.updateRole_eq_some hupd
          exact Or.inl (Table.mem_deleteWhere.mp hold).1
        · exact Or.inr (mem_unique.mp hmem)
      simp only [heq] at hsource
      rcases sources_updateRole hwf hroleMem hsys hupd hnew hsource with hold | hmem
      · exact Or.inl hold
      · exact Or.inr (hholds ps rfl p hmem)

private theorem confers_postUserRole (hwf : WellFormed db) (id : UserId) (body : AssignRoleBody) :
    after (postUserRole ctx id body) (fun _ db' => ConfersOnlyHeld ctx db db') db := by
  refine after_postUserRole (fun _ => ConfersOnlyHeld.refl)
    fun target role _ hrole hholds _ u p hsource => ?_
  rcases sources_putUserRole hwf (Table.mem_of_find? hrole) rfl hsource with hold | hmem
  · exact Or.inl hold
  · exact Or.inr (hholds p hmem)

private theorem confers_postUserPermission (id : UserId) (body : GrantPermissionBody) :
    after (postUserPermission ctx id body) (fun _ db' => ConfersOnlyHeld ctx db db') db := by
  refine after_postUserPermission (fun _ => ConfersOnlyHeld.refl) fun q hholds u p hsource => ?_
  rcases sources_putUserPermission hsource with hold | rfl
  · exact Or.inl hold
  · exact Or.inr hholds

private theorem confers_postGroupRole (hwf : WellFormed db) (id : GroupId) (body : AssignRoleBody) :
    after (postGroupRole ctx id body) (fun _ db' => ConfersOnlyHeld ctx db db') db := by
  refine after_postGroupRole (fun _ => ConfersOnlyHeld.refl)
    fun group role _ hrole hholds u p hsource => ?_
  rcases sources_putGroupRole hwf (Table.mem_of_find? hrole) rfl hsource with hold | hmem
  · exact Or.inl hold
  · exact Or.inr (hholds p hmem)

private theorem confers_postGroupMember (hwf : WellFormed db) (id : GroupId) (body : AddMemberBody) :
    after (postGroupMember ctx id body) (fun _ db' => ConfersOnlyHeld ctx db db') db := by
  refine after_postGroupMember (fun _ => ConfersOnlyHeld.refl)
    fun group target _ _ hholds u p hsource => ?_
  rcases sources_putGroupMember hwf hsource with hold | hmem
  · exact Or.inl hold
  · exact Or.inr (hholds p hmem)

/-- **Conferral is sound**: whatever a grant operation adds to anyone's effective
permissions, its actor held immediately before. -/
theorem conferral_sound (hwf : WellFormed db) (op : GrantOp) (u : UserId) (p : Permission)
    (hafter : (resolveEffectiveAccess (exec (op.handler ctx) db).2 ctx.now u).has p = true)
    (hbefore : (resolveEffectiveAccess db ctx.now u).has p = false) :
    (resolveEffectiveAccess db ctx.now ctx.userId).has p = true := by
  have hconfers : after (op.handler ctx) (fun _ db' => ConfersOnlyHeld ctx db db') db := by
    cases op with
    | postRoles body => exact confers_postRoles hwf body
    | patchRole id body => exact confers_patchRole hwf id body
    | postUserRole id body => exact confers_postUserRole hwf id body
    | postUserPermission id body => exact confers_postUserPermission id body
    | postGroupRole id body => exact confers_postGroupRole hwf id body
    | postGroupMember id body => exact confers_postGroupMember hwf id body
  rcases hconfers u p (has_iff.mp hafter) with hold | hheld
  · rw [has_iff.mpr hold] at hbefore
    cases hbefore
  · exact hheld

theorem conferral_sound_sample : (resolveEffectiveAccess Db.sample 0 10).has .auditRead = true :=
  @conferral_sound Db.sample ⟨10, 0, 99⟩ wellFormed_sample
    (.postUserPermission 12 ⟨"audit.read", none⟩) 12 .auditRead (by decide) (by decide)

end ProxVM
