import ProxVM.Db.Seeds
import ProxVM.Iam.Operations

/-!
# The initial administrator

`services/users.ts` calls the initial administrator immutable: no demotion, no
deletion, no deactivation.  Four places guard this (role removal, role
replacement, deactivation, deletion).  Role assignment does not: an administrator
may re-assign the `ADMIN` role to the initial administrator with an expiry, which
overwrites the permanent assignment (`postUserRole_sets_expiry`).
-/

namespace ProxVM

open Tables Fallible

variable {db db' : Db} {ctx : RequestContext} {root : UserId}

/-- The account `root` is the initial administrator, active, and `ADMIN` for good. -/
structure RootAccount (root : UserId) (db : Db) : Prop where
  account : ∃ u ∈ db.users, u.id = root ∧ u.isInitialAdmin = true ∧ u.active = true
  adminRole : ⟨root, Role.admin.id, none⟩ ∈ db.userRoles

namespace RootAccount

theorem isInitialAdmin (hroot : RootAccount root db) : isInitialAdmin db root = true := by
  obtain ⟨u, hu, rfl, hflag, -⟩ := hroot.account
  simpa [ProxVM.isInitialAdmin, Table.find?_of_mem hu] using hflag

variable {userId : UserId} {row : UserRoleRow}

theorem ne_of_not_initial (hroot : RootAccount root db)
    (hguard : ProxVM.isInitialAdmin db userId = false) : userId ≠ root := by
  rintro rfl
  rw [hroot.isInitialAdmin] at hguard
  cases hguard

theorem congr (hroot : RootAccount root db) (husers : db'.users = db.users)
    (huserRoles : db'.userRoles = db.userRoles) : RootAccount root db' :=
  { account := husers ▸ hroot.account, adminRole := huserRoles ▸ hroot.adminRole }

theorem isAdmin_at (hwf : WellFormed db) (hroot : RootAccount root db) (now : Time) :
    ∃ user, findUserById db now root = some user ∧ user.row.active = true ∧ isAdmin user = true := by
  obtain ⟨u, hu, rfl, -, hactive⟩ := hroot.account
  refine ⟨assembleUser db now u, ?_, hactive, ?_⟩
  · simp [findUserById, Table.find?_of_mem hu]
  · obtain ⟨role, hrole, hid, hname, -⟩ := hwf.legacy .admin
    have hmem : Role.admin ∈ (assembleUser db now u).roles :=
      mem_assembleUser_roles.mpr ⟨_, hroot.adminRole, rfl, rfl, role, hrole, hid, hname⟩
    simpa [isAdmin] using hmem

/-! ## Statements -/

theorem putUserRole (hroot : RootAccount root db)
    (hkeep : row.userId = root → row.roleId = Role.admin.id → row.expiresAt = none) :
    RootAccount root (db.putUserRole row) := by
  refine { hroot with adminRole := Table.mem_put.mpr ?_ }
  obtain ⟨userId, roleId, expiresAt⟩ := row
  by_cases hsame : root = userId ∧ Role.admin.id = roleId
  · obtain ⟨rfl, rfl⟩ := hsame
    have hnone : expiresAt = none := hkeep rfl rfl
    exact Or.inl (by rw [hnone])
  · refine Or.inr ⟨hroot.adminRole, fun hkey => hsame ?_⟩
    simpa [UserRoleRow.key] using hkey

theorem deleteUserRole (hroot : RootAccount root db) {roleId : RoleId}
    (hother : userId = root → roleId ≠ Role.admin.id) :
    RootAccount root (db.deleteUserRole userId roleId) := by
  refine { hroot with adminRole := Table.mem_deleteWhere.mpr ⟨hroot.adminRole, ?_⟩ }
  by_cases hsame : root = userId
  · simp [Ne.symm (hother hsame.symm)]
  · simp [hsame]

theorem deleteUserRoles (hroot : RootAccount root db) (hne : userId ≠ root) :
    RootAccount root (db.deleteUserRoles userId) :=
  { hroot with
    adminRole := Table.mem_deleteWhere.mpr ⟨hroot.adminRole, decide_eq_false (Ne.symm hne)⟩ }

theorem insertUserRole (hroot : RootAccount root db)
    (hins : db.insertUserRole row = some db') : RootAccount root db' := by
  obtain ⟨userRoles, rfl, -, hmem⟩ := Db.insertUserRole_eq_some hins
  exact { hroot with adminRole := (hmem _).mpr (Or.inl hroot.adminRole) }

theorem deleteRole (hroot : RootAccount root db) {id : RoleId} (hne : id ≠ Role.admin.id) :
    RootAccount root (db.deleteRole id) :=
  { hroot with
    adminRole := Table.mem_deleteWhere.mpr ⟨hroot.adminRole, decide_eq_false (Ne.symm hne)⟩ }

theorem insertUser (hroot : RootAccount root db) {row : UserRow}
    (hins : db.insertUser row = some db') : RootAccount root db' ∧ row.id ≠ root := by
  obtain ⟨users, rfl, hfresh, hmem⟩ := Db.insertUser_eq_some hins
  obtain ⟨u, hu, hid, hflags⟩ := hroot.account
  refine ⟨{ hroot with account := ⟨u, (hmem u).mpr (Or.inl hu), hid, hflags⟩ }, ?_⟩
  rw [← hid]
  exact (hfresh u hu).symm

theorem deleteUser (hroot : RootAccount root db) (hne : userId ≠ root) :
    RootAccount root (db.deleteUser userId) := by
  obtain ⟨u, hu, hid, hflags⟩ := hroot.account
  refine ⟨⟨u, Table.mem_deleteWhere.mpr ⟨hu, decide_eq_false ?_⟩, hid, hflags⟩, ?_⟩
  · rw [hid]
    exact Ne.symm hne
  · exact Table.mem_deleteWhere.mpr ⟨hroot.adminRole, decide_eq_false (Ne.symm hne)⟩

theorem updateUsers (hroot : RootAccount root db) (p : UserRow → Bool) (f : UserRow → UserRow)
    (hkey : ∀ u, (f u).id = u.id)
    (hkeep : ∀ u, p u = true → u.id = root → u.isInitialAdmin = true → u.active = true →
      (f u).isInitialAdmin = true ∧ (f u).active = true) :
    RootAccount root { db with users := db.users.updateWhere p f hkey } := by
  obtain ⟨u, hu, hid, hflag, hactive⟩ := hroot.account
  refine { hroot with account := ⟨if p u then f u else u, ?_, ?_⟩ }
  · simp only [Table.mem_updateWhere]
    exact ⟨u, hu, rfl⟩
  · split
    · rename_i hp
      exact ⟨(hkey u).trans hid, hkeep u hp hid hflag hactive⟩
    · exact ⟨hid, hflag, hactive⟩

theorem setUserActive (hroot : RootAccount root db) {active : Bool}
    (hguard : active = false → ProxVM.isInitialAdmin db userId = false) :
    RootAccount root (db.setUserActive userId active) := by
  refine hroot.updateUsers _ (fun u => { u with active }) (fun _ => rfl)
    fun u hp hid hflag _ => ⟨hflag, ?_⟩
  cases active with
  | true => rfl
  | false =>
      have hsame : userId = root := (of_decide_eq_true hp).symm.trans hid
      exact absurd hsame (hroot.ne_of_not_initial (hguard rfl))

theorem setUserPassword (hroot : RootAccount root db) (userId : UserId) (passwordHash : String) :
    RootAccount root (db.setUserPassword userId passwordHash) :=
  hroot.updateUsers _ (fun u => { u with passwordHash }) (fun _ => rfl)
    fun _ _ _ hflag hactive => ⟨hflag, hactive⟩

theorem setUserProfile (hroot : RootAccount root db) (userId : UserId) (email givenName : Option String) :
    RootAccount root (db.setUserProfile userId email givenName) :=
  hroot.updateUsers _
    (fun u => { u with email := email <|> u.email, givenName := givenName <|> u.givenName })
    (fun _ => rfl) fun _ _ _ hflag hactive => ⟨hflag, hactive⟩

end RootAccount

/-! ## Requests -/

/-- The request does not assign `ADMIN` to `root` with an expiry. -/
def KeepsRootPermanent (root : UserId) : IamOp → Prop
  | .postUserRole id body =>
      ¬ (id = root ∧ body.roleId = Role.admin.id ∧ body.expiresAt.isSome = true)
  | _ => True

private theorem rootAccount_setRoles (hroot : RootAccount root db) {userId : UserId}
    (hne : userId ≠ root) (roles : List Role) :
    after (setRoles userId roles) (fun _ db' => RootAccount root db') db :=
  after_setRoles (hroot.deleteUserRoles hne) fun _ _ _ hins hroot => hroot.insertUserRole hins

private theorem rootAccount_createUser (hroot : RootAccount root db) (input : CreateUserInput) :
    after (createUser ctx input) (fun _ db' => RootAccount root db') db := by
  refine after_createUser hroot fun db₁ row hid _ hins => ?_
  obtain ⟨hroot₁, hne⟩ := hroot.insertUser hins
  exact rootAccount_setRoles hroot₁ (hid ▸ hne) _

theorem UserOp.rootAccount (hroot : RootAccount root db) (op : UserOp) :
    after (op.handler ctx) (fun _ db' => RootAccount root db') db := by
  cases op with
  | postUsers body => exact after_postUsers hroot fun input => rootAccount_createUser hroot input
  | putUser id body =>
      exact after_putUser hroot (fun _ hroot _ hguard => hroot.setUserActive hguard)
        (fun _ hroot roles hguard =>
          rootAccount_setRoles hroot (hroot.ne_of_not_initial hguard) roles)
        (fun _ hroot => hroot.setUserPassword id) fun _ hroot => hroot.setUserProfile id
  | deleteUser id =>
      exact after_deleteUser hroot fun hguard => hroot.deleteUser (hroot.ne_of_not_initial hguard)
  | postRegistrationApprove id role =>
      exact after_postRegistrationApprove hroot (hroot.congr rfl rfl)
        (fun input => rootAccount_createUser hroot input) fun _ hroot _ => hroot.congr rfl rfl

theorem IamOp.rootAccount (hwf : WellFormed db) (hroot : RootAccount root db) (op : IamOp)
    (hkeeps : KeepsRootPermanent root op) :
    after (op.handler ctx) (fun _ db' => RootAccount root db') db := by
  cases op with
  | postRoles body =>
      refine after_postRoles (fun _ => hroot) fun ps db₁ _ _ hins => ?_
      obtain ⟨roles, rfl, -⟩ := Db.insertRole_eq_some hins
      obtain ⟨rolePermissions, heq, -⟩ :=
        Db.foldl_insertRolePermission_eq { db with roles } ctx.newId (unique ps)
      rw [heq]
      exact hroot.congr rfl rfl
  | patchRole id body =>
      refine after_patchRole (fun _ => hroot) fun _ db₁ ps _ _ _ _ hupd => ?_
      obtain ⟨roles, rfl, -⟩ := Db.updateRole_eq_some hupd
      cases ps with
      | none => exact hroot.congr rfl rfl
      | some ps =>
          obtain ⟨rolePermissions, heq, -⟩ := Db.foldl_insertRolePermission_eq
            (Db.deleteRolePermissions { db with roles } id) id (unique ps)
          simp only [heq]
          exact hroot.congr rfl rfl
  | deleteRole id =>
      refine after_deleteRole (fun _ => hroot) fun role hrole hsys => hroot.deleteRole ?_
      rw [← (Table.key_of_find? hrole : role.id = id)]
      exact hwf.id_ne_of_not_system (Table.mem_of_find? hrole) hsys .admin
  | postUserRole id body =>
      refine after_postUserRole (fun _ => hroot) fun _ role _ hrole _ _ =>
        hroot.putUserRole fun huser hadmin => ?_
      rw [(Table.key_of_find? hrole : role.id = body.roleId)] at hadmin
      cases hexpiry : body.expiresAt with
      | none => rfl
      | some t => exact absurd ⟨huser, hadmin, by simp [hexpiry]⟩ hkeeps
  | deleteUserRole id roleId =>
      refine after_deleteUserRole (fun _ => hroot) fun role hrole hguard =>
        hroot.deleteUserRole fun huser hadmin => ?_
      have hid : role.id = Role.admin.id := (Table.key_of_find? hrole).trans hadmin
      have hname := (hwf.legacy_of_id (Table.mem_of_find? hrole) hid).1
      exact hroot.ne_of_not_initial (hguard hname) huser
  | postUserPermission id body =>
      exact after_postUserPermission (fun _ => hroot) fun _ _ => hroot.congr rfl rfl
  | deleteUserPermission id permission =>
      exact after_deleteUserPermission (fun _ => hroot) hroot fun _ => hroot.congr rfl rfl
  | postGroups body =>
      refine after_postGroups (fun _ => hroot) fun db₁ hins => ?_
      obtain ⟨groups, rfl, -⟩ := Db.insertGroup_eq_some hins
      exact hroot.congr rfl rfl
  | patchGroup id body =>
      refine after_patchGroup (fun _ => hroot) fun db₁ hupd => ?_
      obtain ⟨groups, rfl, -⟩ := Db.updateGroup_eq_some hupd
      exact hroot.congr rfl rfl
  | deleteGroup id => exact after_deleteGroup (fun _ => hroot) (hroot.congr rfl rfl)
  | postGroupMember id body =>
      exact after_postGroupMember (fun _ => hroot) fun _ _ _ _ _ => hroot.congr rfl rfl
  | deleteGroupMember id userId =>
      exact after_deleteGroupMember (fun _ => hroot) (hroot.congr rfl rfl)
  | postGroupRole id body =>
      exact after_postGroupRole (fun _ => hroot) fun _ _ _ _ _ => hroot.congr rfl rfl
  | deleteGroupRole id roleId => exact after_deleteGroupRole (fun _ => hroot) (hroot.congr rfl rfl)
  | postGroupVm id body =>
      exact after_postGroupVm (fun _ => hroot) fun _ _ _ _ _ => hroot.congr rfl rfl
  | deleteGroupVm id vmId => exact after_deleteGroupVm (fun _ => hroot) (hroot.congr rfl rfl)
  | postVmAccess id body guacSynced =>
      exact after_postVmAccess (fun _ => hroot) fun _ _ =>
        ⟨hroot.congr rfl rfl, fun _ => hroot.congr rfl rfl⟩
  | deleteVmAccess id userId guacUser guacRevoked =>
      exact after_deleteVmAccess (fun _ => hroot) hroot fun _ => hroot.congr rfl rfl

/-! ## Sequences of requests -/

/-- A sequence of user and IAM requests by any actors; `P` is a condition on the
IAM requests. -/
inductive ManagementRun (P : IamOp → Prop) (db₀ : Db) : Db → Prop
  | start : ManagementRun P db₀ db₀
  | iam {db : Db} (ctx : RequestContext) (op : IamOp) (hrun : ManagementRun P db₀ db)
      (hcond : P op) : ManagementRun P db₀ (exec (op.handler ctx) db).2
  | user {db : Db} (ctx : RequestContext) (op : UserOp) (hrun : ManagementRun P db₀ db) :
      ManagementRun P db₀ (exec (op.handler ctx) db).2

private theorem ManagementRun.invariant {db₀ : Db} (hwf : WellFormed db₀)
    (hroot : RootAccount root db₀) (hrun : ManagementRun (KeepsRootPermanent root) db₀ db) :
    WellFormed db ∧ RootAccount root db := by
  induction hrun with
  | start => exact ⟨hwf, hroot⟩
  | iam ctx op _ hcond ih =>
      exact ⟨IamOp.wellFormed ih.1 op, IamOp.rootAccount ih.1 ih.2 op hcond⟩
  | user ctx op _ ih => exact ⟨UserOp.wellFormed ih.1 op, UserOp.rootAccount ih.2 op⟩

/-- **The initial administrator is never locked out**, at any instant after any
sequence of requests none of which assigns them `ADMIN` with an expiry. -/
theorem initial_admin_kept {db₀ : Db} (hwf : WellFormed db₀) (hroot : RootAccount root db₀)
    (hrun : ManagementRun (KeepsRootPermanent root) db₀ db) (now : Time) :
    ∃ user, findUserById db now root = some user ∧ user.row.active = true ∧ isAdmin user = true := by
  obtain ⟨hwf', hroot'⟩ := hrun.invariant hwf hroot
  exact hroot'.isAdmin_at hwf' now

theorem rootAccount_sample : RootAccount 10 Db.sample where
  account := ⟨plainUser 10 "root" true, by decide, rfl, rfl, rfl⟩
  adminRole := by decide

theorem initial_admin_kept_sample :
    ∃ user, findUserById (exec (UserOp.handler ⟨11, 0, 99⟩ (.deleteUser 10)) Db.sample).2 5 10 =
      some user ∧ user.row.active = true ∧ isAdmin user = true :=
  initial_admin_kept wellFormed_sample rootAccount_sample (.user ⟨11, 0, 99⟩ _ .start) 5

/-- The request by which `admin` assigns `ADMIN` to `root` until instant 5. -/
def adminExpiresRoot : IamOp := .postUserRole 10 ⟨Role.admin.id, some 5⟩

/-- **Assigning `ADMIN` with an expiry locks the initial administrator out**: the
request is accepted at instant 0, and at instant 5 `root` is no administrator. -/
theorem postUserRole_sets_expiry : WellFormed Db.sample ∧ RootAccount 10 Db.sample ∧
      ManagementRun (fun _ => True) Db.sample (exec (adminExpiresRoot.handler ⟨11, 0, 99⟩) Db.sample).2 ∧
      ¬ ∃ user, findUserById (exec (adminExpiresRoot.handler ⟨11, 0, 99⟩) Db.sample).2 5 10 =
        some user ∧ user.row.active = true ∧ isAdmin user = true := by
  refine ⟨wellFormed_sample, rootAccount_sample,
    .iam ⟨11, 0, 99⟩ adminExpiresRoot .start trivial, ?_⟩
  rintro ⟨user, hfind, -, hadmin⟩
  obtain rfl : user = ⟨plainUser 10 "root" true, []⟩ :=
    Option.some.inj (hfind.symm.trans (by decide))
  exact absurd hadmin (by decide)

end ProxVM
