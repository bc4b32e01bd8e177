import ProxVM.Guacamole.Users
import ProxVM.Routes.Users

/-!
# The accounts of a user

The requests that administer the accounts of a user in ProxVM and in Guacamole: `PUT` and
`DELETE /users/:id` of `routes/users.ts`, here with what they do in Guacamole, and `POST` and
`DELETE /guacamole/users/:id/direct-login` of `routes/guacamole.ts`.  The first two refuse to
operate upward (`assertCanAdministerTarget`), the other two do not ask.
-/

namespace ProxVM

open Tables Fallible Guac

/-! ## The requests -/

def onApp {α : Type} (m : Handler α) : GuacProgram α := fun w =>
  ((exec m w.db).1, { w with db := (exec m w.db).2 })

/-- What a request brings along beside its context: whether `getGuacDb` gives a client, and what it
draws at random. -/
structure GuacContext where
  guacDb : Except AppError Unit
  draw : Draw

section handlers

variable (deps : GuacamoleServiceDeps) (ctx : RequestContext) (env : GuacContext)

/-- The Guacamole part of a change of `active`. -/
def syncGuacUserDisabled (targetId : UserId) (active : Option Bool) : GuacProgram Unit :=
  match active with
  | none => pure ()
  | some active => swallow do
      outcome env.guacDb
      deps.setGuacUserDisabled targetId (!active)

/-- `PUT /users/:id`, with Guacamole. -/
def putUserSynced (id : UserId) (body : UpdateUserBody) : GuacProgram Unit := do
  let actor ← onApp (requirePermission ctx .usersManage)
  ensure (decide (body.role ≠ some Role.guest)) invalidBody
  let found ← query fun w => findUserById w.db ctx.now id
  let target ← orFail found (AppError.notFound "User not found")
  onApp (assertCanAdministerTarget ctx actor.row.id id)
  onApp (updateUserActive ctx actor.row.id target body.active)
  syncGuacUserDisabled deps env target.row.id body.active
  onApp (updateUserRole ctx actor.row.id target body.role)
  onApp (updateUserProfile target.row.id body)

/-- `DELETE /users/:id`, with Guacamole. -/
def deleteUserSynced (id : UserId) : GuacProgram Unit := do
  let actor ← onApp (requirePermission ctx .usersManage)
  ensure (decide (id ≠ actor.row.id)) (AppError.validation "You cannot delete your own account")
  let found ← query fun w => findUserById w.db ctx.now id
  let target ← orFail found (AppError.notFound "User not found")
  onApp (assertCanAdministerTarget ctx actor.row.id id)
  swallow do
    outcome env.guacDb
    deps.removeUserResources target.row.id
  onApp (mapError (fun e => AppError.validation e.message) (deleteGuarded ctx target.row.id))
  write fun w => w.deleteGuacUser target.row.id

/-- `POST /guacamole/users/:id/direct-login`; `password` is what the parser makes of the body. -/
def postDirectLogin (id : UserId) (password : Except AppError String) : GuacProgram Unit := do
  let _ ← onApp (requirePermission ctx .usersManage)
  let found ← query fun w => findUserById w.db ctx.now id
  let target ← orFail found (AppError.notFound "User not found")
  let password ← outcome password
  outcome env.guacDb
  deps.setGuacDirectLoginPassword env.draw id target.row.username password

/-- `DELETE /guacamole/users/:id/direct-login`. -/
def deleteDirectLogin (id : UserId) : GuacProgram Unit := do
  let _ ← onApp (requirePermission ctx .usersManage)
  let found ← query fun w => findUserById w.db ctx.now id
  let _ ← orFail found (AppError.notFound "User not found")
  outcome env.guacDb
  let record ← query fun w => w.findUserRecord id
  deps.disableGuacDirectLogin env.draw id
  ensure record.isSome (AppError.notFound "User has no Guacamole account yet")

end handlers

inductive AccountRequest
  | putUser (id : UserId) (body : UpdateUserBody)
  | deleteUser (id : UserId)
  | postDirectLogin (id : UserId) (password : Except AppError String)
  | deleteDirectLogin (id : UserId)

namespace AccountRequest

def target : AccountRequest → UserId
  | .putUser id _ => id
  | .deleteUser id => id
  | .postDirectLogin id _ => id
  | .deleteDirectLogin id => id

def isDirectLogin : AccountRequest → Bool
  | .postDirectLogin _ _ => true
  | .deleteDirectLogin _ => true
  | _ => false

def program (deps : GuacamoleServiceDeps) (ctx : RequestContext) (env : GuacContext) :
    AccountRequest → GuacProgram Unit
  | .putUser id body => putUserSynced deps ctx env id body
  | .deleteUser id => deleteUserSynced deps ctx env id
  | .postDirectLogin id password => ProxVM.postDirectLogin deps ctx env id password
  | .deleteDirectLogin id => ProxVM.deleteDirectLogin deps ctx env id

end AccountRequest

/-! ## What a handler leaves -/

section frames

variable {α β : Type} {deps : GuacamoleServiceDeps} {ctx : RequestContext} {env : GuacContext}
  {userId : UserId} {w w' : GuacWorld}

@[simp] theorem after_onApp {m : Handler α} {Q : Except AppError α → GuacWorld → Prop} :
    after (onApp m) Q w ↔ after m (fun r db => Q r { w with db }) w.db := Iff.rfl

def KeepsOtherRecords (userId : UserId) (m : GuacProgram α) : Prop :=
  ∀ w, after m (fun _ w' => ∀ other, other ≠ userId →
    w'.findUserRecord other = w.findUserRecord other) w

theorem KeepsOtherRecords.bind {m : GuacProgram α} {f : α → GuacProgram β}
    (hm : KeepsOtherRecords userId m) (hf : ∀ a, KeepsOtherRecords userId (f a)) :
    KeepsOtherRecords userId (m >>= f) := by
  intro w
  rw [after_bind]
  refine after_mono (hm w) fun r w₁ h₁ => ?_
  cases r with
  | error e => exact h₁
  | ok a =>
      exact after_mono (hf a w₁) fun _ _ h₂ other hne => (h₂ other hne).trans (h₁ other hne)

theorem keepsOtherRecords_query {f : GuacWorld → α} : KeepsOtherRecords userId (query f) :=
  fun _ _ _ => rfl

theorem keepsOtherRecords_pure {a : α} : KeepsOtherRecords userId (pure a) := fun _ _ _ => rfl

theorem keepsOtherRecords_orFail {o : Option α} {e : AppError} : KeepsOtherRecords userId (orFail o e) := by
  intro w
  rw [after_orFail]
  exact ⟨fun _ _ _ _ => rfl, fun _ _ _ => rfl⟩

theorem keepsOtherRecords_sql {m : Sql α} : KeepsOtherRecords userId (sql m) := by
  intro w
  rw [after_sql]
  exact ⟨fun _ _ _ _ _ => rfl, fun _ _ _ => rfl⟩

theorem keepsOtherRecords_updateGuacUser {ciphertext : String} {enabled : Bool} :
    KeepsOtherRecords userId (write fun w => w.updateGuacUser userId ciphertext enabled) := by
  intro w
  rw [after_write]
  intro other hne
  simp only [GuacWorld.findUserRecord, GuacWorld.updateGuacUser, Table.find?_updateWhere]
  cases hfound : w.guacUsers.find? other with
  | none => rfl
  | some r =>
      have hkey : r.userId = other := Table.key_of_find? hfound
      rw [Option.map_some, if_neg]
      rw [decide_eq_true_eq, hkey]
      exact hne

theorem keepsOtherRecords_deleteGuacUser :
    KeepsOtherRecords userId (write fun w => w.deleteGuacUser userId) := by
  intro w
  rw [after_write]
  intro other hne
  refine Table.find?_congr fun r hr => ?_
  simp only [GuacWorld.deleteGuacUser, Table.mem_deleteWhere, decide_eq_false_iff_not, hr]
  exact and_iff_left hne

theorem keepsOtherRecords_ensureGuacUser (draw : Draw) (appUsername : String) :
    KeepsOtherRecords userId (deps.ensureGuacUser draw userId appUsername) := by
  have hrest : ∀ password, KeepsOtherRecords userId (do
      let _ ← sql (deps.guacDb.createUser (guacUsernameOf appUsername) password draw.createSalt)
      sql (deps.guacDb.setUserPassword (guacUsernameOf appUsername) password draw.setSalt)
      sql (deps.guacDb.grantRootGroupRead (guacUsernameOf appUsername))
      tryWrite
        (fun w => w.upsertGuacUser userId (guacUsernameOf appUsername) (deps.encrypt password))
        (AppError.database "duplicate key value violates unique constraint")
      let row ← query fun w => w.findUserRecord userId
      orFail row (AppError.database "no row returned") : GuacProgram GuacamoleUserRow) := by
    intro password
    refine keepsOtherRecords_sql.bind fun _ => keepsOtherRecords_sql.bind fun _ =>
      keepsOtherRecords_sql.bind fun _ => KeepsOtherRecords.bind ?_ fun _ =>
        keepsOtherRecords_query.bind fun _ => keepsOtherRecords_orFail
    intro w
    rw [after_tryWrite]
    refine ⟨fun w' hput other hne => ?_, fun _ _ _ => rfl⟩
    unfold GuacWorld.upsertGuacUser at hput
    split at hput
    · cases hput
      exact Table.find?_put_of_ne _ hne.symm
    · cases hput
  refine keepsOtherRecords_query.bind fun existing => ?_
  cases existing with
  | none => exact keepsOtherRecords_pure.bind hrest
  | some row => exact keepsOtherRecords_orFail.bind hrest

theorem keepsOtherRecords_setGuacDirectLoginPassword (draw : Draw) (appUsername password : String) :
    KeepsOtherRecords userId (deps.setGuacDirectLoginPassword draw userId appUsername password) := by
  refine KeepsOtherRecords.bind (fun w => ?_) fun _ => keepsOtherRecords_query.bind fun found => ?_
  · rw [after_ensure]
    exact ⟨fun _ _ _ => rfl, fun _ _ _ => rfl⟩
  · have hset : ∀ record : GuacamoleUserRow, KeepsOtherRecords userId (do
        sql (deps.guacDb.setUserPassword record.guacUsername password draw.setSalt)
        write fun w => w.updateGuacUser userId (deps.encrypt password) true : GuacProgram Unit) :=
      fun _ => keepsOtherRecords_sql.bind fun _ => keepsOtherRecords_updateGuacUser
    cases found with
    | none => exact (keepsOtherRecords_ensureGuacUser draw appUsername).bind hset
    | some record => exact keepsOtherRecords_pure.bind hset

theorem keepsOtherRecords_disableGuacDirectLogin (draw : Draw) :
    KeepsOtherRecords userId (deps.disableGuacDirectLogin draw userId) := by
  refine keepsOtherRecords_query.bind fun found => ?_
  cases found with
  | none => exact keepsOtherRecords_pure
  | some record => exact keepsOtherRecords_sql.bind fun _ => keepsOtherRecords_updateGuacUser

theorem keepsOtherRecords_setGuacUserDisabled (disabled : Bool) :
    KeepsOtherRecords userId (deps.setGuacUserDisabled userId disabled) := by
  refine keepsOtherRecords_query.bind fun found => ?_
  cases found with
  | none => exact keepsOtherRecords_pure
  | some record => exact keepsOtherRecords_sql

theorem keepsOtherRecords_removeUserResources :
    KeepsOtherRecords userId (deps.removeUserResources userId) := by
  refine keepsOtherRecords_query.bind fun found => ?_
  cases found with
  | none => exact keepsOtherRecords_pure
  | some record => exact keepsOtherRecords_sql.bind fun _ => keepsOtherRecords_deleteGuacUser

end frames

/-! ## The others are left alone -/

/-- Different users have different Guacamole accounts, and the records name the accounts of their
users. -/
structure Apart (w : GuacWorld) : Prop where
  distinct : DistinctAccounts w
  records : ∀ r ∈ w.guacUsers, ∃ u ∈ w.db.users, u.id = r.userId ∧
    r.guacUsername = guacUsernameOf u.username

structure Targets (user : UserRow) (w w' : GuacWorld) : Prop where
  rows : ∀ other, other ≠ user.id → w'.db.users.find? other = w.db.users.find? other
  roles : ∀ ur : UserRoleRow, ur.userId ≠ user.id → (ur ∈ w'.db.userRoles ↔ ur ∈ w.db.userRoles)
  records : ∀ other, other ≠ user.id → w'.findUserRecord other = w.findUserRecord other
  accounts : ∀ name, name ≠ guacUsernameOf user.username →
    w'.guac.account name = w.guac.account name
  name : ∀ u ∈ w'.db.users, u.id = user.id → u.username = user.username
  record : ∀ r ∈ w'.guacUsers, r.userId = user.id → r.guacUsername = guacUsernameOf user.username

section targets

variable {deps : GuacamoleServiceDeps} {user : UserRow} {w w' w'' : GuacWorld}

theorem Targets.refl (hapart : Apart w) (huser : user ∈ w.db.users) : Targets user w w := by
  refine ⟨fun _ _ => rfl, fun _ _ => Iff.rfl, fun _ _ => rfl, fun _ _ => rfl, ?_, ?_⟩
  · intro u hu hid
    rw [Table.eq_of_key_eq hu huser hid]
  · intro r hr hid
    obtain ⟨u, hu, huid, hname⟩ := hapart.records r hr
    rw [hname, Table.eq_of_key_eq hu huser (huid.trans hid)]

theorem Targets.writeDb (h : Targets user w w') {db : Db}
    (hrows : ∀ other, other ≠ user.id → db.users.find? other = w'.db.users.find? other)
    (hroles : ∀ ur : UserRoleRow, ur.userId ≠ user.id → (ur ∈ db.userRoles ↔ ur ∈ w'.db.userRoles))
    (hname : ∀ u ∈ db.users, u.id = user.id → u.username = user.username) :
    Targets user w { w' with db } where
  rows other hne := (hrows other hne).trans (h.rows other hne)
  roles ur hne := (hroles ur hne).trans (h.roles ur hne)
  records := h.records
  accounts := h.accounts
  name := hname
  record := h.record

theorem Targets.updateUser (h : Targets user w w') (f : UserRow → UserRow)
    (hid : ∀ u, (f u).id = u.id) (hname : ∀ u, (f u).username = u.username) : Targets user w { w' with
      db := { w'.db with
        users := w'.db.users.updateWhere (fun u => decide (u.id = user.id)) f hid } } := by
  refine h.writeDb (fun other hne => ?_) (fun _ _ => Iff.rfl) fun u hu huid => ?_
  · rw [Table.find?_updateWhere]
    cases hfound : w'.db.users.find? other with
    | none => rfl
    | some u =>
        have hkey : u.id = other := Table.key_of_find? hfound
        rw [Option.map_some, if_neg]
        rw [decide_eq_true_eq, hkey]
        exact hne
  · simp only [Table.mem_updateWhere] at hu
    obtain ⟨u₀, hu₀, rfl⟩ := hu
    split at huid
    · rename_i hmatch
      rw [if_pos hmatch, hname]
      exact h.name u₀ hu₀ (of_decide_eq_true hmatch)
    · rename_i hmatch
      rw [if_neg hmatch]
      exact h.name u₀ hu₀ huid

theorem Targets.deleteUserRoles (h : Targets user w w') :
    Targets user w { w' with db := w'.db.deleteUserRoles user.id } := by
  refine h.writeDb (fun _ _ => rfl) (fun ur hne => ?_) h.name
  rw [Db.deleteUserRoles, Table.mem_deleteWhere, decide_eq_false_iff_not]
  exact and_iff_left hne

theorem Targets.insertUserRole (h : Targets user w w') {db : Db} {roleId : RoleId}
    {expiresAt : Option Time} (hins : w'.db.insertUserRole ⟨user.id, roleId, expiresAt⟩ = some db) :
    Targets user w { w' with db } := by
  obtain ⟨userRoles, rfl, -, hmem⟩ := Db.insertUserRole_eq_some hins
  refine h.writeDb (fun _ _ => rfl) (fun ur hne => ?_) h.name
  rw [hmem]
  refine or_iff_left ?_
  rintro rfl
  exact hne rfl

theorem Targets.within (h : Targets user w w')
    (hwithin : Within user.id (guacUsernameOf user.username) w' w'')
    (hrecords : ∀ other, other ≠ user.id → w''.findUserRecord other = w'.findUserRecord other) :
    Targets user w w'' where
  rows other hne := by
    rw [hwithin.db]
    exact h.rows other hne
  roles ur hne := by
    rw [hwithin.db]
    exact h.roles ur hne
  records other hne := (hrecords other hne).trans (h.records other hne)
  accounts name hne := (hwithin.others name hne).trans (h.accounts name hne)
  name := by
    rw [hwithin.db]
    exact h.name
  record r hr hid := by
    rcases hwithin.records r hr with ⟨-, hname⟩ | ⟨r₀, hr₀, hid₀, hname₀⟩
    · exact hname
    · exact hname₀.symm.trans (h.record r₀ hr₀ (hid₀.trans hid))

theorem Targets.apart (h : Targets user w w') (hapart : Apart w) (huser : user ∈ w.db.users)
    (hpresent : (w'.db.users.find? user.id).isSome ∨ w'.findUserRecord user.id = none) : Apart w' := by
  have hname : ∀ u ∈ w'.db.users, ∃ u₀ ∈ w.db.users, u₀.id = u.id ∧ u₀.username = u.username := by
    intro u hu
    by_cases hid : u.id = user.id
    · exact ⟨user, huser, hid.symm, (h.name u hu hid).symm⟩
    · have hfound := (h.rows u.id hid).symm.trans (Table.find?_of_mem hu)
      exact ⟨u, Table.mem_of_find? hfound, rfl, rfl⟩
  refine ⟨fun u hu v hv hne => ?_, fun r hr => ?_⟩
  · obtain ⟨u₀, hu₀, hid, hsame⟩ := hname u hu
    obtain ⟨v₀, hv₀, hid', hsame'⟩ := hname v hv
    rw [← hsame, ← hsame']
    exact hapart.distinct u₀ hu₀ v₀ hv₀ fun heq => hne (hid.symm.trans (heq.trans hid'))
  · by_cases hid : r.userId = user.id
    · rcases hpresent with hsome | hnone
      · obtain ⟨u, hu⟩ := Option.isSome_iff_exists.mp hsome
        have hmem := Table.mem_of_find? hu
        have hkey : u.id = user.id := Table.key_of_find? hu
        refine ⟨u, hmem, hkey.trans hid.symm, ?_⟩
        rw [h.record r hr hid, h.name u hmem hkey]
      · exact absurd hid (Table.find?_eq_none_iff.mp hnone r hr)
    · have hold := (h.records r.userId hid).symm.trans (Table.find?_of_mem hr)
      obtain ⟨u, hu, huid, hrname⟩ := hapart.records r (Table.mem_of_find? hold)
      have hne : u.id ≠ user.id := fun heq => hid (huid.symm.trans heq)
      have hfound := (h.rows u.id hne).trans (Table.find?_of_mem hu)
      exact ⟨u, Table.mem_of_find? hfound, huid, hrname⟩

end targets

/-! ## Requests -/

def Upward (db : Db) (ctx : RequestContext) (target : UserId) : Prop :=
  target ≠ ctx.userId ∧ ∃ p, (resolveEffectiveAccess db ctx.now target).has p = true ∧
    (resolveEffectiveAccess db ctx.now ctx.userId).has p = false

def Administered (target : UserId) (w w' : GuacWorld) : Prop :=
  w' = w ∨ ∃ user ∈ w.db.users, user.id = target ∧ Targets user w w' ∧
    ((w'.db.users.find? user.id).isSome ∨ w'.findUserRecord user.id = none)

section requests

variable {deps : GuacamoleServiceDeps} {ctx : RequestContext} {env : GuacContext} {user : UserRow}
  {id : UserId} {w w' : GuacWorld}

def Holding (user : UserRow) (w w' : GuacWorld) : Prop :=
  Targets user w w' ∧ (w'.db.users.find? user.id).isSome

theorem Holding.updateUser (h : Holding user w w') (f : UserRow → UserRow)
    (hid : ∀ u, (f u).id = u.id) (hname : ∀ u, (f u).username = u.username) : Holding user w { w' with
      db := { w'.db with
        users := w'.db.users.updateWhere (fun u => decide (u.id = user.id)) f hid } } := by
  refine ⟨h.1.updateUser f hid hname, ?_⟩
  rw [Table.find?_updateWhere, Option.isSome_map]
  exact h.2

theorem Holding.of_within (h : Holding user w w') {α : Type} {m : GuacProgram α}
    (hwithin : after m (fun _ w'' => Within user.id (guacUsernameOf user.username) w' w'') w')
    (hrecords : KeepsOtherRecords user.id m) : after m (fun _ w'' => Holding user w w'') w' := by
  have hboth : after m (fun _ w'' => Within user.id (guacUsernameOf user.username) w' w'' ∧
      ∀ other, other ≠ user.id → w''.findUserRecord other = w'.findUserRecord other) w' :=
    ⟨hwithin, hrecords w'⟩
  refine after_mono hboth fun _ w'' ⟨hwithin', hrecords'⟩ => ⟨h.1.within hwithin' hrecords', ?_⟩
  rw [hwithin'.db]
  exact h.2

theorem Holding.recorded (h : Holding user w w') :
    w'.Recorded user.id (guacUsernameOf user.username) := fun record hrecord =>
  h.1.record record (Table.mem_of_find? hrecord) (Table.key_of_find? hrecord)

theorem Holding.start (hapart : Apart w) (huser : user ∈ w.db.users) : Holding user w w :=
  ⟨Targets.refl hapart huser, by rw [Table.find?_of_mem huser]; rfl⟩

theorem Holding.administered (h : Holding user w w') (huser : user ∈ w.db.users) : Administered user.id w w' :=
  .inr ⟨user, huser, rfl, h.1, .inl h.2⟩

/-! The parts of `PUT /users/:id` on the application's tables. -/

variable {actorId : UserId} {active : Option Bool} {body : UpdateUserBody}

theorem Holding.updateUserActive {target : UserWithRoles} (h : Holding target.row w w') :
    after (ProxVM.updateUserActive ctx actorId target active)
      (fun _ db => Holding target.row w { w' with db }) w'.db :=
  after_updateUserActive (I := fun db => Holding target.row w { w' with db }) h
    fun active _ => h.updateUser (fun u => { u with active }) (fun _ => rfl) fun _ => rfl

theorem Holding.updateUserRole {target : UserWithRoles} {role : Option Role}
    (h : Holding target.row w w') : after (ProxVM.updateUserRole ctx actorId target role)
      (fun _ db => Holding target.row w { w' with db }) w'.db := by
  refine after_updateUserRole (I := fun db => Holding target.row w { w' with db }) h
    fun roles _ => ?_
  refine after_setRoles (I := fun db => Holding target.row w { w' with db })
    ⟨h.1.deleteUserRoles, h.2⟩ fun db db' role hins hheld => ?_
  obtain ⟨userRoles, hdb, -, -⟩ := Db.insertUserRole_eq_some hins
  refine ⟨hheld.1.insertUserRole hins, ?_⟩
  rw [hdb]
  exact hheld.2

theorem Holding.updateUserProfile (h : Holding user w w') : after (ProxVM.updateUserProfile user.id body)
      (fun _ db => Holding user w { w' with db }) w'.db := by
  refine after_updateUserProfile (I := fun db => Holding user w { w' with db }) h ?_ ?_
  · intro db hheld passwordHash
    exact hheld.updateUser (fun u => { u with passwordHash }) (fun _ => rfl) fun _ => rfl
  · intro db hheld email givenName
    exact hheld.updateUser
      (fun u => { u with email := email <|> u.email, givenName := givenName <|> u.givenName })
      (fun _ => rfl) fun _ => rfl

theorem after_syncGuacUserDisabled (h : Holding user w w') :
    after (syncGuacUserDisabled deps env user.id active) (fun _ w'' => Holding user w w'') w' := by
  unfold syncGuacUserDisabled
  cases active with
  | none => exact h
  | some active =>
      simp only [after_swallow, after_bind, after_outcome]
      cases env.guacDb with
      | error e => exact h
      | ok _ =>
          exact h.of_within (after_setGuacUserDisabled (!active) h.recorded)
            (keepsOtherRecords_setGuacUserDisabled (!active))

theorem administered_refl : Administered id w w := .inl rfl

theorem mem_of_findUserById {target : UserWithRoles} (hfind : findUserById w.db ctx.now id = some target) :
    target.row ∈ w.db.users ∧ target.row.id = id :=
  ⟨(findUserById_eq_some hfind).1, (findUserById_eq_some hfind).2.1⟩

theorem after_putUserSynced (hapart : Apart w) :
    after (putUserSynced deps ctx env id body) (fun _ w' => Administered id w w') w := by
  simp only [putUserSynced, after_bind, after_onApp]
  refine after_requirePermission (fun actor _ _ => ?_) fun _ => administered_refl
  simp only [after_ensure, after_query, after_orFail]
  refine ⟨fun _ => ⟨fun target htarget => ?_, fun _ => administered_refl⟩, fun _ => administered_refl⟩
  obtain ⟨hmem, rfl⟩ := mem_of_findUserById htarget
  refine after_assertCanAdministerTarget (fun _ => ?_) fun _ => administered_refl
  have hstart : Holding target.row w w := .start hapart hmem
  refine after_mono hstart.updateUserActive fun r db₁ h₁ => ?_
  cases r with
  | error e => exact h₁.administered hmem
  | ok _ =>
      refine after_mono (after_syncGuacUserDisabled h₁) fun r w₂ h₂ => ?_
      cases r with
      | error e => exact h₂.administered hmem
      | ok _ =>
          refine after_mono h₂.updateUserRole fun r db₃ h₃ => ?_
          cases r with
          | error e => exact h₃.administered hmem
          | ok _ => exact after_mono h₃.updateUserProfile fun _ _ h₄ => h₄.administered hmem

theorem after_deleteGuarded_or {db : Db} {I : Except AppError Unit → Db → Prop}
    (hdelete : I (.ok ()) (db.deleteUser id)) (hfail : ∀ e, I (.error e) db) :
    after (deleteGuarded ctx id) I db := by
  simp only [deleteGuarded, after_bind]
  refine after_requireUserById (fun target _ => ?_) hfail
  simp only [after_query, after_ensure, after_write]
  exact ⟨fun _ => ⟨fun _ => hdelete, fun _ => hfail _⟩, fun _ => hfail _⟩

theorem Holding.deleted (h : Holding user w w') :
    Targets user w ({ w' with db := w'.db.deleteUser user.id }.deleteGuacUser user.id) ∧
      ({ w' with db := w'.db.deleteUser user.id }.deleteGuacUser user.id).findUserRecord user.id =
        none := by
  have hrows : Targets user w { w' with db := w'.db.deleteUser user.id } := by
    refine h.1.writeDb (fun other hne => ?_) (fun ur hne => ?_) fun u hu => ?_
    · refine Table.find?_congr fun u hu => ?_
      simp only [Db.deleteUser, Table.mem_deleteWhere, decide_eq_false_iff_not, hu]
      exact and_iff_left hne
    · simp only [Db.deleteUser, Table.mem_deleteWhere, decide_eq_false_iff_not]
      exact and_iff_left hne
    · exact h.1.name u (Table.mem_deleteWhere.mp hu).1
  refine ⟨hrows.within GuacWorld.deleteGuacUser_within fun other hne => ?_, ?_⟩
  · exact keepsOtherRecords_deleteGuacUser _ other hne
  · refine Table.find?_eq_none_iff.mpr fun r hr => ?_
    exact of_decide_eq_false (Table.mem_deleteWhere.mp hr).2

theorem after_deleteUserSynced (hapart : Apart w) :
    after (deleteUserSynced deps ctx env id) (fun _ w' => Administered id w w') w := by
  simp only [deleteUserSynced, after_bind, after_onApp]
  refine after_requirePermission (fun actor _ _ => ?_) fun _ => administered_refl
  simp only [after_ensure, after_query, after_orFail]
  refine ⟨fun _ => ⟨fun target htarget => ?_, fun _ => administered_refl⟩, fun _ => administered_refl⟩
  obtain ⟨hmem, rfl⟩ := mem_of_findUserById htarget
  refine after_assertCanAdministerTarget (fun _ => ?_) fun _ => administered_refl
  have hstart : Holding target.row w w := .start hapart hmem
  have hremoved : after (swallow do
      outcome env.guacDb
      deps.removeUserResources target.row.id : GuacProgram Unit)
        (fun _ w' => Holding target.row w w') w := by
    simp only [after_swallow, after_bind, after_outcome]
    cases env.guacDb with
    | error e => exact hstart
    | ok _ =>
        exact hstart.of_within (after_removeUserResources hstart.recorded)
          keepsOtherRecords_removeUserResources
  refine after_mono hremoved fun r w₁ h₁ => ?_
  cases r with
  | error e => exact h₁.administered hmem
  | ok _ =>
      simp only [after_mapError]
      refine after_deleteGuarded_or ?_ fun _ => h₁.administered hmem
      exact .inr ⟨target.row, hmem, rfl, h₁.deleted.1, .inr h₁.deleted.2⟩

theorem after_postDirectLogin {password : Except AppError String} (hapart : Apart w) :
    after (postDirectLogin deps ctx env id password) (fun _ w' => Administered id w w') w := by
  simp only [postDirectLogin, after_bind, after_onApp]
  refine after_requirePermission (fun actor _ _ => ?_) fun _ => administered_refl
  simp only [after_query, after_orFail, after_outcome]
  refine ⟨fun target htarget => ?_, fun _ => administered_refl⟩
  obtain ⟨hmem, rfl⟩ := mem_of_findUserById htarget
  have hstart : Holding target.row w w := .start hapart hmem
  cases password with
  | error e => exact administered_refl
  | ok password =>
      cases env.guacDb with
      | error e => exact administered_refl
      | ok _ =>
          exact after_mono (hstart.of_within
            (after_setGuacDirectLoginPassword env.draw target.row.username password hstart.recorded)
            (keepsOtherRecords_setGuacDirectLoginPassword env.draw target.row.username password))
            fun _ _ h => h.administered hmem

theorem after_deleteDirectLogin (hapart : Apart w) :
    after (deleteDirectLogin deps ctx env id) (fun _ w' => Administered id w w') w := by
  simp only [deleteDirectLogin, after_bind, after_onApp]
  refine after_requirePermission (fun actor _ _ => ?_) fun _ => administered_refl
  simp only [after_query, after_orFail, after_outcome]
  refine ⟨fun target htarget => ?_, fun _ => administered_refl⟩
  obtain ⟨hmem, rfl⟩ := mem_of_findUserById htarget
  have hstart : Holding target.row w w := .start hapart hmem
  cases env.guacDb with
  | error e => exact administered_refl
  | ok _ =>
      refine after_mono (hstart.of_within (after_disableGuacDirectLogin env.draw hstart.recorded)
        (keepsOtherRecords_disableGuacDirectLogin env.draw)) fun r w₁ h₁ => ?_
      cases r with
      | error e => exact h₁.administered hmem
      | ok _ =>
          rw [after_ensure]
          exact ⟨fun _ => h₁.administered hmem, fun _ => h₁.administered hmem⟩

/-- **Whatever the request, the others are left alone.** -/
theorem after_program (hapart : Apart w) (request : AccountRequest) :
    after (request.program deps ctx env) (fun _ w' => Administered request.target w w') w := by
  cases request with
  | putUser id body => exact after_putUserSynced hapart
  | deleteUser id => exact after_deleteUserSynced hapart
  | postDirectLogin id password => exact after_postDirectLogin hapart
  | deleteDirectLogin id => exact after_deleteDirectLogin hapart

def Refused (w : GuacWorld) (r : Except AppError Unit) (w' : GuacWorld) : Prop :=
  r.isOk = false ∧ w' = w

theorem refused_self {e : AppError} : Refused w (.error e) w := ⟨rfl, rfl⟩

/-- **The two requests with the guard refuse to operate upward**, and change nothing then. -/
theorem after_program_upward {request : AccountRequest} (hguarded : request.isDirectLogin = false)
    (hupward : Upward w.db ctx request.target) : after (request.program deps ctx env) (Refused w) w := by
  obtain ⟨hne, p, htarget, hactor⟩ := hupward
  -- The guard compares the effective permissions of the two.
  have hovertakes : ∀ actor : UserWithRoles, actor.row.id = ctx.userId →
      ¬ ∀ p, (resolveEffectiveAccess w.db ctx.now request.target).has p = true →
        (resolveEffectiveAccess w.db ctx.now actor.row.id).has p = true := by
    intro actor hid hall
    have hhas := hall p htarget
    rw [hid, hactor] at hhas
    cases hhas
  cases request with
  | putUser id body =>
      simp only [AccountRequest.program, putUserSynced, after_bind, after_onApp]
      refine after_requirePermission (fun actor hid _ => ?_) fun _ => refused_self
      simp only [after_ensure, after_query, after_orFail]
      refine ⟨fun _ => ⟨fun target htarget => ?_, fun _ => refused_self⟩, fun _ => refused_self⟩
      refine after_assertCanAdministerTarget (fun hall => ?_) fun _ => refused_self
      exact absurd hall (hovertakes actor hid)
  | deleteUser id =>
      simp only [AccountRequest.program, deleteUserSynced, after_bind, after_onApp]
      refine after_requirePermission (fun actor hid _ => ?_) fun _ => refused_self
      simp only [after_ensure, after_query, after_orFail]
      refine ⟨fun _ => ⟨fun target htarget => ?_, fun _ => refused_self⟩, fun _ => refused_self⟩
      refine after_assertCanAdministerTarget (fun hall => ?_) fun _ => refused_self
      exact absurd hall (hovertakes actor hid)
  | postDirectLogin id password => cases hguarded
  | deleteDirectLogin id => cases hguarded

end requests

/-! ## Runs -/

structure AccountStep where
  ctx : RequestContext
  env : GuacContext
  request : AccountRequest

def AccountStep.run (deps : GuacamoleServiceDeps) (step : AccountStep) (w : GuacWorld) :
    Except AppError Unit × GuacWorld :=
  exec (step.request.program deps step.ctx step.env) w

def Along (deps : GuacamoleServiceDeps) (P : GuacWorld → AccountStep → Prop) :
    List AccountStep → GuacWorld → Prop
  | [], _ => True
  | step :: steps, w => P w step ∧ Along deps P steps (step.run deps w).2

/-- The row of the user, with the password, the active flag and the profile, the roles, the record
and the Guacamole account are as before. -/
structure Spared (id : UserId) (w w' : GuacWorld) : Prop where
  row : w'.db.users.find? id = w.db.users.find? id
  roles : ∀ ur : UserRoleRow, ur.userId = id → (ur ∈ w'.db.userRoles ↔ ur ∈ w.db.userRoles)
  record : w'.findUserRecord id = w.findUserRecord id
  account : ∀ u ∈ w.db.users, u.id = id →
    w'.guac.account (guacUsernameOf u.username) = w.guac.account (guacUsernameOf u.username)

/-- The request fails when it is about a user who holds a permission that the actor lacks, and
spares every such user. -/
def NotUpward (deps : GuacamoleServiceDeps) (w : GuacWorld) (step : AccountStep) : Prop :=
  (Upward w.db step.ctx step.request.target → (step.run deps w).1.isOk = false) ∧
    ∀ id, Upward w.db step.ctx id → Spared id w (step.run deps w).2

def DirectLoginAllowed (w : GuacWorld) (step : AccountStep) : Prop :=
  step.request.isDirectLogin = true → ¬ Upward w.db step.ctx step.request.target

section runs

variable {deps : GuacamoleServiceDeps} {step : AccountStep} {target : UserId} {w w' : GuacWorld}

theorem Spared.refl (id : UserId) : Spared id w w :=
  ⟨rfl, fun _ _ => Iff.rfl, rfl, fun _ _ _ => rfl⟩

theorem Administered.spared (h : Administered target w w') (hapart : Apart w) {id : UserId} (hne : id ≠ target) :
    Spared id w w' := by
  rcases h with rfl | ⟨user, huser, rfl, htargets, -⟩
  · exact Spared.refl id
  · refine ⟨htargets.rows id hne, fun ur hid => htargets.roles ur (hid ▸ hne),
      htargets.records id hne, fun u hu hid => htargets.accounts _ ?_⟩
    exact hapart.distinct u hu user huser (hid ▸ hne)

theorem Administered.apart (h : Administered target w w') (hapart : Apart w) : Apart w' := by
  rcases h with rfl | ⟨user, huser, -, htargets, hpresent⟩
  · exact hapart
  · exact htargets.apart hapart huser hpresent

theorem AccountStep.notUpward (hapart : Apart w) (hallowed : DirectLoginAllowed w step) :
    NotUpward deps w step := by
  have hadministered : Administered step.request.target w (step.run deps w).2 := after_program hapart step.request
  have hrefused : Upward w.db step.ctx step.request.target →
      Refused w (step.run deps w).1 (step.run deps w).2 := by
    intro hupward
    refine after_program_upward ?_ hupward
    rw [← Bool.not_eq_true]
    exact fun hdirect => hallowed hdirect hupward
  refine ⟨fun hupward => (hrefused hupward).1, fun id hupward => ?_⟩
  by_cases htarget : id = step.request.target
  · subst htarget
    rw [(hrefused hupward).2]
    exact Spared.refl step.request.target
  · exact hadministered.spared hapart htarget

/-- **No operating upward**, as long as nobody's direct login is changed by somebody who lacks one
of their permissions. -/
theorem no_operating_upward (deps : GuacamoleServiceDeps) (steps : List AccountStep) (w : GuacWorld)
    (hapart : Apart w) (hallowed : Along deps DirectLoginAllowed steps w) :
    Along deps (NotUpward deps) steps w := by
  induction steps generalizing w with
  | nil => trivial
  | cons step steps ih =>
      obtain ⟨hstep, hrest⟩ := hallowed
      have hadministered : Administered step.request.target w (step.run deps w).2 :=
        after_program hapart step.request
      exact ⟨AccountStep.notUpward hapart hstep, ih _ (hadministered.apart hapart) hrest⟩

end runs

/-! ## An installation -/

/-- `lead` may manage users.  `root` has a Guacamole account. -/
def leadWorld : GuacWorld :=
  (exec (sampleDeps.ensureGuacUser ⟨"secret", "00", "01"⟩ 10 "root")
    { sampleGuacWorld with
      db := { Db.sample with userPermissions := ⟨[⟨13, .usersManage, none⟩], by decide⟩ } }).2

/-- `lead` asks for a Guacamole password of `root`. -/
def leadSetsRootPassword : AccountStep :=
  ⟨⟨13, 5, 99⟩, ⟨.ok (), ⟨"drawn", "02", "03"⟩⟩, .postDirectLogin 10 (.ok "Known-Password-1")⟩

/-- `lead` asks to reset the password of `root`, and then one for the guest. -/
def leadTries : List AccountStep :=
  [⟨⟨13, 5, 99⟩, ⟨.ok (), ⟨"drawn", "02", "03"⟩⟩,
      .putUser 10 ⟨none, none, some "known", none, none⟩⟩,
    ⟨⟨13, 6, 98⟩, ⟨.ok (), ⟨"drawn", "04", "05"⟩⟩, .deleteUser 10⟩]

theorem apart_leadWorld : Apart leadWorld := by
  constructor
  · unfold DistinctAccounts
    decide +kernel
  · decide +kernel

theorem no_operating_upward_sample : Along sampleDeps (NotUpward sampleDeps) leadTries leadWorld :=
  no_operating_upward sampleDeps leadTries leadWorld apart_leadWorld
    ⟨nofun, nofun, trivial⟩

/-- `lead`, who may manage users, lacks what `root` holds.  The request succeeds, and the account of
`root` has the password that `lead` chose. -/
theorem direct_login_upward : (resolveEffectiveAccess leadWorld.db 5 13).has .usersManage = true ∧
      Upward leadWorld.db leadSetsRootPassword.ctx 10 ∧ Apart leadWorld ∧
      (leadSetsRootPassword.run sampleDeps leadWorld).1.isOk = true ∧
      ((leadSetsRootPassword.run sampleDeps leadWorld).2.guac.account "px_root").users.map
          Guac.UserRow.password = [sha256SaltedHashPassword sampleDeps.sha256 "Known-Password-1" "03"] ∧
      ¬ Along sampleDeps (NotUpward sampleDeps) [leadSetsRootPassword] leadWorld := by
  have hupward : Upward leadWorld.db leadSetsRootPassword.ctx 10 :=
    ⟨by decide, .rolesManage, by decide +kernel, by decide +kernel⟩
  have hok : (leadSetsRootPassword.run sampleDeps leadWorld).1.isOk = true := by decide +kernel
  refine ⟨by decide +kernel, hupward, apart_leadWorld, hok, by decide +kernel, fun hall => ?_⟩
  have hfails := hall.1.1 hupward
  rw [hok] at hfails
  cases hfails

end ProxVM
