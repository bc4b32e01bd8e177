import ProxVM.Iam.Users
import ProxVM.Routes.Iam

/-!
# The user routes

The writing handlers of `routes/users.ts`, the approval of a
registration (`services/registration.ts`) included.  Session and Guacamole token
revocation, which the handlers run on the side, write no modelled table.
-/

namespace ProxVM

open Tables Fallible

/-- `REGISTRATION_PENDING_MAX_MS`: 30 days. -/
def registrationPendingMaxMs : Nat := 30 * 86400000

structure CreateUserBody where
  username : String
  email : Option String
  givenName : Option String
  passwordHash : String
  role : Role
  deriving DecidableEq, Repr

/-- `POST /users`. -/
def postUsers (ctx : RequestContext) (body : CreateUserBody) : Handler Unit := do
  let actor ← requirePermission ctx .usersManage
  let existing ← query fun db => findUserByUsername db ctx.now body.username
  ensure existing.isNone (AppError.conflict "Username already exists")
  let permissions ← roleEffectivePermissions body.role.id
  assertMayConfer ctx actor.row.id permissions
  let _ ← createUser ctx
    { username := body.username, email := body.email, givenName := body.givenName,
      passwordHash := body.passwordHash, roles := [body.role] }
  pure ()

structure UpdateUserBody where
  active : Option Bool
  role : Option Role
  passwordHash : Option String
  email : Option String
  givenName : Option String
  deriving DecidableEq, Repr

/-- The `active` part of `PUT /users/:id`. -/
def updateUserActive (ctx : RequestContext) (actorId : UserId) (target : UserWithRoles)
    (active : Option Bool) : Handler Unit :=
  match active with
  | none => pure ()
  | some true => write fun db => db.setUserActive target.row.id true
  | some false => do
      ensure (decide (target.row.id ≠ actorId))
        (AppError.validation "You cannot disable your own account")
      let initial ← query fun db => isInitialAdmin db target.row.id
      ensure (!initial)
        (AppError.validation "The initial administrator account cannot be disabled.")
      let allowed ← canDeactivate ctx target.row.id
      ensure allowed (AppError.validation ("Cannot disable \"" ++ target.row.username ++
        "\": they are the only active administrator. Create or promote another administrator first."))
      write fun db => db.setUserActive target.row.id false

/-- The `role` part of `PUT /users/:id`. -/
def updateUserRole (ctx : RequestContext) (actorId : UserId) (target : UserWithRoles)
    (role : Option Role) : Handler Unit :=
  match role with
  | none => pure ()
  | some role => do
      ensure (!(decide (target.row.id = actorId) && decide (role ≠ Role.admin)))
        (AppError.validation "You cannot demote your own account")
      let permissions ← roleEffectivePermissions role.id
      assertMayConfer ctx actorId permissions
      mapError (fun e => AppError.validation e.message) (setRolesGuarded ctx target.row.id [role])

/-- The password and profile parts of `PUT /users/:id`. -/
def updateUserProfile (targetId : UserId) (body : UpdateUserBody) : Handler Unit := do
  match body.passwordHash with
  | none => pure ()
  | some passwordHash => write fun db => db.setUserPassword targetId passwordHash
  if body.email.isSome || body.givenName.isSome then
    write fun db => db.setUserProfile targetId body.email body.givenName
  else
    pure ()

/-- `PUT /users/:id`. -/
def putUser (ctx : RequestContext) (id : UserId) (body : UpdateUserBody) : Handler Unit := do
  let actor ← requirePermission ctx .usersManage
  -- The enumeration of the body's schema has no `GUEST`.
  ensure (decide (body.role ≠ some Role.guest)) invalidBody
  let found ← query fun db => findUserById db ctx.now id
  let target ← orFail found (AppError.notFound "User not found")
  assertCanAdministerTarget ctx actor.row.id id
  updateUserActive ctx actor.row.id target body.active
  updateUserRole ctx actor.row.id target body.role
  updateUserProfile target.row.id body

/-- `DELETE /users/:id`. -/
def deleteUser (ctx : RequestContext) (id : UserId) : Handler Unit := do
  let actor ← requirePermission ctx .usersManage
  ensure (decide (id ≠ actor.row.id)) (AppError.validation "You cannot delete your own account")
  let found ← query fun db => findUserById db ctx.now id
  let target ← orFail found (AppError.notFound "User not found")
  assertCanAdministerTarget ctx actor.row.id id
  mapError (fun e => AppError.validation e.message) (deleteGuarded ctx target.row.id)

def transaction {α : Type} (m : Handler α) : Handler α := fun db =>
  match m db with
  | (.ok a, db') => (.ok a, db')
  | (.error e, _) => (.error e, db)

/-- The transaction of `RegistrationService.approve` for a request that is found,
pending and fresh. -/
def approvePending (ctx : RequestContext) (row : RegistrationRow) (role : Role) : Handler Unit := do
  let taken ← query fun db => findUserByUsername db ctx.now row.username
  ensure taken.isNone (AppError.conflict "Username was taken while the request was pending")
  let _ ← createUser ctx
    { username := row.username, email := row.email, givenName := none,
      passwordHash := row.passwordHash, roles := [role] }
  write fun db => db.setRegistrationStatus row.id .approved

/-- `POST /registration-requests/:id/approve`. -/
def postRegistrationApprove (ctx : RequestContext) (id : Nat) (role : Role) : Handler Unit := do
  let actor ← requirePermission ctx .usersManage
  ensure (decide (role ≠ Role.guest)) invalidBody
  let permissions ← roleEffectivePermissions role.id
  assertMayConfer ctx actor.row.id permissions
  let found ← query fun db => db.registrationRequests.find? id
  let row ← orFail found (AppError.notFound "Registration request not found")
  ensure (decide (row.status = .pending)) 
    (AppError.conflict ("Request is already " ++ row.status.text))
  if row.createdAt + registrationPendingMaxMs < ctx.now then do
    write fun db => db.deleteRegistration id
    fail (AppError.conflict "Registration request has expired; please submit a new request")
  else
    transaction (approvePending ctx row role)

/-! ## Rules -/

section rules

variable {ctx : RequestContext} {db : Db} {I : Db → Prop}

theorem after_postUsers {body : CreateUserBody} (hsame : I db)
    (hcreate : ∀ input, after (createUser ctx input) (fun _ db' => I db') db) :
    after (postUsers ctx body) (fun _ db' => I db') db := by
  simp only [postUsers, after_bind]
  refine after_requirePermission (fun actor _ _ => ?_) fun _ => hsame
  simp only [after_query, after_ensure]
  refine ⟨fun _ => ?_, fun _ => hsame⟩
  refine after_roleEffectivePermissions (fun _ _ => ?_) fun _ => hsame
  refine after_assertMayConfer (fun _ => ?_) fun _ => hsame
  refine after_mono (hcreate _) fun r db' hdb' => ?_
  cases r <;> exact hdb'

theorem after_updateUserActive {actorId : UserId} {target : UserWithRoles}
    {active : Option Bool} (hsame : I db)
    (hactive : ∀ active, (active = false → isInitialAdmin db target.row.id = false) →
      I (db.setUserActive target.row.id active)) :
    after (updateUserActive ctx actorId target active) (fun _ db' => I db') db := by
  unfold updateUserActive
  cases active with
  | none => exact hsame
  | some active =>
      cases active with
      | true => exact hactive true (fun hfalse => by cases hfalse)
      | false =>
          simp only [after_bind, after_ensure, after_query, Bool.not_eq_true', Bool.not_eq_false']
          refine ⟨fun _ => ⟨fun hinitial => ?_, fun _ => hsame⟩, fun _ => hsame⟩
          refine after_canDeactivate (fun allowed _ => ?_) fun _ => hsame
          simp only [after_write]
          exact ⟨fun _ => hactive false fun _ => hinitial, fun _ => hsame⟩

theorem after_updateUserRole {actorId : UserId} {target : UserWithRoles}
    {role : Option Role} (hsame : I db) (hroles : ∀ roles, isInitialAdmin db target.row.id = false →
      after (setRoles target.row.id roles) (fun _ db' => I db') db) :
    after (updateUserRole ctx actorId target role) (fun _ db' => I db') db := by
  unfold updateUserRole
  cases role with
  | none => exact hsame
  | some role =>
      simp only [after_bind, after_ensure]
      refine ⟨fun _ => ?_, fun _ => hsame⟩
      refine after_roleEffectivePermissions (fun _ _ => ?_) fun _ => hsame
      refine after_assertMayConfer (fun _ => ?_) fun _ => hsame
      rw [after_mapError]
      refine after_mono (after_setRolesGuarded hsame fun hinitial => hroles [role] hinitial)
        fun r db' hdb' => ?_
      cases r <;> exact hdb'

theorem after_updateUserProfile {targetId : UserId} {body : UpdateUserBody} (hsame : I db)
    (hpassword : ∀ db, I db → ∀ h, I (db.setUserPassword targetId h))
    (hprofile : ∀ db, I db → ∀ email givenName, I (db.setUserProfile targetId email givenName)) :
    after (updateUserProfile targetId body) (fun _ db' => I db') db := by
  unfold updateUserProfile
  cases body.passwordHash with
  | none =>
      simp only [after_pure, after_ite, after_write]
      exact ⟨fun _ => hprofile db hsame _ _, fun _ => hsame⟩
  | some h =>
      have hset := hpassword db hsame h
      simp only [after_bind, after_pure, after_ite, after_write]
      exact ⟨fun _ => hprofile _ hset _ _, fun _ => hset⟩

theorem after_putUser {id : UserId} {body : UpdateUserBody} (hsame : I db)
    (hactive : ∀ db, I db → ∀ active, (active = false → isInitialAdmin db id = false) →
      I (db.setUserActive id active)) (hroles : ∀ db, I db → ∀ roles, isInitialAdmin db id = false →
      after (setRoles id roles) (fun _ db' => I db') db)
    (hpassword : ∀ db, I db → ∀ h, I (db.setUserPassword id h))
    (hprofile : ∀ db, I db → ∀ email givenName, I (db.setUserProfile id email givenName)) :
    after (putUser ctx id body) (fun _ db' => I db') db := by
  simp only [putUser, after_bind]
  refine after_requirePermission (fun actor _ _ => ?_) fun _ => hsame
  simp only [after_query, after_ensure, after_orFail]
  refine ⟨fun _ => ⟨fun target htarget => ?_, fun _ => hsame⟩, fun _ => hsame⟩
  obtain ⟨-, rfl, -⟩ := findUserById_eq_some htarget
  refine after_assertCanAdministerTarget (fun _ => ?_) fun _ => hsame
  refine after_mono (after_updateUserActive hsame (hactive db hsame)) fun r db₁ hdb₁ => ?_
  cases r with
  | error e => exact hdb₁
  | ok _ =>
      refine after_mono (after_updateUserRole hdb₁ (hroles db₁ hdb₁)) fun r db₂ hdb₂ => ?_
      cases r with
      | error e => exact hdb₂
      | ok _ => exact after_updateUserProfile hdb₂ hpassword hprofile

theorem after_deleteUser {id : UserId} (hsame : I db)
    (hdelete : isInitialAdmin db id = false → I (db.deleteUser id)) :
    after (deleteUser ctx id) (fun _ db' => I db') db := by
  simp only [deleteUser, after_bind]
  refine after_requirePermission (fun actor _ _ => ?_) fun _ => hsame
  simp only [after_query, after_ensure, after_orFail]
  refine ⟨fun _ => ⟨fun target htarget => ?_, fun _ => hsame⟩, fun _ => hsame⟩
  obtain ⟨-, rfl, -⟩ := findUserById_eq_some htarget
  refine after_assertCanAdministerTarget (fun _ => ?_) fun _ => hsame
  rw [after_mapError]
  refine after_mono (after_deleteGuarded hsame hdelete) fun r db' hdb' => ?_
  cases r <;> exact hdb'

theorem after_transaction {α : Type} {m : Handler α} {I : Db → Prop} {db : Db} (hsame : I db)
    (hbody : after m (fun _ db' => I db') db) : after (transaction m) (fun _ db' => I db') db := by
  simp only [after, exec, transaction, ExceptT.run, StateT.run] at hbody ⊢
  cases hm : m db with
  | mk r db' =>
      rw [hm] at hbody
      cases r with
      | ok a => exact hbody
      | error e => exact hsame

theorem after_postRegistrationApprove {id : Nat} {role : Role} (hsame : I db)
    (hexpired : I (db.deleteRegistration id))
    (hcreate : ∀ input, after (createUser ctx input) (fun _ db' => I db') db)
    (happroved : ∀ db, I db → ∀ rid, I (db.setRegistrationStatus rid .approved)) :
    after (postRegistrationApprove ctx id role) (fun _ db' => I db') db := by
  simp only [postRegistrationApprove, after_bind]
  refine after_requirePermission (fun actor _ _ => ?_) fun _ => hsame
  simp only [after_ensure]
  refine ⟨fun _ => ?_, fun _ => hsame⟩
  refine after_roleEffectivePermissions (fun _ _ => ?_) fun _ => hsame
  refine after_assertMayConfer (fun _ => ?_) fun _ => hsame
  simp only [after_query, after_orFail, after_ite, after_bind, after_write, after_fail]
  refine ⟨fun row _ => ⟨fun _ => ⟨fun _ => hexpired, fun _ => ?_⟩, fun _ => hsame⟩, fun _ => hsame⟩
  refine after_transaction hsame ?_
  simp only [approvePending, after_bind, after_query, after_ensure]
  refine ⟨fun _ => ?_, fun _ => hsame⟩
  refine after_mono (hcreate _) fun r db' hdb' => ?_
  cases r with
  | error e => exact hdb'
  | ok _ => exact happroved db' hdb' _

end rules

end ProxVM
