import ProxVM.Iam.Service
import ProxVM.Iam.Store

/-!
# `UsersService`, the writes

`services/users.ts`: creating users, replacing their roles, and the guards that
keep the initial administrator and the last active administrator in place.
-/

namespace ProxVM

open Tables Fallible

/-- `UsersService.requireById`. -/
def requireUserById (ctx : RequestContext) (userId : UserId) : Handler UserWithRoles := do
  let found ← query fun db => findUserById db ctx.now userId
  orFail found (AppError.notFound "User not found")

/-- `UsersService.setRoles`: drop every assignment, then insert the given roles
without expiry. -/
def setRoles (userId : UserId) (roles : List Role) : Handler Unit := do
  write fun db => db.deleteUserRoles userId
  forM roles fun role =>
    tryWrite (fun db => db.insertUserRole ⟨userId, role.id, none⟩)
      (AppError.database "insert or update on table \"user_roles\" violates a constraint")

structure CreateUserInput where
  username : String
  email : Option String
  givenName : Option String
  passwordHash : String
  roles : List Role
  deriving DecidableEq, Repr

/-- `UsersService.create`. -/
def createUser (ctx : RequestContext) (input : CreateUserInput) : Handler UserWithRoles := do
  tryWrite
    (fun db => db.insertUser
      { id := ctx.newId, username := input.username, email := input.email,
        givenName := input.givenName, passwordHash := input.passwordHash, active := true,
        isInitialAdmin := false, maxVms := none })
    (AppError.database "duplicate key value violates unique constraint")
  setRoles ctx.newId input.roles
  requireUserById ctx ctx.newId

def setRolesGuarded (ctx : RequestContext) (userId : UserId) (roles : List Role) :
    Handler Unit := do
  let target ← requireUserById ctx userId
  let initial ← query fun db => isInitialAdmin db userId
  ensure (!initial) (AppError.validation
    ("The initial administrator account \"" ++ target.row.username ++
      "\" is the system's root account. Its role cannot be changed."))
  let others ← query fun db => countActiveAdmins db ctx.now userId
  ensure (!(isAdmin target && decide (Role.admin ∉ roles) && decide (others = 0)))
    (AppError.validation ("Cannot demote \"" ++ target.row.username ++
      "\": they are the only active administrator. Create or promote another administrator first."))
  setRoles userId roles

def deleteGuarded (ctx : RequestContext) (userId : UserId) : Handler Unit := do
  let target ← requireUserById ctx userId
  let initial ← query fun db => isInitialAdmin db userId
  ensure (!initial) (AppError.validation
    ("The initial administrator account \"" ++ target.row.username ++ "\" cannot be deleted."))
  let others ← query fun db => countActiveAdmins db ctx.now userId
  ensure (!(isAdmin target && decide (others = 0)))
    (AppError.validation ("Cannot delete \"" ++ target.row.username ++
      "\": they are the only active administrator. Create or promote another administrator first."))
  write fun db => db.deleteUser userId

def canDeactivate (ctx : RequestContext) (userId : UserId) : Handler Bool := do
  let target ← requireUserById ctx userId
  let initial ← query fun db => isInitialAdmin db userId
  let others ← query fun db => countActiveAdmins db ctx.now userId
  pure (!initial && !(isAdmin target && decide (others = 0)))

section rules

variable {ctx : RequestContext} {db : Db}

variable {userId : UserId} {I : Db → Prop}

theorem after_requireUserById {Q : Except AppError UserWithRoles → Db → Prop}
    (hok : ∀ user, findUserById db ctx.now userId = some user → Q (.ok user) db)
    (herr : ∀ e, Q (.error e) db) : after (requireUserById ctx userId) Q db := by
  simp only [requireUserById, after_bind, after_query, after_orFail]
  exact ⟨fun user hfind => hok user hfind, fun _ => herr _⟩

theorem after_setRoles {userId : UserId} {roles : List Role} {I : Db → Prop}
    (hdelete : I (db.deleteUserRoles userId))
    (hinsert : ∀ db db' (role : Role), db.insertUserRole ⟨userId, role.id, none⟩ = some db' →
      I db → I db') : after (setRoles userId roles) (fun _ db' => I db') db := by
  simp only [setRoles, after_bind, after_write]
  refine after_forM (fun role _ db₁ hdb₁ => ?_) hdelete
  rw [after_tryWrite]
  exact ⟨fun db₂ hins => hinsert db₁ db₂ role hins hdb₁, fun _ => hdb₁⟩

theorem after_setRolesGuarded {roles : List Role} (hsame : I db)
    (hset : isInitialAdmin db userId = false → after (setRoles userId roles) (fun _ db' => I db') db) :
    after (setRolesGuarded ctx userId roles) (fun _ db' => I db') db := by
  simp only [setRolesGuarded, after_bind]
  refine after_requireUserById (fun target _ => ?_) fun _ => hsame
  simp only [after_query, after_ensure, Bool.not_eq_true', Bool.not_eq_false']
  exact ⟨fun hinitial => ⟨fun _ => hset hinitial, fun _ => hsame⟩, fun _ => hsame⟩

theorem after_deleteGuarded (hsame : I db)
    (hdelete : isInitialAdmin db userId = false → I (db.deleteUser userId)) :
    after (deleteGuarded ctx userId) (fun _ db' => I db') db := by
  simp only [deleteGuarded, after_bind]
  refine after_requireUserById (fun target _ => ?_) fun _ => hsame
  simp only [after_query, after_ensure, after_write, Bool.not_eq_true', Bool.not_eq_false']
  exact ⟨fun hinitial => ⟨fun _ => hdelete hinitial, fun _ => hsame⟩, fun _ => hsame⟩

theorem after_canDeactivate {Q : Except AppError Bool → Db → Prop}
    (hok : ∀ b, (b = true → isInitialAdmin db userId = false) → Q (.ok b) db)
    (herr : ∀ e, Q (.error e) db) : after (canDeactivate ctx userId) Q db := by
  simp only [canDeactivate, after_bind]
  refine after_requireUserById (fun target _ => ?_) herr
  simp only [after_query, after_pure]
  refine hok _ fun hcan => ?_
  simp only [Bool.and_eq_true, Bool.not_eq_true'] at hcan
  exact hcan.1

theorem after_createUser {input : CreateUserInput} (hsame : I db)
    (hset : ∀ db₁ row, row.id = ctx.newId → row.isInitialAdmin = false → db.insertUser row = some db₁ →
      after (setRoles ctx.newId input.roles) (fun _ db' => I db') db₁) :
    after (createUser ctx input) (fun _ db' => I db') db := by
  simp only [createUser, after_bind, after_tryWrite]
  refine ⟨fun db₁ hins => ?_, fun _ => hsame⟩
  refine after_mono (hset db₁ _ rfl rfl hins) fun r db₂ hdb₂ => ?_
  cases r with
  | error e => exact hdb₂
  | ok _ => exact after_requireUserById (fun _ _ => hdb₂) fun _ => hdb₂

end rules

end ProxVM
