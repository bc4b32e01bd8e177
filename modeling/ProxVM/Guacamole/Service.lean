import ProxVM.Guacamole.Accounts
import ProxVM.Iam.Store
import ProxVM.Iam.Sweep
import ProxVM.Services.Credentials

/-!
# `GuacamoleService`, the user accounts

The functions of `services/guacamole.ts` that work on the Guacamole account
of an application user, over the application's tables and the Guacamole database.

Each function works within the account of one Guacamole user name (`Within`): a rule per
function says which name that is.
-/

namespace ProxVM

open Tables Fallible Guac

/-! ## The state -/

/-- A row of `guacamole_users`. -/
structure GuacamoleUserRow where
  userId : UserId
  guacUsername : String
  passwordCiphertext : String
  keyId : String
  directLoginEnabled : Bool
  deriving DecidableEq, Repr

structure GuacWorld where
  db : Db
  guacUsers : Table GuacamoleUserRow.userId
  connections : List VmConnectionRow
  guac : Guac.Store

abbrev GuacProgram (α : Type) := Program AppError GuacWorld α

inductive GuacamoleDbEngine
  | postgresql
  | mariadb
  | mysql
  deriving DecidableEq, Repr

/-- `GuacamoleServiceDeps`, with the engine of the Guacamole database. -/
structure GuacamoleServiceDeps where
  engine : GuacamoleDbEngine
  sha256 : String → String
  encrypt : String → String
  decrypt : String → Option String

/-- `createGuacamoleDbClient`. -/
def GuacamoleServiceDeps.guacDb (deps : GuacamoleServiceDeps) : GuacamoleDbClient :=
  match deps.engine with
  | .postgresql => postgresClient deps.sha256
  | .mariadb | .mysql => mySqlClient deps.sha256

structure Draw where
  password : String
  createSalt : String
  setSalt : String
  deriving DecidableEq, Repr

namespace GuacWorld

def findUserRecord (w : GuacWorld) (userId : UserId) : Option GuacamoleUserRow :=
  w.guacUsers.find? userId

def listConnectionRecords (w : GuacWorld) (vmId : VmId) : List VmConnectionRow :=
  w.connections.filter fun c => decide (c.vmId = vmId)

/-- `INSERT INTO guacamole_users … ON CONFLICT (user_id) DO UPDATE`: the user exists and
`guac_username` is unique. -/
def upsertGuacUser (w : GuacWorld) (userId : UserId) (guacUsername passwordCiphertext : String) :
    Option GuacWorld :=
  if (w.db.users.find? userId).isSome && !(w.guacUsers.rows.any fun r =>
      decide (r.userId ≠ userId) && decide (r.guacUsername = guacUsername)) then
    some { w with
      guacUsers := w.guacUsers.put
        { userId, guacUsername, passwordCiphertext
          keyId := keyIdOf passwordCiphertext
          directLoginEnabled := (w.findUserRecord userId).any GuacamoleUserRow.directLoginEnabled } }
  else
    none

/-- `UPDATE guacamole_users SET password_ciphertext = …, direct_login_enabled = …`. -/
def updateGuacUser (w : GuacWorld) (userId : UserId) (passwordCiphertext : String)
    (directLoginEnabled : Bool) : GuacWorld :=
  { w with
    guacUsers := w.guacUsers.updateWhere (fun r => decide (r.userId = userId))
      (fun r => { r with
        passwordCiphertext := passwordCiphertext
        keyId := keyIdOf passwordCiphertext
        directLoginEnabled := directLoginEnabled })
      fun _ => rfl }

/-- `DELETE FROM guacamole_users WHERE user_id = $1`. -/
def deleteGuacUser (w : GuacWorld) (userId : UserId) : GuacWorld :=
  { w with guacUsers := w.guacUsers.deleteWhere fun r => decide (r.userId = userId) }

/-- `DELETE FROM users WHERE id = $1`, with the record that refers to the user. -/
def deleteUser (w : GuacWorld) (userId : UserId) : GuacWorld :=
  { w.deleteGuacUser userId with db := w.db.deleteUser userId }

end GuacWorld

/-! ## User names -/

/-- A character that the sanitization keeps: `[a-zA-Z0-9_.-]`. -/
def guacSafe (c : Char) : Bool := c.isAlphanum || c == '_' || c == '.' || c == '-'

/-- `appUsername.replace(/[^a-zA-Z0-9_.-]/g, "_")`. -/
def sanitized (appUsername : String) : List Char :=
  appUsername.toList.flatMap fun c =>
    if guacSafe c then [c] else if c.toNat ≤ 0xFFFF then ['_'] else ['_', '_']

def guacUsernameOf (appUsername : String) : String :=
  "px_" ++ String.ofList ((sanitized appUsername).take 40)

/-- The user names that `createUserSchema` admits. -/
def validUsername (username : String) : Bool :=
  decide (3 ≤ username.length) && decide (username.length ≤ 64) &&
    username.toList.all fun c => c.isAlphanum || c == '.' || c == '_' || c == '-'

/-! ## Functions -/

def sql {α : Type} (m : Sql α) : GuacProgram α := fun w =>
  match m w.guac with
  | some (a, guac) => (.ok a, { w with guac })
  | none => (.error (AppError.database "Guacamole database error"), w)

namespace GuacamoleServiceDeps

variable (deps : GuacamoleServiceDeps)

def ensureGuacUser (draw : Draw) (userId : UserId) (appUsername : String) :
    GuacProgram GuacamoleUserRow := do
  let existing ← query fun w => w.findUserRecord userId
  let password ← match existing with
    | some row => orFail (deps.decrypt row.passwordCiphertext) (AppError.database "decrypt failed")
    | none => pure draw.password
  let _ ← sql (deps.guacDb.createUser (guacUsernameOf appUsername) password draw.createSalt)
  sql (deps.guacDb.setUserPassword (guacUsernameOf appUsername) password draw.setSalt)
  sql (deps.guacDb.grantRootGroupRead (guacUsernameOf appUsername))
  tryWrite (fun w => w.upsertGuacUser userId (guacUsernameOf appUsername) (deps.encrypt password))
    (AppError.database "duplicate key value violates unique constraint")
  let row ← query fun w => w.findUserRecord userId
  orFail row (AppError.database "no row returned")

def setGuacDirectLoginPassword (draw : Draw) (userId : UserId) (appUsername newPassword : String) :
    GuacProgram Unit := do
  ensure (decide (newPassword ≠ "")) (AppError.validation "password must not be empty")
  let found ← query fun w => w.findUserRecord userId
  let record ← match found with
    | some record => pure record
    | none => deps.ensureGuacUser draw userId appUsername
  sql (deps.guacDb.setUserPassword record.guacUsername newPassword draw.setSalt)
  write fun w => w.updateGuacUser userId (deps.encrypt newPassword) true

def disableGuacDirectLogin (draw : Draw) (userId : UserId) : GuacProgram Unit := do
  let found ← query fun w => w.findUserRecord userId
  match found with
  | none => pure ()
  | some record => do
    sql (deps.guacDb.setUserPassword record.guacUsername draw.password draw.setSalt)
    write fun w => w.updateGuacUser userId (deps.encrypt draw.password) false

def grantVmAccess (vmId : VmId) (userId : UserId) : GuacProgram Unit := do
  let connections ← query fun w => w.listConnectionRecords vmId
  let found ← query fun w => w.findUserRecord userId
  match found with
  | none => pure ()
  | some record =>
    forM connections fun c =>
      sql (deps.guacDb.grantConnectionRead c.guacConnectionName record.guacUsername)

def revokeVmAccess (vmId : VmId) (userId : UserId) : GuacProgram Unit := do
  let connections ← query fun w => w.listConnectionRecords vmId
  let found ← query fun w => w.findUserRecord userId
  match found with
  | none => pure ()
  | some record =>
    forM connections fun c =>
      sql (deps.guacDb.revokeConnectionAccess c.guacConnectionName record.guacUsername)

def setGuacUserDisabled (userId : UserId) (disabled : Bool) : GuacProgram Unit := do
  let found ← query fun w => w.findUserRecord userId
  match found with
  | none => pure ()
  | some record => sql (deps.guacDb.setUserDisabled record.guacUsername disabled)

def removeUserResources (userId : UserId) : GuacProgram Unit := do
  let found ← query fun w => w.findUserRecord userId
  match found with
  | none => pure ()
  | some record => do
    sql (deps.guacDb.deleteUser record.guacUsername)
    write fun w => w.deleteGuacUser userId

theorem guacDb_contained : Contained deps.guacDb := by
  unfold guacDb
  split
  · exact postgresClient_contained
  · exact mySqlClient_contained
  · exact mySqlClient_contained

end GuacamoleServiceDeps

/-! ## Rules -/

structure Within (userId : UserId) (account : String) (w w' : GuacWorld) : Prop where
  db : w'.db = w.db
  connections : w'.connections = w.connections
  others : ∀ name, name ≠ account → w'.guac.account name = w.guac.account name
  records : ∀ r ∈ w'.guacUsers, (r.userId = userId ∧ r.guacUsername = account) ∨
    ∃ r₀ ∈ w.guacUsers, r₀.userId = r.userId ∧ r₀.guacUsername = r.guacUsername

section rules

variable {deps : GuacamoleServiceDeps} {userId : UserId} {account : String} {w w' w'' : GuacWorld}

theorem Within.refl (w : GuacWorld) : Within userId account w w :=
  ⟨rfl, rfl, fun _ _ => rfl, fun r hr => .inr ⟨r, hr, rfl, rfl⟩⟩

theorem Within.trans (h : Within userId account w w') (h' : Within userId account w' w'') :
    Within userId account w w'' := by
  refine ⟨h'.db.trans h.db, h'.connections.trans h.connections,
    fun name hne => (h'.others name hne).trans (h.others name hne), fun r hr => ?_⟩
  rcases h'.records r hr with hown | ⟨r₁, hr₁, huser, hname⟩
  · exact .inl hown
  · rcases h.records r₁ hr₁ with ⟨huser₁, hname₁⟩ | ⟨r₀, hr₀, huser₀, hname₀⟩
    · exact .inl ⟨huser ▸ huser₁, hname ▸ hname₁⟩
    · exact .inr ⟨r₀, hr₀, huser₀.trans huser, hname₀.trans hname⟩

@[simp] theorem after_sql {α : Type} {m : Sql α} {Q : Except AppError α → GuacWorld → Prop} :
    after (sql m) Q w ↔ (∀ a guac, m w.guac = some (a, guac) → Q (.ok a) { w with guac }) ∧
        (m w.guac = none → Q (.error (AppError.database "Guacamole database error")) w) := by
  simp only [after, exec, sql, ExceptT.run, StateT.run]
  cases hm : m w.guac with
  | none => simp
  | some r => simp [Prod.ext_iff]

theorem after_sql_within {α : Type} {m : Sql α} (userId : UserId)
    (hm : ∀ {name}, account ≠ name → Keeps name m) {Q : Except AppError α → GuacWorld → Prop}
    (hQ : ∀ r w', Within userId account w w' → w'.guacUsers = w.guacUsers → Q r w') : after (sql m) Q w := by
  rw [after_sql]
  constructor
  · intro a guac hrun
    refine hQ _ _ ⟨rfl, rfl, fun name hne => ?_, fun r hr => .inr ⟨r, hr, rfl, rfl⟩⟩ rfl
    exact hm (Ne.symm hne) w.guac (a, guac) hrun
  · intro _
    exact hQ _ w (Within.refl w) rfl

theorem GuacWorld.upsertGuacUser_within {ciphertext : String}
    (hput : w.upsertGuacUser userId account ciphertext = some w') : Within userId account w w' := by
  unfold GuacWorld.upsertGuacUser at hput
  split at hput
  · cases hput
    refine ⟨rfl, rfl, fun _ _ => rfl, fun r hr => ?_⟩
    rcases Table.mem_put.mp hr with rfl | ⟨hmem, -⟩
    · exact .inl ⟨rfl, rfl⟩
    · exact .inr ⟨r, hmem, rfl, rfl⟩
  · cases hput

theorem GuacWorld.updateGuacUser_within (ciphertext : String) (enabled : Bool) :
    Within userId account w (w.updateGuacUser userId ciphertext enabled) := by
  refine ⟨rfl, rfl, fun _ _ => rfl, fun r hr => .inr ?_⟩
  simp only [GuacWorld.updateGuacUser, Table.mem_updateWhere] at hr
  obtain ⟨r₀, hr₀, rfl⟩ := hr
  refine ⟨r₀, hr₀, ?_⟩
  split
  · exact ⟨rfl, rfl⟩
  · exact ⟨rfl, rfl⟩

theorem GuacWorld.deleteGuacUser_within : Within userId account w (w.deleteGuacUser userId) :=
  ⟨rfl, rfl, fun _ _ => rfl, fun r hr => .inr ⟨r, (Table.mem_deleteWhere.mp hr).1, rfl, rfl⟩⟩

theorem after_ensureGuacUser (draw : Draw) (appUsername : String) :
    after (deps.ensureGuacUser draw userId appUsername) (fun r w' =>
      Within userId (guacUsernameOf appUsername) w w' ∧
        ∀ record, r = .ok record → record.guacUsername = guacUsernameOf appUsername) w := by
  have hrest : ∀ password, after (do
      let _ ← sql (deps.guacDb.createUser (guacUsernameOf appUsername) password draw.createSalt)
      sql (deps.guacDb.setUserPassword (guacUsernameOf appUsername) password draw.setSalt)
      sql (deps.guacDb.grantRootGroupRead (guacUsernameOf appUsername))
      tryWrite (fun w => w.upsertGuacUser userId (guacUsernameOf appUsername) (deps.encrypt password))
        (AppError.database "duplicate key value violates unique constraint")
      let row ← query fun w => w.findUserRecord userId
      orFail row (AppError.database "no row returned") : GuacProgram GuacamoleUserRow)
      (fun r w' => Within userId (guacUsernameOf appUsername) w w' ∧
        ∀ record, r = .ok record → record.guacUsername = guacUsernameOf appUsername) w := by
    intro password
    rw [after_bind]
    refine after_sql_within userId (fun hne => deps.guacDb_contained.createUser hne _ _) fun r w₁ h₁ _ => ?_
    cases r with
    | error e => exact ⟨h₁, fun _ hok => by cases hok⟩
    | ok _ =>
        rw [after_bind]
        refine after_sql_within userId (fun hne => deps.guacDb_contained.setUserPassword hne _ _)
          fun r w₂ h₂ _ => ?_
        cases r with
        | error e => exact ⟨h₁.trans h₂, fun _ hok => by cases hok⟩
        | ok _ =>
            rw [after_bind]
            refine after_sql_within userId (fun hne => deps.guacDb_contained.grantRootGroupRead hne)
              fun r w₃ h₃ _ => ?_
            have h := h₁.trans (h₂.trans h₃)
            cases r with
            | error e => exact ⟨h, fun _ hok => by cases hok⟩
            | ok _ =>
                simp only [after_bind, after_tryWrite, after_query, after_orFail]
                refine ⟨fun w₄ hput => ?_, fun _ => ⟨h, fun _ hok => by cases hok⟩⟩
                have h₄ := h.trans (GuacWorld.upsertGuacUser_within hput)
                refine ⟨fun row hrow => ⟨h₄, ?_⟩, fun _ => ⟨h₄, fun _ hok => by cases hok⟩⟩
                rintro record ⟨⟩
                unfold GuacWorld.upsertGuacUser at hput
                split at hput
                · cases hput
                  rw [GuacWorld.findUserRecord] at hrow
                  rcases Table.mem_put.mp (Table.mem_of_find? hrow) with rfl | ⟨-, hkey⟩
                  · rfl
                  · exact absurd (Table.key_of_find? hrow) hkey
                · cases hput
  simp only [GuacamoleServiceDeps.ensureGuacUser, after_bind, after_query]
  cases hexisting : w.findUserRecord userId with
  | none => exact hrest draw.password
  | some row =>
      rw [after_bind, after_orFail]
      exact ⟨fun password _ => hrest password, fun _ => ⟨Within.refl w, fun _ hok => by cases hok⟩⟩

def GuacWorld.Recorded (w : GuacWorld) (userId : UserId) (account : String) : Prop :=
  ∀ record, w.findUserRecord userId = some record → record.guacUsername = account

theorem after_setGuacDirectLoginPassword (draw : Draw) (appUsername newPassword : String)
    (hrecorded : w.Recorded userId (guacUsernameOf appUsername)) :
    after (deps.setGuacDirectLoginPassword draw userId appUsername newPassword) (fun _ w' =>
      Within userId (guacUsernameOf appUsername) w w') w := by
  have hset : ∀ (record : GuacamoleUserRow) w₁, Within userId (guacUsernameOf appUsername) w w₁ →
      record.guacUsername = guacUsernameOf appUsername → after (do
        sql (deps.guacDb.setUserPassword record.guacUsername newPassword draw.setSalt)
        write fun w => w.updateGuacUser userId (deps.encrypt newPassword) true : GuacProgram Unit)
          (fun _ w' => Within userId (guacUsernameOf appUsername) w w') w₁ := by
    intro record w₁ h₁ hname
    rw [after_bind, hname]
    refine after_sql_within userId (fun hne => deps.guacDb_contained.setUserPassword hne _ _)
      fun r w₂ h₂ _ => ?_
    cases r with
    | error e => exact h₁.trans h₂
    | ok _ => exact (h₁.trans h₂).trans (GuacWorld.updateGuacUser_within _ _)
  simp only [GuacamoleServiceDeps.setGuacDirectLoginPassword, after_bind, after_ensure, after_query]
  refine ⟨fun _ => ?_, fun _ => Within.refl w⟩
  cases hfound : w.findUserRecord userId with
  | some record => exact hset record w (Within.refl w) (hrecorded record hfound)
  | none =>
      rw [after_bind]
      refine after_mono (after_ensureGuacUser draw appUsername) ?_
      rintro r w₁ ⟨h₁, hrecord⟩
      cases r with
      | error e => exact h₁
      | ok record => exact hset record w₁ h₁ (hrecord record rfl)

theorem after_disableGuacDirectLogin (draw : Draw) (hrecorded : w.Recorded userId account) :
    after (deps.disableGuacDirectLogin draw userId) (fun _ w' => Within userId account w w') w := by
  simp only [GuacamoleServiceDeps.disableGuacDirectLogin, after_bind, after_query]
  cases hfound : w.findUserRecord userId with
  | none => exact Within.refl w
  | some record =>
      rw [after_bind, hrecorded record hfound]
      refine after_sql_within userId (fun hne => deps.guacDb_contained.setUserPassword hne _ _)
        fun r w₁ h₁ _ => ?_
      cases r with
      | error e => exact h₁
      | ok _ => exact h₁.trans (GuacWorld.updateGuacUser_within _ _)

theorem after_forConnections {f : String → Sql Unit} {connections : List VmConnectionRow}
    (hf : ∀ connectionName {name}, account ≠ name → Keeps name (f connectionName)) :
    after (forM connections fun c => sql (f c.guacConnectionName) : GuacProgram PUnit)
      (fun _ w' => Within userId account w w') w := by
  refine after_forM (fun c _ w₁ h₁ => ?_) (Within.refl w)
  exact after_sql_within userId (fun hne => hf c.guacConnectionName hne)
    fun _ _ h₂ _ => h₁.trans h₂

theorem after_grantVmAccess (vmId : VmId) (hrecorded : w.Recorded userId account) :
    after (deps.grantVmAccess vmId userId) (fun _ w' => Within userId account w w') w := by
  simp only [GuacamoleServiceDeps.grantVmAccess, after_bind, after_query]
  cases hfound : w.findUserRecord userId with
  | none => exact Within.refl w
  | some record =>
      obtain rfl := hrecorded record hfound
      exact after_forConnections fun connectionName _ hne =>
        deps.guacDb_contained.grantConnectionRead hne connectionName

theorem after_revokeVmAccess_within (vmId : VmId) (hrecorded : w.Recorded userId account) :
    after (deps.revokeVmAccess vmId userId) (fun _ w' => Within userId account w w') w := by
  simp only [GuacamoleServiceDeps.revokeVmAccess, after_bind, after_query]
  cases hfound : w.findUserRecord userId with
  | none => exact Within.refl w
  | some record =>
      obtain rfl := hrecorded record hfound
      exact after_forConnections fun connectionName _ hne =>
        deps.guacDb_contained.revokeConnectionAccess hne connectionName

theorem after_setGuacUserDisabled (disabled : Bool) (hrecorded : w.Recorded userId account) :
    after (deps.setGuacUserDisabled userId disabled) (fun _ w' => Within userId account w w') w := by
  simp only [GuacamoleServiceDeps.setGuacUserDisabled, after_bind, after_query]
  cases hfound : w.findUserRecord userId with
  | none => exact Within.refl w
  | some record =>
      obtain rfl := hrecorded record hfound
      exact after_sql_within userId (fun hne => deps.guacDb_contained.setUserDisabled hne disabled)
        fun _ _ h₁ _ => h₁

theorem after_removeUserResources (hrecorded : w.Recorded userId account) :
    after (deps.removeUserResources userId) (fun _ w' => Within userId account w w') w := by
  simp only [GuacamoleServiceDeps.removeUserResources, after_bind, after_query]
  cases hfound : w.findUserRecord userId with
  | none => exact Within.refl w
  | some record =>
      rw [after_bind, hrecorded record hfound]
      refine after_sql_within userId (fun hne => deps.guacDb_contained.deleteUser hne)
        fun r w₁ h₁ _ => ?_
      cases r with
      | error e => exact h₁
      | ok _ => exact h₁.trans GuacWorld.deleteGuacUser_within

end rules

end ProxVM
