import ProxVM.Iam.Lockout
import ProxVM.Lib.Table

/-!
# Logins and sessions

The login route of `routes/auth.ts`, the hooks of `plugins/auth.ts` that turn a cookie into a user,
and the requests that end sessions, over `services/sessions.ts` and `services/users.ts`, as programs
of statements.  A statement is atomic, and it may fail without an effect.

The hooks send `touch` without waiting for it: it takes effect, or is lost, at any later time.  Ids and
tokens of sessions are random, so no session gets those of an earlier one.
-/

namespace ProxVM.Login

open Tables Interaction
open Lockout (SessionId)

/-- The columns of `users` that sessions depend on. -/
structure Account where
  id : UserId
  username : String
  passwordHash : String
  active : Bool
  failedAttempts : Nat
  lockedUntil : Option Time
  deriving DecidableEq, Repr

/-- A row of `sessions`. -/
structure SessionRecord where
  id : SessionId
  sidHash : String
  userId : UserId
  expiresAt : Time
  lastActiveAt : Time
  idleTimeoutMinutes : Nat
  revokedAt : Option Time
  deriving DecidableEq, Repr

/-- A session as a login has inserted it, with the hash and the password of the login. -/
structure Opening where
  session : SessionRecord
  passwordHash : String
  password : String
  deriving DecidableEq, Repr

/-- `request.sessionId` and `request.user`, as the first hook has read them. -/
structure Auth where
  session : SessionRecord
  user : Account
  deriving DecidableEq, Repr

/-- The tables and the touches on their way; and, for statements about what happened,
the sessions that were opened, and the tokens of requests with the users they were taken for. -/
structure World where
  now : Time
  users : Table Account.id
  sessions : Table SessionRecord.id
  touching : List SessionId
  opened : List Opening
  accepted : List (String × Auth)

/-! ## Statements -/

inductive Call
  | lockout (c : Lockout.Call)
  | incr (key : String)
  | expire (key : String)
  | findByUsername (username : String)
  | findById (id : UserId)
  | clearFailedLogins (username : String)
  | changePassword (id : UserId) (passwordHash : String)
  | setActive (id : UserId) (active : Bool)
  | deleteUser (id : UserId)
  | setLastLogin (id : UserId)
  | insertSession (opening : Opening)
  | findBySid (sidHash : String)
  | sendTouch (id : SessionId)
  | revoke (id : SessionId)
  | cleanup
  | audit (event : String) (reason : Option String)

@[reducible] def Call.Reply : Call → Type
  | .lockout c => c.Reply
  | .incr _ => Nat
  | .findByUsername _ => Option Account
  | .findById _ => Option Account
  | .findBySid _ => Option SessionRecord
  | _ => Unit

@[reducible] def calls : Signature := ⟨Call, Call.Reply⟩

abbrev Task (α : Type) := Prog calls AppError α

def ask (c : Call) : Task c.Reply := Prog.perform (F := calls) c

def lockoutTask {α : Type} (p : Lockout.Task α) : Task α := p.embed Call.lockout fun _ r => r

def dateNow : Task Time := ask (.lockout .dateNow)

def Account.forLockout (a : Account) : Lockout.LoginAccount := ⟨a.id, a.failedAttempts, a.lockedUntil⟩

/-- `failed_attempts + 1`, and the lock with the last attempt allowed. -/
def Account.fail (maxAttempts : Nat) (lockEnd : Time) (a : Account) : Account :=
  { a with
    failedAttempts := a.failedAttempts + 1
    lockedUntil := if maxAttempts ≤ a.failedAttempts + 1 then some lockEnd else a.lockedUntil }

def Account.clear (a : Account) : Account := { a with failedAttempts := 0, lockedUntil := none }

def SessionRecord.revoked (now : Time) (s : SessionRecord) : SessionRecord :=
  { s with revokedAt := some now }

def dayMs : Time := 24 * 60 * 60 * 1000

/-- `expires_at < NOW() - interval '1 day' OR revoked_at < NOW() - interval '1 day'`. -/
def SessionRecord.longDead (now : Time) (s : SessionRecord) : Bool :=
  decide (s.expiresAt + dayMs < now) || s.revokedAt.any fun t => decide (t + dayMs < now)

namespace World

variable (w : World)

def updateUsers (p : Account → Bool) (f : Account → Account) (hf : ∀ a, (f a).id = a.id) : World :=
  { w with users := w.users.updateWhere p f hf }

def updateSessions (p : SessionRecord → Bool) (f : SessionRecord → SessionRecord)
    (hf : ∀ s, (f s).id = s.id) : World :=
  { w with sessions := w.sessions.updateWhere p f hf }

/-- `INSERT INTO sessions`: the hash is unique, and the user exists. -/
def insertSession (opening : Opening) : Option World :=
  if (w.sessions.rows.any fun s => decide (s.sidHash = opening.session.sidHash)) ∨
      w.users.find? opening.session.userId = none then
    none
  else
    (w.sessions.insert? opening.session).map fun sessions =>
      { w with sessions, opened := opening :: w.opened }

/-- A touch takes effect. -/
def touch (id : SessionId) : World :=
  w.updateSessions (fun s => decide (s.id = id)) (fun s => { s with lastActiveAt := w.now }) fun _ => rfl

def deleteUser (id : UserId) : World :=
  { w with
    users := w.users.deleteWhere fun a => decide (a.id = id)
    sessions := w.sessions.deleteWhere fun s => decide (s.userId = id) }

end World

theorem mem_updateSessions {w : World} {p : SessionRecord → Bool} {f : SessionRecord → SessionRecord}
    {hf : ∀ s, (f s).id = s.id} {s' : SessionRecord} :
    s' ∈ (w.updateSessions p f hf).sessions ↔ ∃ s ∈ w.sessions, s' = if p s then f s else s := by
  simp only [World.updateSessions, Table.mem_updateWhere]

def answerLockout : (c : Lockout.Call) → World → Except AppError c.Reply × World
  | .dateNow, w => (.ok w.now, w)
  | .findByUsername username, w =>
      (.ok ((w.users.rows.find? fun a => decide (a.username = username)).map Account.forLockout), w)
  | .increment id maxAttempts lockMinutes, w =>
      let w' := w.updateUsers (fun a => decide (a.id = id))
        (Account.fail maxAttempts (w.now + lockMinutes * 60000)) fun _ => rfl
      (.ok ((w'.users.find? id).map Account.forLockout), w')
  | .revokeSessions id, w =>
      (.ok (), w.updateSessions (fun s => decide (s.userId = id) && s.revokedAt.isNone)
        (SessionRecord.revoked w.now) fun _ => rfl)

def answer : (c : Call) → World → Except AppError c.Reply × World
  | .lockout c, w => answerLockout c w
  | .incr _, w => (.ok 1, w)
  | .expire _, w => (.ok (), w)
  | .findByUsername username, w => (.ok (w.users.rows.find? fun a => decide (a.username = username)), w)
  | .findById id, w => (.ok (w.users.find? id), w)
  | .clearFailedLogins username, w =>
      (.ok (), w.updateUsers (fun a => decide (a.username = username)) Account.clear fun _ => rfl)
  | .changePassword id passwordHash, w =>
      (.ok (), w.updateUsers (fun a => decide (a.id = id))
        (fun a => { a.clear with passwordHash := passwordHash }) fun _ => rfl)
  | .setActive id active, w =>
      (.ok (), w.updateUsers (fun a => decide (a.id = id)) (fun a => { a with active := active })
        fun _ => rfl)
  | .deleteUser id, w => (.ok (), w.deleteUser id)
  | .setLastLogin _, w => (.ok (), w)
  | .insertSession opening, w =>
      match w.insertSession opening with
      | some w' => (.ok (), w')
      | none => (.error (AppError.database "duplicate key value violates unique constraint"), w)
  | .findBySid sidHash, w => (.ok (w.sessions.rows.find? fun s => decide (s.sidHash = sidHash)), w)
  | .sendTouch id, w => (.ok (), { w with touching := id :: w.touching })
  | .revoke id, w =>
      (.ok (), w.updateSessions (fun s => decide (s.id = id)) (SessionRecord.revoked w.now) fun _ => rfl)
  | .cleanup, w =>
      (.ok (), { w with sessions := w.sessions.deleteWhere (SessionRecord.longDead w.now) })
  | .audit _ _, w => (.ok (), w)

/-- Redis may have counted any number of attempts. -/
def Serves (c : Call) (w : World) (r : Except AppError c.Reply) (w' : World) : Prop :=
  (r, w') = answer c w ∨ w' = w ∧ ((∃ e, r = .error e) ∨ ∃ key, c = .incr key)

/-! ## Programs -/

/-- `verifyPassword` of a hash and a password, the hash of a session token, the token derived from it
against forged requests, `toLowerCase`, and the settings of the service. -/
structure Deps where
  verifyPassword : String → String → Bool
  hashSid : String → String
  deriveCsrfToken : String → String
  toLowerCase : String → String
  sessionDurationHours : Nat
  idleTimeoutMinutes : Nat

/-- Redis counts the attempts of a minute; where it fails, the attempt goes on. -/
def throttled (key : String) : Task Bool :=
  Prog.tryCatch
    (do
      let attempts : Nat ← ask (.incr key)
      if attempts = 1 then ask (.expire key) else pure ()
      pure (decide (10 < attempts)))
    fun _ => pure false

inductive LoginReply
  | rateLimited
  | unauthorized
  | session (sid : String) (user : Account)
  deriving DecidableEq, Repr

def refuse (reason : String) : Task LoginReply := do
  ask (.audit "LOGIN_FAILED" (some reason))
  pure .unauthorized

/-- What a login draws for the session it may open. -/
structure Draw where
  id : SessionId
  sid : String
  deriving DecidableEq, Repr

section programs

variable (deps : Deps)

/-- `sessions.create`. -/
def createSession (draw : Draw) (user : Account) (password : String) : Task Unit := do
  let created : Time ← dateNow
  let lastActiveAt : Time ← dateNow
  ask (.insertSession
    { session :=
        { id := draw.id, sidHash := deps.hashSid draw.sid, userId := user.id
          expiresAt := created + deps.sessionDurationHours * 3600 * 1000, lastActiveAt
          idleTimeoutMinutes := deps.idleTimeoutMinutes, revokedAt := none }
      passwordHash := user.passwordHash, password })

/-- The login after it has read the account. -/
def loginAs (draw : Draw) (username password : String) (user : Account) : Task LoginReply := do
  let locked : Bool ← lockoutTask (Lockout.isLockedNow user.lockedUntil)
  if locked then refuse "account-locked"
  else if deps.verifyPassword user.passwordHash password = false then do
    let _ : Lockout.Attempt ← lockoutTask (Lockout.recordFailedLogin username 5 15)
    refuse "bad-password"
  else if user.active = false then refuse "account-disabled"
  else do
    createSession deps draw user password
    ask (.clearFailedLogins user.username)
    ask (.setLastLogin user.id)
    ask (.audit "LOGIN" none)
    pure (.session draw.sid user)

def login (draw : Draw) (username password : String) : Task LoginReply := do
  let limited : Bool ← throttled ("proxvm:login-throttle:" ++ deps.toLowerCase username)
  if limited then pure .rateLimited
  else do
    let found : Option Account ← ask (.findByUsername username)
    match found with
    | none => refuse "unknown-user"
    | some user => loginAs deps draw username password user

/-- `validate`: revoked, expired or idle sessions are none. -/
def validate (sid : String) : Task (Option SessionRecord) := do
  let found : Option SessionRecord ← ask (.findBySid (deps.hashSid sid))
  match found with
  | none => pure none
  | some record =>
      if record.revokedAt.isSome then pure none
      else do
        let now : Time ← dateNow
        if record.expiresAt ≤ now then pure none
        else do
          let idleNow : Time ← dateNow
          if record.lastActiveAt + record.idleTimeoutMinutes * 60 * 1000 < idleNow then pure none
          else pure (some record)

/-- The first hook; `reads` says whether the method is one that only reads.  No cookie is `""`. -/
def onRequest (token : String) (reads : Bool) : Task (Option Auth) :=
  if token = "" then pure none
  else do
    let session : Option SessionRecord ← validate deps token
    match session with
    | none => pure none
    | some session => do
        let found : Option Account ← ask (.findById session.userId)
        match found with
        | none => pure none
        | some user =>
            if user.active then do
              if reads then ask (.sendTouch session.id) else pure ()
              pure (some ⟨session, user⟩)
            else pure none

def checkCsrf (expected : String) (provided : Option String) : Task Unit :=
  match provided with
  | none => .raise (AppError.forbidden "CSRF token missing")
  | some provided =>
      if provided = "" then .raise (AppError.forbidden "CSRF token missing")
      else if expected = provided then pure ()
      else .raise (AppError.forbidden "CSRF token mismatch")

/-- The second hook. -/
def preHandler (token : String) (reads csrfSkip : Bool) (csrf : Option String) (auth : Option Auth) :
    Task Unit :=
  if reads ∨ csrfSkip then pure ()
  else
    match auth with
    | none => pure ()
    | some auth => do
        let found : Option SessionRecord ← ask (.findBySid (deps.hashSid token))
        match found with
        | none => pure ()
        | some _ => do
            checkCsrf (deps.deriveCsrfToken token) csrf
            ask (.sendTouch auth.session.id)

/-- The cookie, the kind and the header of a request. -/
structure Cookie where
  token : String
  reads : Bool
  csrfSkip : Bool
  csrf : Option String
  deriving DecidableEq, Repr

/-- Both hooks. -/
def visit (cookie : Cookie) : Task (Option Auth) := do
  let auth : Option Auth ← onRequest deps cookie.token cookie.reads
  preHandler deps cookie.token cookie.reads cookie.csrfSkip cookie.csrf auth
  pure auth

def revokeAllForUser (id : UserId) : Task Unit := ask (.lockout (.revokeSessions id))

/-- `POST /auth/change-password`, with the hash it computes of the new password; `false` where the
current one is wrong. -/
def changeOwnPassword (user : Account) (currentPassword newHash : String) : Task Bool := do
  let limited : Bool ← throttled ("proxvm:password-change-throttle:" ++ toString user.id)
  if limited then pure false
  else if deps.verifyPassword user.passwordHash currentPassword then do
    ask (.changePassword user.id newHash)
    revokeAllForUser user.id
    ask (.audit "PERMISSION_CHANGED" (some "password_changed"))
    pure true
  else do
    ask (.audit "PERMISSION_CHANGED" (some "bad-current-password"))
    pure false

end programs

/-- What follows the hooks: a route that changes no session, or one of those that do. -/
inductive Handler
  | other
  | logout
  | changeOwnPassword (currentPassword newHash : String)
  | setActive (target : UserId) (active : Bool)
  | resetPassword (target : UserId) (newHash : String)
  | deleteUser (target : UserId)
  deriving DecidableEq, Repr

/-- The statements of a route on sessions and accounts; routes that ask for a user refuse none. -/
def Handler.prog (deps : Deps) (auth : Option Auth) : Handler → Task Unit
  | .other => pure ()
  | .logout =>
      match auth with
      | none => pure ()
      | some auth => do
          ask (.revoke auth.session.id)
          ask (.audit "LOGOUT" none)
  | .changeOwnPassword currentPassword newHash =>
      match auth with
      | none => .raise AppError.unauthorized
      | some auth => do
          let _ : Bool ← Login.changeOwnPassword deps auth.user currentPassword newHash
          pure ()
  | .setActive target active =>
      match auth with
      | none => .raise AppError.unauthorized
      | some _ => do
          ask (.setActive target active)
          if active then pure () else revokeAllForUser target
  | .resetPassword target newHash =>
      match auth with
      | none => .raise AppError.unauthorized
      | some _ => do
          ask (.changePassword target newHash)
          revokeAllForUser target
  | .deleteUser target =>
      match auth with
      | none => .raise AppError.unauthorized
      | some _ => ask (.deleteUser target)

/-! ## Side by side -/

inductive Request
  | login (draw : Draw) (username password : String)
  | visit (cookie : Cookie) (handler : Handler)
  | handle (handler : Handler) (auth : Option Auth)
  | cleanup
  deriving DecidableEq, Repr

@[reducible] def Request.Result : Request → Type
  | .login _ _ _ => LoginReply
  | .visit _ _ => Option Auth
  | .handle _ _ => Unit
  | .cleanup => Unit

abbrev LoginThread := Thread calls AppError Request.Result

abbrev LoginPool := Pool calls AppError World Request.Result

def Request.prog (deps : Deps) : (request : Request) → Task request.Result
  | .login draw username password => Login.login deps draw username password
  | .visit cookie _ => Login.visit deps cookie
  | .handle handler auth => handler.prog deps auth
  | .cleanup => ask .cleanup

/-- Visits that pass the hooks are handled. -/
def Request.successor (deps : Deps) :
    (request : Request) → Except AppError request.Result → Option LoginThread
  | .visit _ handler, .ok auth => some ⟨.handle handler auth, handler.prog deps auth⟩
  | _, _ => none

def finish : (request : Request) → Except AppError request.Result → World → World
  | .visit cookie _, .ok (some auth), w => { w with accepted := (cookie.token, auth) :: w.accepted }
  | _, _, w => w

/-- Time passes, or a touch takes effect or is lost. -/
def Drifts (w w' : World) : Prop :=
  (∃ ms, w' = { w with now := w.now + ms }) ∨
    ∃ id ∈ w.touching, w' = { w with touching := w.touching.erase id } ∨
      w' = ({ w with touching := w.touching.erase id } : World).touch id

/-- The id and the hash of a session differ from those of all that were opened before. -/
def Fresh (w : World) : Call → Prop
  | .insertSession new => ∀ o ∈ w.opened,
      o.session.id ≠ new.session.id ∧ o.session.sidHash ≠ new.session.sidHash
  | _ => True

def loginRules (deps : Deps) (admits : LoginPool → Request → Call → Prop) :
    Rules calls AppError World Request.Result where
  serve := Serves
  admits P request c := Fresh P.state c ∧ admits P request c
  ends request r w successor w' := successor = request.successor deps r ∧ w' = finish request r w
  turn w newcomer w' := (newcomer = none ∧ Drifts w w') ∨ w' = w ∧
    ∃ request, newcomer = some ⟨request, request.prog deps⟩ ∧ ∀ handler auth, request ≠ .handle handler auth

abbrev freeRules (deps : Deps) : Rules calls AppError World Request.Result :=
  loginRules deps fun _ _ _ => True

end ProxVM.Login
