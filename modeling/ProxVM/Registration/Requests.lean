import ProxVM.Db.Schema
import ProxVM.Lib.Pool
import ProxVM.Util.Errors

/-!
# Registration requests

`RegistrationService` of `services/registration.ts` as programs of statements.

A statement outside of a transaction is atomic.  `approve` runs a transaction on a client of its
own: what it writes is set aside in the record of the client (`Txn`) until the commit, and the row
it selects `FOR UPDATE` is locked until its transaction ends.  As in PostgreSQL, a statement waits
while a row it would write is locked by another transaction, and an insertion waits while another
transaction has inserted the same key or deleted the row that has it.  Any statement may fail
without an effect, but a transaction whose `ROLLBACK` fails is rolled back all the same.
-/

namespace ProxVM.Registration

open Tables Interaction

abbrev RequestId := Nat

abbrev ClientId := Nat

/-! ## The tables -/

/-- A row of `registration_requests`, with the columns of its decision. -/
structure RegistrationRow where
  id : RequestId
  username : String
  email : Option String
  passwordHash : String
  status : RegistrationStatus
  decidedBy : Option UserId
  decidedAt : Option Time
  createdAt : Time
  deriving DecidableEq, Repr

/-- The columns of `users` that a registration fills. -/
structure AccountRow where
  id : UserId
  username : String
  email : Option String
  passwordHash : String
  deriving DecidableEq, Repr

/-- A client of the connection pool: when its transaction began, the row that it has locked since
a moment, and what it has written. -/
structure Txn where
  client : ClientId
  began : Option Time
  locked : Option (RequestId × Time)
  deleted : Option RequestId
  inserted : Option AccountRow
  approved : Option (RequestId × UserId)
  deriving DecidableEq, Repr

def Txn.idle (client : ClientId) : Txn := ⟨client, none, none, none, none, none⟩

/-- An account that a request has led to; when the request was locked, and when the account came
to be. -/
structure Creation where
  requestId : RequestId
  account : AccountRow
  lockedAt : Time
  createdAt : Time
  deriving DecidableEq, Repr

/-- The tables, the clients in use, and the number of those used so far; and, for statements about
what happened, the decisions and the accounts created. -/
structure World where
  now : Time
  requests : Table RegistrationRow.id
  users : Table AccountRow.id
  transactions : Table Txn.client
  clients : ClientId
  decisions : List (RequestId × RegistrationStatus)
  created : List Creation

/-! ## Statements -/

inductive Call
  | dateNow
  | passTime (ms : Time)
  | findByUsername (username : String)
  | deleteExpired (username : String) (cutoff : Time)
  | selectPending (username : String)
  | insertRequest (row : RegistrationRow)
  | get (id : RequestId)
  | connect (client : ClientId)
  | begin (client : ClientId)
  | selectForUpdate (client : ClientId) (id : RequestId)
  | deleteRequest (client : ClientId) (id : RequestId)
  | insertUser (client : ClientId) (row : AccountRow)
  | deleteRoles (client : ClientId) (userId : UserId)
  | insertRole (client : ClientId) (userId : UserId) (role : Role)
  | selectUser (client : ClientId) (userId : UserId)
  | approveRequest (client : ClientId) (id : RequestId) (actorId : UserId)
  | commit (client : ClientId)
  | rollback (client : ClientId)
  | release (client : ClientId)
  | rejectRequest (id : RequestId) (actorId : UserId)
  | prunePending (cutoff : Time)
  | scrubDecided (cutoff : Time)

@[reducible] def Call.Reply : Call → Type
  | .dateNow => Time
  | .findByUsername _ => Option AccountRow
  | .selectPending _ => Bool
  | .get _ => Option RegistrationRow
  | .selectForUpdate _ _ => Option RegistrationRow
  | .selectUser _ _ => Option AccountRow
  | .rejectRequest _ _ => Bool
  | _ => Unit

@[reducible] def calls : Signature := ⟨Call, Call.Reply⟩

abbrev Task (α : Type) := Prog calls AppError α

def ask (c : Call) : Task c.Reply := Prog.perform (F := calls) c

def uniqueViolation : AppError := AppError.database "duplicate key value violates unique constraint"

namespace World

variable (w : World)

def lockedBeside (client : Option ClientId) (id : RequestId) : Bool :=
  w.transactions.rows.any fun txn =>
    decide (some txn.client ≠ client) && txn.locked.any fun lock => decide (lock.1 = id)

def free (matched : RegistrationRow → Bool) : Prop :=
  ∀ row ∈ w.requests, matched row = true → w.lockedBeside none row.id = false

def updateTxn (client : ClientId) (f : Txn → Txn) (hf : ∀ txn, (f txn).client = txn.client) : World :=
  { w with transactions := w.transactions.updateWhere (fun txn => decide (txn.client = client)) f hf }

/-- `DELETE FROM registration_requests WHERE …`. -/
def deleteRequests (matched : RegistrationRow → Bool) : World :=
  { w with requests := w.requests.deleteWhere matched }

/-- `UPDATE registration_requests SET status = 'rejected', … WHERE id = $1 AND status = 'pending'`. -/
def reject (id : RequestId) (actorId : UserId) : World :=
  { w with
    requests := w.requests.updateWhere
      (fun row => decide (row.id = id) && decide (row.status = .pending))
      (fun row => { row with
        status := .rejected, decidedBy := some actorId, decidedAt := some w.now }) fun _ => rfl
    decisions := (id, .rejected) :: w.decisions }

/-- `UPDATE registration_requests SET password_hash = '' WHERE …`. -/
def scrub (cutoff : Time) : World :=
  { w with
    requests := w.requests.updateWhere
      (fun row => decide (row.status ≠ .pending) && (row.decidedAt.any fun t => decide (t < cutoff)) &&
        decide (row.passwordHash ≠ ""))
      (fun row => { row with passwordHash := "" }) fun _ => rfl }

def commit (txn : Txn) : World :=
  { w with
    requests :=
      match txn.deleted, txn.approved with
      | some id, _ => w.requests.deleteWhere fun row => decide (row.id = id)
      | none, some (id, actorId) => w.requests.updateWhere (fun row => decide (row.id = id))
          (fun row => { row with
            status := .approved, decidedBy := some actorId, decidedAt := txn.began }) fun _ => rfl
      | none, none => w.requests
    users := (txn.inserted.bind fun row => w.users.insert? row).getD w.users
    transactions := w.transactions.put (Txn.idle txn.client)
    decisions :=
      match txn.approved with
      | some (id, _) => (id, .approved) :: w.decisions
      | none => w.decisions
    created :=
      match txn.inserted, txn.locked with
      | some account, some (id, lockedAt) => ⟨id, account, lockedAt, w.now⟩ :: w.created
      | _, _ => w.created }

end World

theorem client_began (w : World) (txn : Txn) : { txn with began := some w.now }.client = txn.client := rfl

theorem client_locked (w : World) (id : RequestId) (txn : Txn) :
    { txn with locked := some (id, w.now) }.client = txn.client :=
  rfl

theorem client_inserted (new : AccountRow) (txn : Txn) :
    { txn with inserted := some new }.client = txn.client :=
  rfl

theorem client_approved (id : RequestId) (actorId : UserId) (txn : Txn) :
    { txn with approved := some (id, actorId) }.client = txn.client :=
  rfl

def Carries : (c : Call) → World → Except AppError c.Reply → World → Prop
  | .dateNow, w, r, w' => r = .ok w.now ∧ w' = w
  | .passTime ms, w, r, w' => r = .ok () ∧ w' = { w with now := w.now + ms }
  | .findByUsername username, w, r, w' =>
      r = .ok (w.users.rows.find? fun user => decide (user.username = username)) ∧ w' = w
  | .deleteExpired username cutoff, w, r, w' =>
      let matched := fun row : RegistrationRow => decide (row.username = username) &&
        decide (row.status = .pending) && decide (row.createdAt < cutoff)
      w.free matched ∧ r = .ok () ∧ w' = w.deleteRequests matched
  | .selectPending username, w, r, w' =>
      r = .ok (w.requests.rows.any fun row =>
        decide (row.username = username) && decide (row.status = .pending)) ∧ w' = w
  | .insertRequest new, w, r, w' =>
      (∀ row ∈ w.requests, row.username = new.username →
        ∀ txn ∈ w.transactions, txn.deleted ≠ some row.id) ∧
      if w.requests.rows.any fun row => decide (row.username = new.username) then
        r = .error uniqueViolation ∧ w' = w
      else
        r = .ok () ∧ ∃ requests, w.requests.insert? { new with createdAt := w.now } = some requests ∧
          w' = { w with requests }
  | .get id, w, r, w' => r = .ok (w.requests.find? id) ∧ w' = w
  | .connect client, w, r, w' =>
      r = .ok () ∧ ∃ transactions, w.transactions.insert? (Txn.idle client) = some transactions ∧
        w' = { w with transactions }
  | .begin client, w, r, w' =>
      r = .ok () ∧ w' = w.updateTxn client (fun txn => { txn with began := some w.now }) (client_began w)
  | .selectForUpdate client id, w, r, w' =>
      w.lockedBeside (some client) id = false ∧ r = .ok (w.requests.find? id) ∧
        w' = if (w.requests.find? id).isSome then
          w.updateTxn client (fun txn => { txn with locked := some (id, w.now) }) (client_locked w id)
        else
          w
  | .deleteRequest client id, w, r, w' =>
      w.lockedBeside (some client) id = false ∧ r = .ok () ∧
        w' = w.updateTxn client (fun txn => { txn with deleted := some id }) fun _ => rfl
  | .insertUser client new, w, r, w' =>
      (∀ txn ∈ w.transactions, txn.client ≠ client → ∀ row, txn.inserted = some row →
        row.username ≠ new.username ∧ row.id ≠ new.id) ∧
      if w.users.rows.any fun row =>
          decide (row.username = new.username) || decide (row.id = new.id) then
        r = .error uniqueViolation ∧ w' = w
      else
        r = .ok () ∧
          w' = w.updateTxn client (fun txn => { txn with inserted := some new }) (client_inserted new)
  | .deleteRoles _ _, w, r, w' => r = .ok () ∧ w' = w
  | .insertRole _ _ _, w, r, w' => r = .ok () ∧ w' = w
  | .selectUser client userId, w, r, w' =>
      r = .ok (((w.transactions.find? client).bind fun txn =>
        txn.inserted.filter fun row => decide (row.id = userId)).orElse fun _ =>
          w.users.find? userId) ∧ w' = w
  | .approveRequest client id actorId, w, r, w' =>
      w.lockedBeside (some client) id = false ∧ r = .ok () ∧
        w' = w.updateTxn client (fun txn => { txn with approved := some (id, actorId) })
          (client_approved id actorId)
  | .commit client, w, r, w' =>
      r = .ok () ∧ w' = match w.transactions.find? client with
        | some txn => w.commit txn
        | none => w
  | .rollback client, w, _, w' => w' = w.updateTxn client (fun txn => Txn.idle txn.client) fun _ => rfl
  | .release client, w, r, w' =>
      r = .ok () ∧ w' = { w with
        transactions := w.transactions.deleteWhere fun txn => decide (txn.client = client) }
  | .rejectRequest id actorId, w, r, w' =>
      let matched := fun row : RegistrationRow => decide (row.id = id) && decide (row.status = .pending)
      w.free matched ∧ r = .ok (w.requests.rows.any matched) ∧
        w' = if w.requests.rows.any matched then w.reject id actorId else w
  | .prunePending cutoff, w, r, w' =>
      let matched := fun row : RegistrationRow =>
        decide (row.status = .pending) && decide (row.createdAt < cutoff)
      w.free matched ∧ r = .ok () ∧ w' = w.deleteRequests matched
  | .scrubDecided cutoff, w, r, w' =>
      (w.free fun row => decide (row.status ≠ .pending) &&
        (row.decidedAt.any fun t => decide (t < cutoff)) && decide (row.passwordHash ≠ "")) ∧
        r = .ok () ∧ w' = w.scrub cutoff

def Call.sure : Call → Bool
  | .rollback _ => true
  | .release _ => true
  | _ => false

def Serves (c : Call) (w : World) (r : Except AppError c.Reply) (w' : World) : Prop :=
  Carries c w r w' ∨ c.sure = false ∧ ∃ e, r = .error e ∧ w' = w

/-! ## Programs -/

def registrationPendingMaxMs : Time := 30 * 86400000

structure RequestInput where
  id : RequestId
  username : String
  email : Option String
  passwordHash : String
  deriving DecidableEq, Repr

def request (input : RequestInput) : Task RegistrationRow := do
  let user ← ask (.findByUsername input.username)
  if user.isSome then
    .raise (AppError.conflict "Username already exists or has a pending request")
  else do
    let now : Time ← ask .dateNow
    ask (.deleteExpired input.username (now - registrationPendingMaxMs))
    let pending : Bool ← ask (.selectPending input.username)
    if pending then
      .raise (AppError.conflict "Username already exists or has a pending request")
    else do
      ask (.insertRequest
        { id := input.id, username := input.username, email := input.email
          passwordHash := input.passwordHash, status := .pending, decidedBy := none
          decidedAt := none, createdAt := 0 })
      let created ← ask (.get input.id)
      Prog.orRaise created (AppError.database "Registration request creation failed")

/-- `UsersService.setRoles`, on a client. -/
def setRoles (client : ClientId) (userId : UserId) (roles : List Role) : Task Unit := do
  ask (.deleteRoles client userId)
  forM roles fun role => ask (.insertRole client userId role)

/-- `UsersService.create`, on a client. -/
def createUser (client : ClientId) (row : AccountRow) (roles : List Role) : Task AccountRow := do
  ask (.insertUser client row)
  setRoles client row.id roles
  let created ← ask (.selectUser client row.id)
  Prog.orRaise created (AppError.notFound "User not found")

structure ApproveInput where
  client : ClientId
  id : RequestId
  actorId : UserId
  userId : UserId
  roles : List Role
  deriving DecidableEq, Repr

/-- The part of `approve` that works on a request in time. -/
def approveRow (input : ApproveInput) (row : RegistrationRow) : Task UserId := do
  let taken ← ask (.findByUsername row.username)
  if taken.isSome then
    .raise (AppError.conflict "Username was taken while the request was pending")
  else do
    let user ← createUser input.client ⟨input.userId, row.username, row.email, row.passwordHash⟩
      input.roles
    ask (.approveRequest input.client input.id input.actorId)
    ask (.commit input.client)
    pure user.id

/-- The transaction of `approve`. -/
def approveTxn (input : ApproveInput) : Task UserId := do
  ask (.begin input.client)
  let found ← ask (.selectForUpdate input.client input.id)
  let row ← Prog.orRaise found (AppError.notFound "Registration request not found")
  if row.status ≠ .pending then
    .raise (AppError.conflict ("Request is already " ++ row.status.text))
  else do
    let now : Time ← ask .dateNow
    if row.createdAt + registrationPendingMaxMs < now then do
      ask (.deleteRequest input.client input.id)
      ask (.commit input.client)
      .raise (AppError.conflict "Registration request has expired; please submit a new request")
    else
      approveRow input row

/-- What `approve` throws after an error of its transaction. -/
def approveError (e : AppError) : AppError :=
  if e = uniqueViolation then AppError.conflict "Username was taken while the request was pending"
  else e

def approve (input : ApproveInput) : Task UserId := do
  ask (.connect input.client)
  let result ← Prog.tryCatch (approveTxn input >>= fun userId => pure (.ok userId)) fun e => do
    Prog.tryCatch (ask (.rollback input.client)) fun _ => pure ()
    pure (.error (approveError e))
  ask (.release input.client)
  Prog.ofExcept result

def reject (id : RequestId) (actorId : UserId) : Task Unit := do
  let rejected : Bool ← ask (.rejectRequest id actorId)
  if rejected then
    pure ()
  else do
    let existing ← ask (.get id)
    let row ← Prog.orRaise existing (AppError.notFound "Registration request not found")
    .raise (AppError.conflict ("Request is already " ++ row.status.text))

/-- `pruneStaleRequests`, without the numbers it returns. -/
def pruneStaleRequests (pendingMaxDays decidedMaxDays : Nat) : Task Unit := do
  let now : Time ← ask .dateNow
  let later : Time ← ask .dateNow
  ask (.prunePending (now - pendingMaxDays * 86400000))
  ask (.scrubDecided (later - decidedMaxDays * 86400000))

/-! ## Side by side -/

inductive Request
  | request (input : RequestInput)
  | approve (input : ApproveInput)
  | reject (id : RequestId) (actorId : UserId)
  | prune (pendingMaxDays decidedMaxDays : Nat)
  | clock (ms : Time)
  deriving DecidableEq, Repr

@[reducible] def Request.Result : Request → Type
  | .request _ => RegistrationRow
  | .approve _ => UserId
  | _ => Unit

def Request.prog : (request : Request) → Task request.Result
  | .request input => Registration.request input
  | .approve input => Registration.approve input
  | .reject id actorId => Registration.reject id actorId
  | .prune pendingMaxDays decidedMaxDays => pruneStaleRequests pendingMaxDays decidedMaxDays
  | .clock ms => ask (.passTime ms)

def Request.client? : Request → Option ClientId
  | .approve input => some input.client
  | _ => none

abbrev RegistrationThread := Thread calls AppError Request.Result

abbrev RegistrationPool := Pool calls AppError World Request.Result

def Starts (w : World) (request : Request) (w' : World) : Prop :=
  match request with
  | .approve input => input.client = w.clients ∧ w' = { w with clients := w.clients + 1 }
  | _ => w' = w

def registrationRules : Rules calls AppError World Request.Result where
  serve := Serves
  admits _ _ _ := True
  ends _ _ w successor w' := successor = none ∧ w' = w
  turn w newcomer w' := ∃ request, newcomer = some ⟨request, request.prog⟩ ∧ Starts w request w'

end ProxVM.Registration
