import ProxVM.Db.Schema
import ProxVM.Lib.Pool
import ProxVM.Lib.Solo
import ProxVM.Util.Errors

/-!
# Launches and the tokens of a session

`launch`, `trackSessionToken` and `revokeSessionTokens` of
`services/guacamole.ts` as programs of statements and of requests to the web
application of Guacamole.

`tokenRules` puts any number of launches and logouts of one session of ProxVM side by side, with
every call carried out.  Guacamole may give up a token by itself at any time.
-/

namespace ProxVM.Tokens

open Interaction

abbrev SessionId := Nat

/-! ## Calls -/

/-- The columns of `guacamole_connections` that a launch reads. -/
structure LaunchConnection where
  guacConnectionName : String
  guacIdentifier : Option String
  deriving DecidableEq, Repr

/-- The columns of `guacamole_users` that a launch reads. -/
structure LaunchUser where
  guacUsername : String
  passwordCiphertext : String
  deriving DecidableEq, Repr

structure GuacamoleToken where
  authToken : String
  dataSource : String
  deriving DecidableEq, Repr

/-- A row of `guac_session_tokens`. -/
structure SessionTokenRow where
  proxvmSessionId : SessionId
  tokenCiphertext : String
  deriving DecidableEq, Repr

inductive Call
  | findConnectionRecord (vmId : VmId) (protocol : Option Protocol)
  | findUserRecord (appUserId : UserId)
  | requestToken (username password : String)
  | findConnectionIdentifier (token dataSource connectionName : String)
  | deleteToken (token : String)
  | encrypt (plaintext : String)
  | selectTokens (proxvmSessionId : SessionId)
  | insertToken (row : SessionTokenRow)
  | deleteTokens (proxvmSessionId : SessionId)

@[reducible] def Call.Reply : Call → Type
  | .findConnectionRecord _ _ => Option LaunchConnection
  | .findUserRecord _ => Option LaunchUser
  | .requestToken _ _ => GuacamoleToken
  | .findConnectionIdentifier _ _ _ => Option String
  | .encrypt _ => String
  | .selectTokens _ => List String
  | _ => Unit

@[reducible] def calls : Signature := ⟨Call, Call.Reply⟩

abbrev Task (α : Type) := Prog calls AppError α

def ask (c : Call) : Task c.Reply := Prog.perform (F := calls) c

/-! ## Programs -/

/-- What `launch` returns: what the address is built from, or the reason for the login page. -/
inductive Launched
  | direct (identifier authToken dataSource : String)
  | login (detail : String)
  deriving DecidableEq, Repr

/-- `promise.catch(() => undefined)`. -/
def quietly {α : Type} (p : Task α) : Task Unit :=
  Prog.tryCatch (p >>= fun _ => pure ()) fun _ => pure ()

def chosenIdentifier (recorded discovered : Option String) : Option String :=
  ((discovered.filter fun id => decide (id ≠ "")).orElse fun _ => recorded).filter fun id =>
    decide (id ≠ "")

section programs

variable (decrypt : String → Option String)

/-- The loop of `revokeSessionTokens`, where a failure is passed over. -/
def invalidateTokens (guacApi : Bool) : List String → Nat → Task Nat
  | [], revoked => pure revoked
  | tokenCiphertext :: rest, revoked => do
      let revoked ← Prog.tryCatch
        (if guacApi then do
          let token ← Prog.orRaise (decrypt tokenCiphertext) (AppError.database "decrypt failed")
          ask (.deleteToken token)
          pure (revoked + 1)
        else
          pure revoked)
        fun _ => pure revoked
      invalidateTokens guacApi rest revoked

def revokeSessionTokens (proxvmSessionId : SessionId) (guacApi : Bool) : Task Nat := do
  let rows ← ask (.selectTokens proxvmSessionId)
  let revoked ← invalidateTokens decrypt guacApi rows 0
  ask (.deleteTokens proxvmSessionId)
  pure revoked

def trackSessionToken (proxvmSessionId : SessionId) (token : String) : Task Unit := do
  let ciphertext ← ask (.encrypt token)
  ask (.insertToken ⟨proxvmSessionId, ciphertext⟩)

def retireTokens : Option SessionId → Task Unit
  | some sessionId => quietly (revokeSessionTokens decrypt sessionId true)
  | none => pure ()

def recordToken (token : String) : Option SessionId → Task Unit
  | some sessionId => quietly (trackSessionToken sessionId token)
  | none => pure ()

/-- The end of `launch`: the address, if the connection has an identifier. -/
def handOver (connection : LaunchConnection) (token : GuacamoleToken)
    (trackSessionId : Option SessionId) : Option String → Task Launched
  | none => pure (.login ("Guacamole connection \"" ++ connection.guacConnectionName ++
      "\" could not be found in the Guacamole data source."))
  | some identifier => do
      recordToken token.authToken trackSessionId
      pure (.direct identifier token.authToken token.dataSource)

/-- The part of `launch` once a token has been handed out. -/
def openConnection (connection : LaunchConnection) (token : GuacamoleToken)
    (trackSessionId : Option SessionId) : Task Launched := do
  let discovered ←
    if token.dataSource ≠ "" then
      Prog.tryCatch (ask (.findConnectionIdentifier token.authToken token.dataSource
        connection.guacConnectionName)) fun _ => pure none
    else
      pure none
  handOver connection token trackSessionId (chosenIdentifier connection.guacIdentifier discovered)

/-- The part of `launch` that asks Guacamole. -/
def launchDirect (connection : LaunchConnection) (username password : String)
    (trackSessionId : Option SessionId) : Task Launched := do
  retireTokens decrypt trackSessionId
  let token ← ask (.requestToken username password)
  openConnection connection token trackSessionId

def launch (vmId : VmId) (appUserId : UserId) (guacApi : Bool) (protocol : Option Protocol)
    (trackSessionId : Option SessionId) : Task Launched := do
  let found ← ask (.findConnectionRecord vmId protocol)
  let connection ← Prog.orRaise found
    (AppError.notFound "No Guacamole connection exists for this VM")
  let foundUser ← ask (.findUserRecord appUserId)
  let userRecord ← Prog.orRaise foundUser
    (AppError.validation "You do not have a Guacamole account yet")
  let password ← Prog.orRaise (decrypt userRecord.passwordCiphertext)
    (AppError.database "decrypt failed")
  if guacApi then
    Prog.tryCatch (launchDirect decrypt connection userRecord.guacUsername password trackSessionId)
      fun e => pure (.login e.message)
  else
    pure (.login "Guacamole API client is not available.")

end programs

/-! ## Side by side -/

/-- The tokens handed out to launches of the session that are live, and the rows; and, for
statements about what happened, how many launches were requested, and for each revocation that
has finished how many had been requested when it started. -/
structure World where
  live : List String
  rows : List SessionTokenRow
  launches : Nat
  finished : List Nat

/-- `SELECT token_ciphertext FROM guac_session_tokens WHERE proxvm_session_id = $1`. -/
def World.ciphertexts (w : World) (sessionId : SessionId) : List String :=
  (w.rows.filter fun row => decide (row.proxvmSessionId = sessionId)).map
    SessionTokenRow.tokenCiphertext

/-- What a call comes to when it is carried out.  The tables of connections and accounts may
change at any time; a row of the first has its identifier, which `upsertConnection` always
writes. -/
def Serves (decrypt : String → Option String) :
    (c : Call) → World → Except AppError c.Reply → World → Prop
  | .findConnectionRecord _ _, w, r, w' =>
      w' = w ∧ ∃ found, r = .ok found ∧
        ∀ row, found = some row → ∃ id, row.guacIdentifier = some id ∧ id ≠ ""
  | .findUserRecord _, w, r, w' => w' = w ∧ ∃ found, r = .ok found
  | .requestToken _ _, w, r, w' =>
      ∃ token : GuacamoleToken, r = .ok token ∧ token.dataSource ≠ "" ∧
        token.authToken ∉ w.live ∧ w' = { w with live := token.authToken :: w.live }
  | .findConnectionIdentifier _ _ _, w, r, w' => w' = w ∧ ∃ found, r = .ok found
  | .deleteToken token, w, r, w' =>
      r = .ok () ∧ w' = { w with live := w.live.filter fun live => decide (live ≠ token) }
  | .encrypt plaintext, w, r, w' =>
      w' = w ∧ ∃ ciphertext, r = .ok ciphertext ∧ decrypt ciphertext = some plaintext
  | .selectTokens sessionId, w, r, w' => w' = w ∧ r = .ok (w.ciphertexts sessionId)
  | .insertToken row, w, r, w' => r = .ok () ∧ w' = { w with rows := w.rows ++ [row] }
  | .deleteTokens sessionId, w, r, w' =>
      r = .ok () ∧ w' = { w with
        rows := w.rows.filter fun row => decide (row.proxvmSessionId ≠ sessionId) }

/-- What a program is started for: a launch with its number, a logout with the number of
launches requested so far, or the end that Guacamole puts to a token. -/
inductive Request
  | launch (number : Nat) (vmId : VmId) (appUserId : UserId) (protocol : Option Protocol)
  | logout (since : Nat)
  | timeout (token : String)
  deriving DecidableEq, Repr

def Request.number? : Request → Option Nat
  | .launch number _ _ _ => some number
  | _ => none

def Request.since? : Request → Option Nat
  | .logout since => some since
  | _ => none

@[reducible] def Request.Result : Request → Type
  | .launch _ _ _ _ => Launched
  | .logout _ => Nat
  | .timeout _ => Unit

abbrev TokenThread := Thread calls AppError Request.Result

abbrev TokenPool := Pool calls AppError World Request.Result

def Request.prog (decrypt : String → Option String) (sessionId : SessionId) :
    (request : Request) → Task request.Result
  | .launch _ vmId appUserId protocol =>
      Tokens.launch decrypt vmId appUserId true protocol (some sessionId)
  | .logout _ => revokeSessionTokens decrypt sessionId true
  | .timeout token => ask (.deleteToken token)

def finish : (request : Request) → Except AppError request.Result → World → World
  | .logout since, .ok _, w => { w with finished := since :: w.finished }
  | _, _, w => w

def Starts (w : World) (request : Request) (w' : World) : Prop :=
  match request with
  | .launch number _ _ _ => number = w.launches ∧ w' = { w with launches := w.launches + 1 }
  | .logout since => since = w.launches ∧ w' = w
  | .timeout _ => w' = w

def tokenRules (decrypt : String → Option String) (sessionId : SessionId)
    (admits : TokenPool → Request → Call → Prop) : Rules calls AppError World Request.Result where
  serve := Serves decrypt
  admits := admits
  ends request r w successor w' := successor = none ∧ w' = finish request r w
  turn w newcomer w' :=
    ∃ request, newcomer = some ⟨request, request.prog decrypt sessionId⟩ ∧ Starts w request w'

def TokenPool.start (rows : List SessionTokenRow) : TokenPool := ⟨⟨[], rows, 0, []⟩, []⟩

end ProxVM.Tokens
