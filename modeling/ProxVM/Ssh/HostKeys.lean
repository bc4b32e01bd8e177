import ProxVM.Lib.Interaction
import ProxVM.Lib.Table
import ProxVM.Provisioning.Calls
import ProxVM.Util.Hosts
import ProxVM.Util.Text

/-!
# Host keys

`HostKeyService` of `ssh/host-keys.ts`, and the two places of
`ssh/client.ts` that ask it: the verifier during key exchange and the gate after
authentication.  Every statement may fail.

The pins are the rows of `ssh_host_keys`, unique by scope, without ids and timestamps, which
nothing here looks at.
-/

namespace ProxVM.Ssh

open Interaction

/-! ## Scopes and fingerprints -/

structure PolicyOptions where
  vmId : Option String
  host : String
  port : Option Nat
  jobId : Option String := none
  deriving DecidableEq, Repr

def normalizeEndpoint (host : String) (port : Option Nat) : String :=
  let h := bareHost ((trimmed (some host)).getD "")
  let wrapped := if ':' ∈ h then "[" ++ String.ofList h ++ "]" else String.ofList h
  wrapped ++ ":" ++ toString (port.getD 22)

def buildScope (opts : PolicyOptions) : String :=
  let endpoint := normalizeEndpoint opts.host opts.port
  match opts.vmId.filter (· ≠ "") with
  | some vmId => "vm:" ++ vmId ++ "@" ++ endpoint
  | none => "host:" ++ endpoint

def base64Value? (c : Char) : Option Nat :=
  if c.isUpper then some (c.toNat - 65)
  else if c.isLower then some (c.toNat - 71)
  else if c.isDigit then some (c.toNat + 4)
  else if c = '+' then some 62
  else if c = '/' then some 63
  else none

/-- `n` hexadecimal digits of a number. -/
def hexDigits : Nat → Nat → List Char
  | 0, _ => []
  | n + 1, value => hexDigits n (value / 16) ++ [Nat.digitChar (value % 16)]

/-- The text of 32 bytes to base 64, as hexadecimal digits: 43 digits, of which the last has two
bits to spare, and at most two signs of padding. -/
def hexOfBase64 (text : List Char) : Option String := do
  let body := (text.reverse.dropWhile (· = '=')).reverse
  if body = [] ∨ 2 < text.length - body.length then none else
  let values ← body.mapM base64Value?
  if values.length * 6 / 8 ≠ 32 then none else
    some (String.ofList (hexDigits 64 (values.foldl (fun n v => 64 * n + v) 0 / 4)))

@[irreducible] def normalizeFingerprint (input : String) : Option String :=
  let raw := ((trimmed (some input)).getD "").toList
  if raw.length = 64 ∧ raw.all isHexDigit then some (String.ofList (raw.map Char.toLower))
  else if (raw.take 7).map Char.toLower = "sha256:".toList then hexOfBase64 (raw.drop 7)
  else none

/-! ## Calls -/

structure HostKeyRecord where
  scope : String
  vmId : Option String
  endpoint : String
  fingerprint : String
  keyType : Option String
  deriving DecidableEq, Repr

structure PresentedKey where
  fingerprint : String
  keyType : Option String
  deriving DecidableEq, Repr

inductive HostKeyAudit
  | enrolled (vmId jobId : Option String) (endpoint fingerprint : String) (keyType : Option String)
  | mismatch (vmId jobId : Option String) (scope endpoint expected presented : String)
  | rotated (vmId actorUserId actorUsername : Option String) (endpoint previous fingerprint : String)
  | unpinned (vmId actorUserId actorUsername : Option String) (endpoint fingerprint : String)
  deriving DecidableEq, Repr

inductive HostKeyCall
  | keyExchange
  | authenticate
  | read (scope : String)
  | insertPin (pin : HostKeyRecord)
  | updatePin (scope fingerprint : String)
  | deletePin (scope : String)
  | audit (entry : HostKeyAudit)
  deriving DecidableEq, Repr

abbrev HostKeyCall.Reply : HostKeyCall → Type
  | .keyExchange => PresentedKey
  | .authenticate => Bool
  | .read _ => Option HostKeyRecord
  | .insertPin _ => Unit
  | .updatePin _ _ => Option HostKeyRecord
  | .deletePin _ => Unit
  | .audit _ => Unit

def hostKeyCalls : Signature := ⟨HostKeyCall, HostKeyCall.Reply⟩

abbrev HostKeyTask (α : Type) : Type := Prog hostKeyCalls Failure α

def askKeys (c : HostKeyCall) : HostKeyTask c.Reply := Prog.perform (F := hostKeyCalls) c

/-! ## The service -/

structure HostKeyDecision where
  accept : Bool
  alreadyEnrolled : Bool
  detail : Option String := none
  deriving DecidableEq, Repr

/-- `HostKeyPolicy`: the scope that `decide` and `confirm` work on. -/
structure HostKeyPolicy where
  scope : String
  vmId : Option String
  endpoint : String
  jobId : Option String
  deriving DecidableEq, Repr

namespace HostKeyService

def policy (opts : PolicyOptions) : HostKeyPolicy where
  scope := buildScope opts
  vmId := opts.vmId
  endpoint := normalizeEndpoint opts.host opts.port
  jobId := opts.jobId

def mismatchMessage (endpoint expected presented : String) : String :=
  "SSH host key for " ++ endpoint ++ " changed since it was trusted: expected sha256:" ++
    String.ofList (expected.toList.take 12) ++ "… but the server offered sha256:" ++
    String.ofList (presented.toList.take 12) ++
    "…. This may be a man-in-the-middle attack or a legitimate guest rebuild / host-key " ++
    "rotation. An administrator must re-verify the host key before connections resume."

/-- `recordAudit`: a row that cannot be written is logged. -/
def recordAudit (entry : HostKeyAudit) : HostKeyTask Unit := (askKeys (.audit entry)).tryCatch fun _ => pure ()

/-- The pin is another one: `recordMismatch`, and the refusal. -/
def refuseMismatch (p : HostKeyPolicy) (expected fingerprint : String) : HostKeyTask HostKeyDecision := do
  recordAudit (.mismatch p.vmId p.jobId p.scope p.endpoint expected fingerprint)
  pure
    { accept := false, alreadyEnrolled := true, detail := some (mismatchMessage p.endpoint expected fingerprint) }

/-- What `decide` and `confirm` make of an error. -/
def internalError (detail : String) : HostKeyTask HostKeyDecision :=
  pure { accept := false, alreadyEnrolled := false, detail := some detail }

/-- `decide`, before its handler. -/
def decidePin (p : HostKeyPolicy) (presented : PresentedKey) : HostKeyTask HostKeyDecision := do
  match ← askKeys (.read p.scope) with
  | none => pure { accept := true, alreadyEnrolled := false }
  | some row =>
    if row.fingerprint = presented.fingerprint then pure { accept := true, alreadyEnrolled := true }
    else refuseMismatch p row.fingerprint presented.fingerprint

def decide (p : HostKeyPolicy) (presented : PresentedKey) : HostKeyTask HostKeyDecision :=
  (decidePin p presented).tryCatch fun _ =>
    internalError "SSH host key could not be verified (internal error)"

/-- The first connect of a scope: `INSERT … ON CONFLICT (scope) DO NOTHING`, and the row is read
again. -/
def enroll (p : HostKeyPolicy) (presented : PresentedKey) : HostKeyTask HostKeyDecision := do
  askKeys (.insertPin ⟨p.scope, p.vmId, p.endpoint, presented.fingerprint, presented.keyType⟩)
  match ← askKeys (.read p.scope) with
  | none => .raise (.other "host key pin vanished during enrollment")
  | some after =>
    if after.fingerprint ≠ presented.fingerprint then
      refuseMismatch p after.fingerprint presented.fingerprint
    else do
      recordAudit (.enrolled p.vmId p.jobId p.endpoint presented.fingerprint presented.keyType)
      pure { accept := true, alreadyEnrolled := false }

/-- `confirm`, before its handler. -/
def confirmPin (p : HostKeyPolicy) (presented : PresentedKey) : HostKeyTask HostKeyDecision := do
  match ← askKeys (.read p.scope) with
  | some before =>
    if before.fingerprint = presented.fingerprint then pure { accept := true, alreadyEnrolled := true }
    else refuseMismatch p before.fingerprint presented.fingerprint
  | none => enroll p presented

def confirm (p : HostKeyPolicy) (presented : PresentedKey) : HostKeyTask HostKeyDecision :=
  (confirmPin p presented).tryCatch fun _ =>
    internalError "SSH host key could not be recorded (internal error)"

def rotated (scope : String) : Option HostKeyRecord → HostKeyTask (Option HostKeyRecord)
  | some row => pure (some row)
  | none => askKeys (.read scope)

def setFingerprint (opts : PolicyOptions) (fingerprint : String)
    (actorUserId actorUsername : Option String) : HostKeyTask (Option HostKeyRecord) :=
  match normalizeFingerprint fingerprint with
  | none => .raise (.other ("\"" ++ fingerprint ++ "\" is not a recognized SSH host-key fingerprint. " ++
      "Paste a 64-char hex sha256 value or an OpenSSH-formatted \"SHA256:...\" value."))
  | some fingerprint => do
    let scope := buildScope opts
    let updated ← askKeys (.updatePin scope fingerprint)
    let current ← rotated scope updated
    match current with
    | none => pure none
    | some current => do
      recordAudit (.rotated opts.vmId actorUserId actorUsername
        (normalizeEndpoint opts.host opts.port) current.fingerprint fingerprint)
      pure (some current)

def unpin (opts : PolicyOptions) (actorUserId actorUsername : Option String) : HostKeyTask Bool := do
  let scope := buildScope opts
  match ← askKeys (.read scope) with
  | none => pure false
  | some existing => do
    askKeys (.deletePin scope)
    recordAudit (.unpinned opts.vmId actorUserId actorUsername
      (normalizeEndpoint opts.host opts.port) existing.fingerprint)
    pure true

end HostKeyService

/-! ## A connection -/

inductive SshOutcome
  | used
  | authFailed
  | rejected (detail : String)
  deriving DecidableEq, Repr

/-- `makeHostVerifier`: the refusal, if there is one. -/
def hostVerifier (hostKey : Option HostKeyPolicy) (presented : PresentedKey) : HostKeyTask (Option String) :=
  match hostKey with
  | none => pure none
  | some p => do
    let d ← HostKeyService.decide p presented
    pure (if d.accept then none else some (d.detail.getD "SSH host key verification failed"))

/-- `afterAuthenticated`: the refusal, if there is one. -/
def afterAuthenticated (hostKey : Option HostKeyPolicy) (presented : PresentedKey) :
    HostKeyTask (Option String) :=
  match hostKey with
  | none => pure none
  | some p => do
    let verdict ← HostKeyService.confirm p presented
    pure (if verdict.accept then none else some (verdict.detail.getD "SSH host key verification failed"))

def connect (hostKey : Option HostKeyPolicy) : HostKeyTask SshOutcome := do
  let presented ← askKeys .keyExchange
  match ← hostVerifier hostKey presented with
  | some detail => pure (.rejected detail)
  | none =>
    let authenticated ← askKeys .authenticate
    if !authenticated then pure .authFailed else
    match ← afterAuthenticated hostKey presented with
    | some detail => pure (.rejected detail)
    | none => pure .used

end ProxVM.Ssh
