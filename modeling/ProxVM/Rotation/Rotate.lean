import Mathlib.Data.List.Infix
import ProxVM.Rotation.Calls

/-!
# `rotateVmCredential`

The guest first, the vault second: the new password is applied to the guest by one
of the mechanisms, verified, and stored.  The mechanisms are `rotateViaSsh` and
`rotateViaGuestAgent`; a password that fails its verification is rolled back.
-/

namespace ProxVM.Rotation

open Interaction

/-! ## Quoting -/

def foldCase (text : String) : List Char := text.toList.map Char.toLower

/-- `/[\r\n]/`. -/
def hasLineBreak (value : String) : Bool := value.toList.any fun c => c = '\r' || c = '\n'

def singleQuote : Char := Char.ofNat 39

/-- `shellQuote`: each `'` becomes `'\''`. -/
def shellQuote (value : String) : Except Failure String :=
  if hasLineBreak value then
    .error (.app (AppError.validation
      "Value contains line breaks and cannot be safely quoted for shell use"))
  else
    .ok (String.ofList (value.toList.flatMap fun c =>
      if c = singleQuote then [singleQuote, '\\', singleQuote, singleQuote] else [c]))

def quoteWindowsArg (value : String) : String := "\"" ++ value ++ "\""

/-- `/["\r\n]/`. -/
def breaksQuotes (value : String) : Bool := value.toList.any (· = '"') || hasLineBreak value

/-- `/%[^%]*%/`: two percent signs. -/
def wrapsPercent (value : String) : Bool := decide (2 ≤ value.toList.count '%')

def windowsUsernameError (username : String) : Option String :=
  if breaksQuotes username then
    some "username contains \" or line breaks, which cannot be passed to net user safely"
  else if wrapsPercent username || username.toList.any fun c => decide (c ∈ ['&', '|', '<', '>', '^']) then
    some "username contains shell-significant characters that cmd.exe would interpret"
  else
    none

def windowsPasswordError (password : String) : Option String :=
  if breaksQuotes password then
    some ("password contains \" or line breaks, which cannot be passed to net user safely; " ++
      "choose another password")
  else if wrapsPercent password then
    some "password contains %-wrapping, which cmd.exe would expand; choose another password"
  else
    none

/-! ## The mechanisms -/

def mentions (word : String) (text : List Char) : Bool := decide (word.toList <:+: text)

/-- `chpasswd: .*error` in one line of the text. -/
def reportsChpasswdError (text : List Char) : Bool :=
  (text.splitOnP fun c => c = '\n' || c = '\r').any fun line =>
    line.tails.any fun tail =>
      "chpasswd: ".toList.isPrefixOf tail && mentions "error" (tail.drop 10)

/-- `/permission denied|not in the sudoers|chpasswd: .*error/i`. -/
def reportsRefusal (output : String) : Bool :=
  mentions "permission denied" (foldCase output) || mentions "not in the sudoers" (foldCase output) ||
    reportsChpasswdError (foldCase output)

/-- The test that `rotateViaSsh` puts to the output of `chpasswd`: no output counts
as a refusal. -/
def outputAccepted : Option String → Bool
  | none => false
  | some output => decide (output ≠ "") && !reportsRefusal output

/-- The reason a refused `chpasswd` is reported with. -/
def refusalMessage (output : Option String) : String :=
  "ssh-chpasswd rejected: " ++
    match output with
    | some text => String.ofList (text.toList.take 120)
    | none => "no output"

def rotateViaSsh (host username oldPassword newPassword : String) : RotationTask MechanismResult := do
  let quotedName ← Prog.ofExcept (shellQuote username)
  let quotedPassword ← Prog.ofExcept (shellQuote newPassword)
  let encrypted := quotedName ++ ":" ++ quotedPassword
  let text := "echo '" ++ encrypted ++ "' | sudo -n chpasswd 2>/dev/null || echo '" ++ encrypted ++
    "' | chpasswd"
  let result : SshResult ← askRotation
    (.runSshCommand ⟨some host, 22, username, oldPassword⟩ ⟨text, username, newPassword⟩)
  if ¬ result.authenticated then
    pure ⟨false, "ssh: " ++ result.detail⟩
  else if ¬ outputAccepted result.output then
    pure ⟨false, refusalMessage result.output⟩
  else
    pure ⟨true, "ssh-chpasswd"⟩

def exitMessage (result : AgentExecResult) : String :=
  "guest-agent exit " ++ (match result.exitCode with
    | some code => toString code
    | none => "null") ++ ": " ++ String.ofList (result.stderr.toList.take 120)

def execViaAgent (node : String) (vmid : Nat) (command : PasswordCommand) :
    RotationTask MechanismResult :=
  Prog.tryCatch (do
    let result : AgentExecResult ← askRotation (.startAgentExecAndWait node vmid command)
    if result.exitCode ≠ some 0 then
      pure ⟨false, exitMessage result⟩
    else
      pure ⟨true, "guest-agent"⟩)
    fun err => pure ⟨false, "guest-agent: " ++ err.message⟩

def rotateViaGuestAgent (node : String) (vmid : Nat) (username newPassword : String) :
    RotationTask MechanismResult := do
  let found : Option VmRow ← askRotation (.vmsFindByIdKey vmid node)
  if found.bind VmRow.osType = some .windows then
    match windowsPasswordError newPassword <|> windowsUsernameError username with
    | some problem => pure ⟨false, "windows-args: " ++ problem⟩
    | none =>
        execViaAgent node vmid
          ⟨"net user " ++ quoteWindowsArg username ++ " " ++ quoteWindowsArg newPassword,
            username, newPassword⟩
  else do
    let quotedName ← Prog.ofExcept (shellQuote username)
    let quotedPassword ← Prog.ofExcept (shellQuote newPassword)
    execViaAgent node vmid
      ⟨"echo '" ++ quotedName ++ ":" ++ quotedPassword ++ "' | chpasswd", username, newPassword⟩

def firstSuccess : List (RotationTask MechanismResult) → RotationTask (Option MechanismResult)
  | [] => pure none
  | attempt :: rest => do
      let result : Option MechanismResult ←
        Prog.tryCatch (do pure (some (← attempt))) fun _ => pure none
      match result with
      | none => firstSuccess rest
      | some result => if result.success then pure (some result) else firstSuccess rest

def attempts (vm : VmRow) (host username oldPassword newPassword : String) :
    List (RotationTask MechanismResult) :=
  if vm.osType = some .windows then
    [rotateViaGuestAgent vm.node vm.vmid username newPassword]
  else
    [rotateViaSsh host username oldPassword newPassword,
      rotateViaGuestAgent vm.node vm.vmid username newPassword]

/-! ## The vault -/

/-- `updateRow`: seal the password and write the row. -/
def updateRow (id : CredentialId) (username password : String) (status : CredStatus) :
    RotationTask Unit := do
  let ciphertext : String ← askRotation (.encrypt password)
  askRotation (.credsUpdateRow id username ciphertext status)

def store (vmId : VmId) (username password : String) (status : CredStatus) : RotationTask Unit := do
  let existing : Option VmCredentialRow ← askRotation (.credsFindByVm vmId)
  match existing with
  | some row => updateRow row.id username password status
  | none => do
      let ciphertext : String ← askRotation (.encrypt password)
      askRotation (.credsInsert vmId username ciphertext status)

def rotate (vmId : VmId) (username newPassword : String) : RotationTask Unit := do
  let row : Option VmCredentialRow ← askRotation (.credsFindByVm vmId)
  let row : VmCredentialRow ←
    Prog.orRaise row (.app (AppError.notFound "No credential stored for this VM"))
  updateRow row.id username newPassword .rotating
  askRotation (.credsStampRotated row.id)

/-! ## The stages -/

structure Plan where
  vm : VmRow
  host : String
  existing : VmCredentialRow
  username : String
  oldPassword : String
  newPassword : String
  deriving DecidableEq, Repr

/-- `AppError.conflict` of a rotation that finds another one at work. -/
def rotationInProgress : AppError :=
  AppError.conflict "A credential rotation is already in progress for this VM"

def prepare (decrypt : String → Except Failure String) (vmId : VmId) (opts : RotationOptions) :
    RotationTask Plan := do
  let vm : VmRow ← askRotation (.vmsRequireById vmId)
  let existing : Option VmCredentialRow ← askRotation (.credsFindByVm vmId)
  let existing : VmCredentialRow ←
    Prog.orRaise existing (.app (AppError.notFound "No credential stored for this VM"))
  let host : String ← Prog.orRaise (vm.ipAddress.filter fun ip => decide (ip ≠ ""))
    (.app (AppError.validation
      "VM has no known IP address. Credential rotation requires a reachable guest."))
  if vm.status ≠ .running ∧ vm.osType = some .linux then
    throwRotation (AppError.validation "VM must be running to rotate a credential online")
  else do
    let oldPassword ← Prog.ofExcept (decrypt existing.passwordCiphertext)
    let newPassword : String ← match opts.newPassword with
      | some password => pure password
      | none => askRotation .generatePassword
    if existing.status = .rotating ∧ ¬ opts.force then
      throwRotation rotationInProgress
    else
      pure ⟨vm, host, existing, opts.username.getD existing.username, oldPassword, newPassword⟩

/-- The compare-and-set claim; `force` takes over a claim that is stuck. -/
def claim (vmId : VmId) (force : Bool) (actor : RotationActor) : RotationTask Unit := do
  let claimed : Bool ← askRotation (.credsTryClaimRotation vmId)
  if claimed then
    pure ()
  else if force then do
    askRotation (.credsSetStatus vmId .rotating)
    askRotation (.auditRecord actor vmId .forcedRetry)
  else
    throwRotation rotationInProgress

def restoreStatus (vmId : VmId) (plan : Plan) : RotationTask Unit :=
  askRotation (.credsSetStatus vmId plan.existing.status)

/-- `getProxmoxClient`, which gives the claim back where it fails. -/
def connect (vmId : VmId) (plan : Plan) : RotationTask Unit :=
  Prog.tryCatch (askRotation .getProxmoxClient) fun err => do
    restoreStatus vmId plan
    .raise err

def applyPassword (vmId : VmId) (plan : Plan) (actor : RotationActor) :
    RotationTask MechanismResult := do
  let applied : Option MechanismResult ←
    firstSuccess (attempts plan.vm plan.host plan.username plan.oldPassword plan.newPassword)
  match applied with
  | some applied => pure applied
  | none => do
      restoreStatus vmId plan
      askRotation (.auditRecord actor vmId .noneApplied)
      throwRotation (AppError.external "Guest"
        ("Failed to apply the new password on the guest. The previous credential remains in " ++
          "use. Reasons: all mechanisms failed"))

/-- Try the old password again: `none`, or why that failed. -/
def rollBack (plan : Plan) : RotationTask (Option String) :=
  Prog.tryCatch (do
    let rolledBack ← rotateViaSsh plan.host plan.username plan.newPassword plan.oldPassword
    pure (if rolledBack.success then none else some rolledBack.message))
    fun err => pure (some err.message)

/-- `restored`: the old password is back and has been seen to work. -/
def confirmRollback (plan : Plan) (rollbackError : Option String) : RotationTask Bool := do
  if rollbackError.isSome then
    pure false
  else if plan.vm.osType = some .windows then
    askRotation (.probeTcp plan.host 3389)
  else do
    let result : SshResult ←
      askRotation (.probeSsh ⟨some plan.host, 22, plan.username, plan.oldPassword⟩)
    pure result.authenticated

def undo (vmId : VmId) (plan : Plan) (actor : RotationActor) (detail : String) :
    RotationTask Unit := do
  let rollbackError ← rollBack plan
  let restored ← confirmRollback plan rollbackError
  if restored then do
    store vmId plan.existing.username plan.oldPassword .verified
    askRotation (.auditRecord actor vmId (.rolledBack ("verification failed: " ++ detail)))
    throwRotation (AppError.external "Guest"
      ("New credential failed verification (" ++ detail ++
        "). The previous credential was restored."))
  else do
    store vmId plan.existing.username plan.oldPassword .failed
    askRotation (.auditRecord actor vmId (.rollbackFailed
      ("verification failed: " ++ detail ++ "; rollback " ++
        rollbackError.getD "could not be confirmed")))
    throwRotation (AppError.external "Guest"
      ("New credential failed verification and automatic rollback could not be confirmed. " ++
        "The stored credential may not match the guest — reset the password out-of-band and " ++
        "update the vault."))

/-- `verified`: by a TCP connection on Windows, by a login elsewhere. -/
def verifyPassword (vmId : VmId) (plan : Plan) (verify : Bool) (actor : RotationActor) :
    RotationTask Bool := do
  if ¬ verify then
    pure false
  else if plan.vm.osType = some .windows then
    askRotation (.probeTcp plan.host 3389)
  else do
    let result : SshResult ←
      askRotation (.probeSsh ⟨some plan.host, 22, plan.username, plan.newPassword⟩)
    if result.authenticated then
      pure true
    else do
      undo vmId plan actor result.detail
      pure false

def commit (vmId : VmId) (plan : Plan) (verified : Bool) : RotationTask Unit := do
  rotate vmId plan.username plan.newPassword
  if verified then
    askRotation (.credsMarkRotatedSuccess vmId)
  else
    askRotation (.credsSetStatus vmId .provisioned)

/-- Hand the new password to Guacamole: `none`, or why that failed. -/
def syncGuacamole (vmId : VmId) (newPassword : String) : RotationTask (Option String) :=
  Prog.tryCatch (do
    askRotation .getGuacDb
    askRotation (.guacUpdateConnectionPassword vmId newPassword)
    pure none)
    fun err => pure (some err.message)

/-- The `details` of a rotation that went through. -/
def successDetails (vm : VmRow) (guacSynced : Bool) : String :=
  (if vm.osType = some .windows then
    "Transport-level check only; RDP authentication is verified when opened"
  else
    "SSH authentication verified") ++
  (if guacSynced then
    ""
  else
    ". WARNING: the Guacamole connection password was NOT updated — remote sessions will fail " ++
      "until it is resynced.")

def carryOut (vmId : VmId) (opts : RotationOptions) (actor : RotationActor) (plan : Plan) :
    RotationTask RotationResult := do
  connect vmId plan
  let applied ← applyPassword vmId plan actor
  let verified ← verifyPassword vmId plan (decide (opts.verify ≠ some false)) actor
  commit vmId plan verified
  let guacError ← syncGuacamole vmId plan.newPassword
  askRotation (.auditRecord actor vmId
    (.success applied.message verified guacError.isNone guacError))
  pure
    { success := true, mechanism := applied.message, verified, guacSynced := guacError.isNone,
      details := successDetails plan.vm guacError.isNone }

def rotateVmCredential (decrypt : String → Except Failure String) (vmId : VmId)
    (opts : RotationOptions) (actor : RotationActor) : RotationTask RotationResult := do
  let plan ← prepare decrypt vmId opts
  claim vmId opts.force actor
  carryOut vmId opts actor plan

end ProxVM.Rotation
