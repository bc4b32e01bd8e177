import ProxVM.Provisioning.Calls
import ProxVM.Services.Credentials

/-!
# The calls of a credential rotation

`rotateVmCredential` of `services/rotation.ts` is a program in the
sense of `ProxVM.Lib.Interaction`.  This module lists its calls: one SQL statement,
one method of an external client, or one session with the guest.

A command for the guest is the text the guest is sent, together with the account
and the password the text sets.
-/

namespace ProxVM.Rotation

open Interaction

structure RotationOptions where
  newPassword : Option String
  username : Option String
  verify : Option Bool
  force : Bool
  deriving DecidableEq, Repr

structure RotationActor where
  userId : UserId
  username : String
  deriving DecidableEq, Repr

structure RotationResult where
  success : Bool
  mechanism : String
  verified : Bool
  details : String
  guacSynced : Bool
  deriving DecidableEq, Repr

/-- What a mechanism reports: `{ success, message }`. -/
structure MechanismResult where
  success : Bool
  message : String
  deriving DecidableEq, Repr

structure PasswordCommand where
  text : String
  username : String
  password : String
  deriving DecidableEq, Repr

/-- The result of `startAgentExecAndWait`. -/
structure AgentExecResult where
  exitCode : Option Int
  stderr : String
  deriving DecidableEq, Repr

/-- The `detail` of the `PASSWORD_ROTATED` audit rows. -/
inductive RotationDetail
  | forcedRetry
  | noneApplied
  | rolledBack (reason : String)
  | rollbackFailed (reason : String)
  | success (mechanism : String) (verified guacSynced : Bool) (guacError : Option String)
  deriving DecidableEq, Repr

inductive RotationCall
  -- services/vms.ts
  | vmsRequireById (id : VmId)
  | vmsFindByIdKey (vmid : Nat) (node : String)
  -- services/credentials.ts
  | credsFindByVm (vmId : VmId)
  | credsTryClaimRotation (vmId : VmId)
  | credsSetStatus (vmId : VmId) (status : CredStatus)
  | credsUpdateRow (id : CredentialId) (username ciphertext : String) (status : CredStatus)
  | credsInsert (vmId : VmId) (username ciphertext : String) (status : CredStatus)
  | credsStampRotated (id : CredentialId)
  | credsMarkRotatedSuccess (vmId : VmId)
  -- crypto
  | encrypt (plaintext : String)
  | generatePassword
  -- ssh/client.ts, provisioning/pipeline.ts
  | runSshCommand (target : SshTarget) (command : PasswordCommand)
  | probeSsh (target : SshTarget)
  | probeTcp (host : String) (port : Nat)
  -- proxmox/client.ts
  | getProxmoxClient
  | startAgentExecAndWait (node : String) (vmid : Nat) (command : PasswordCommand)
  -- services/guacamole.ts, services/audit.ts
  | getGuacDb
  | guacUpdateConnectionPassword (vmId : VmId) (newPassword : String)
  | auditRecord (actor : RotationActor) (vmId : VmId) (detail : RotationDetail)

@[reducible] def RotationCall.Reply : RotationCall → Type
  | .vmsRequireById _ => VmRow
  | .vmsFindByIdKey _ _ => Option VmRow
  | .credsFindByVm _ => Option VmCredentialRow
  | .credsTryClaimRotation _ => Bool
  | .encrypt _ => String
  | .generatePassword => String
  | .runSshCommand _ _ => SshResult
  | .probeSsh _ => SshResult
  | .probeTcp _ _ => Bool
  | .startAgentExecAndWait _ _ _ => AgentExecResult
  | _ => Unit

@[reducible] def rotationCalls : Signature := ⟨RotationCall, RotationCall.Reply⟩

abbrev RotationTask (α : Type) := Prog rotationCalls Failure α

def askRotation (c : RotationCall) : RotationTask c.Reply := Prog.perform (F := rotationCalls) c

/-- `throw`. -/
def throwRotation {α : Type} (e : AppError) : RotationTask α := .raise (.app e)

end ProxVM.Rotation
