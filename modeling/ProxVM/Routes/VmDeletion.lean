import ProxVM.Drift.System
import ProxVM.Routes.Jobs
import ProxVM.Routes.Vms

/-!
# `DELETE /vms/:id`

The handler of `routes/vms.ts`: erase the guest in Proxmox, then the
connections of the VM, then its records.  A failure of Proxmox whose text says that
there is no such guest counts as a deletion.
-/

namespace ProxVM

open Interaction

def eraseGuest (vm : VmRow) : Task Unit := do
  stopGuest vm
  let upid : String ← ask (.proxmoxDelete vm.node vm.vmid)
  waitForTaskIfAny vm.node upid

theorem deleteGuest_eq (vm : VmRow) : deleteGuest vm = Prog.tryCatch (eraseGuest vm) fun e =>
    if saysNotFound e.message then
      pure ()
    else
      throwApp
        { code := .proxmoxError, message := "Rollback could not delete the Proxmox VM: " ++ e.message
          statusCode := 502 } := rfl

/-- `proxmoxDeleted` and `proxmoxError`. -/
structure Erasure where
  proxmoxDeleted : Bool
  proxmoxError : Option String
  deriving DecidableEq, Repr

def Erasure.ofError (message : String) : Erasure :=
  if saysNotFound message then ⟨true, none⟩ else ⟨false, some message⟩

/-- `if (proxmoxError && proxmoxDeleted === false)`: the empty text is falsy. -/
def Erasure.objection (outcome : Erasure) : Option String :=
  if outcome.proxmoxDeleted then none else outcome.proxmoxError.filter fun message => message ≠ ""

def attemptErasure (vm : VmRow) : Task Erasure :=
  Prog.tryCatch
    (do
      eraseGuest vm
      pure ⟨true, none⟩)
    fun e => pure (.ofError e.message)

def requireErasure (vm : VmRow) : Task Bool := do
  let outcome ← attemptErasure vm
  match outcome.objection with
  | none => pure outcome.proxmoxDeleted
  | some message =>
      throwApp
        { code := .proxmoxError
          message := "Proxmox VM deletion failed, nothing was removed from ProxVM records: " ++ message
          statusCode := 502 }

def deleteConnections (vm : VmRow) : Task Unit :=
  Prog.tryCatch
    (do
      ask .getGuacDb
      ask (.guacDeleteVmResources vm.id))
    fun e => throwApp
      { code := .guacamoleError
        message := "Proxmox VM was deleted but Guacamole cleanup failed: " ++ e.message
        statusCode := 502 }

def checkPrivacyFlag (user : UserWithRoles) (vm : VmRow) : Task Unit :=
  if vm.privacyFlag then do
    let visible : Bool ← ask (.vmsHasAccessOrOwns vm.id user.row.id)
    if visible then
      pure ()
    else
      throwApp (AppError.forbidden "This VM is privacy-flagged and you have no grant for it")
  else
    pure ()

inductive DeleteReply
  | refused (message : String)
  | deleted (proxmoxDeleted : Bool)
  deriving DecidableEq, Repr

def deleteRecords (user : UserWithRoles) (vm : VmRow) : DriftTask Unit := do
  askDrift (.base (.credsDelete vm.id))
  let _closed : Nat ← askDrift (.closePowerPeriod vm.id)
  askDrift (.base (.vmsSoftDelete vm.id))
  -- A soft delete fires no cascades.
  let _direct : Nat ← askDrift (.vmsDeleteDirectAccess vm.id)
  let _grouped : Nat ← askDrift (.vmsDeleteGroupAccess vm.id)
  askDrift (.base (.auditRecord
    { event := "VM_DELETED", actor := ⟨some user.row.id, some user.row.username⟩, jobId := none
      vmId := some vm.id }))

def eraseVm (user : UserWithRoles) (vm : VmRow) : DriftTask DeleteReply := do
  askDrift (.base .getProxmoxClient)
  let proxmoxDeleted ← ofTask (requireErasure vm)
  ofTask (deleteConnections vm)
  deleteRecords user vm
  pure (.deleted proxmoxDeleted)

/-- `DELETE /vms/:id`; `body` is the parsed confirmation or the error of its parser. -/
def deleteVm (actor : UserId) (id : VmId) (body : Except Failure String) : DriftTask DeleteReply := do
  let user : UserWithRoles ← askDrift (.base (.requirePermission actor .vmDelete))
  let vm ← ofTask (loadVm id)
  ofTask (checkPrivacyFlag user vm)
  let confirmText ← Prog.ofExcept body
  if confirmText = "DELETE " ++ vm.name then
    eraseVm user vm
  else
    pure (.refused ("Confirmation text must be exactly: DELETE " ++ vm.name))

end ProxVM
