import ProxVM.Provisioning.Pipeline
import ProxVM.Provisioning.Reschedule

/-!
# VM routes that create VMs

`POST /vms/provision` and `POST /vms/:id/clone` of `routes/vms.ts`.

A provisioning request is parsed and completed by the defaults resolver before it
is used; what comes out of that, a request or an error, is a parameter here.  The
job's reservation is a transaction that holds the lock on the requester's row.
-/

namespace ProxVM

open Interaction

def reachedQuota (user : UserId) : Task (Option Nat) := do
  let quota : Option Nat ← ask (.getUserQuota user)
  match quota with
  | none => pure none
  | some q => do
      let load ← countProvisionLoad user
      pure (if q ≤ load then some q else none)

def quotaReachedBy (actor : UserWithRoles) : Task (Option Nat) :=
  if Role.admin ∈ actor.roles then pure none else reachedQuota actor.row.id

def denyOverQuota (actor : UserWithRoles) (quota : Nat) : Task Unit := do
  ask (.auditRecord
    { event := "QUOTA_DENIED", actor := ⟨some actor.row.id, some actor.row.username⟩, jobId := none
      vmId := none })
  throwApp (AppError.forbidden ("VM limit reached (" ++ toString quota ++
    "). Contact your administrator to raise your quota."))

def quotaGate (actor : UserWithRoles) : Task Unit := do
  let reached ← quotaReachedBy actor
  match reached with
  | none => pure ()
  | some quota => denyOverQuota actor quota

/-! ## `POST /vms/provision` -/

inductive Reservation
  | reserved (job : JobRow)
  | overQuota (quota : Nat)
  | duplicate (job : JobRow)

def reserveLocked (actor : UserWithRoles) (body : ProvisionRequest) : Task Reservation := do
  let reached ← quotaReachedBy actor
  match reached with
  | some quota => pure (.overQuota quota)
  | none => do
      let duplicate : Option JobRow ← ask (.jobsActiveWithName actor.row.id body.name)
      match duplicate with
      | some job => pure (.duplicate job)
      | none => do
          let job : JobRow ← ask (.jobsCreate body actor.row.id)
          pure (.reserved job)

def reserve (actor : UserWithRoles) (body : ProvisionRequest) : Task Reservation := do
  ask (.usersLock actor.row.id)
  let result ← Prog.tryCatch (reserveLocked actor body) fun e => do
    bestEffort (ask (.usersUnlock actor.row.id))
    .raise e
  ask (.usersUnlock actor.row.id)
  pure result

def reservedJob (actor : UserWithRoles) (body : ProvisionRequest) : Reservation → Task JobRow
  | .reserved job => pure job
  | .overQuota quota => do
      denyOverQuota actor quota
      .raise (.other "unreachable")
  | .duplicate job =>
      throwApp (AppError.conflict ("You already have an active provisioning job for \"" ++ body.name ++
        "\" (job " ++ toString job.id ++ ", status " ++ job.status.text ++
        "). Wait for it to finish or cancel it before submitting again."))

def newJobAudit (event : String) (actor : UserWithRoles) (id : JobId) : AuditEntry :=
  { event, actor := ⟨some actor.row.id, some actor.row.username⟩, jobId := some id, vmId := none }

def enqueueNewJob (actor : UserWithRoles) (id : JobId) : Task Unit := do
  Prog.tryCatch
    (do
      ask .getQueue
      enqueueProvisioningJob id 0)
    fun e => do
      bestEffort do
        ask (.jobsUpdateStatus id .failed (some e.message))
        ask (.auditRecord (newJobAudit "PROVISIONING_FAILED" actor id))
      .raise e
  ask (.auditRecord (newJobAudit "PROVISIONING_STARTED" actor id))

def checkAssignments (actor : UserId) (body : ProvisionRequest) : Task Unit :=
  match body.assignToUserIds with
  | [] => pure ()
  | _ => do
      let _ : UserWithRoles ← ask (.requirePermission actor .vmEdit)
      pure ()

def checkRequestPolicy (actor : UserWithRoles) (body : ProvisionRequest) : Task Unit :=
  if Role.admin ∈ actor.roles then
    pure ()
  else
    ask (.validateProvisionPolicy ⟨body.cpu, body.ramMb, body.diskGb, body.network⟩ none)

def admitProvision (actor : UserId) (user : UserWithRoles) (body : ProvisionRequest) :
    Task JobRow := do
  checkAssignments actor body
  let templateId ← Prog.orRaise body.templateId (validation
    "templateId is required. Register the template first on the Templates page.")
  let _ : TemplateRow ← ask (.templatesRequireById templateId)
  checkRequestPolicy user body
  let password : String ← ask (.encrypt body.password)
  let result ← reserve user { body with password }
  reservedJob user body result

def postProvision (actor : UserId) (resolved : Except Failure ProvisionRequest) : Task JobId := do
  let user : UserWithRoles ← ask (.requirePermission actor .vmCreate)
  quotaGate user
  let body ← Prog.ofExcept resolved
  let job ← admitProvision actor user body
  enqueueNewJob user job.id
  pure job.id

/-! ## `POST /vms/:id/clone` -/

structure CloneBody where
  name : String
  target : Option String
  storage : Option String

/-- `ctx.vms.requireById`. -/
def loadVm (id : VmId) : Task VmRow := do
  let vm : Option VmRow ← ask (.vmsFindById id)
  Prog.orRaise vm (.app (AppError.notFound "VM not found"))

def chooseCloneVmid (node : String) : Task Nat := do
  let taken : List Nat ← ask (.vmsListVmidsByNode node)
  let next : Nat ← ask .proxmoxNextId
  Prog.orRaise (StepRunner.advanceVmid (fun v => decide (v ∈ taken)) 1000 next)
    (.app (AppError.conflict ("No free VM ID found on node " ++ node ++ ".")))

def cloneVm (user : UserWithRoles) (id : VmId) (body : CloneBody) : Task VmRow := do
  let vm ← loadVm id
  ask .getProxmoxClient
  let node := body.target.getD vm.node
  let vmid ← chooseCloneVmid node
  let upid : String ← ask (.proxmoxClone
    { node := vm.node, templateVmid := vm.vmid, newVmid := vmid, name := body.name, full := true,
      storage := body.storage, target := body.target })
  waitForTaskIfAny vm.node upid
  let record : VmRow ← ask (.vmsCreate
    { vmid, node, name := body.name, status := .stopped, osType := vm.osType,
      createdByUserId := some user.row.id, templateId := none })
  ask (.vmsSetAccess record.id user.row.id)
  ask (.auditRecord
    { event := "VM_CLONED", actor := ⟨some user.row.id, some user.row.username⟩, jobId := none
      vmId := some record.id })
  pure record

/-- `resolveVmAccess` with the check of its callers. -/
def requireVmAccess (actor : UserId) (id : VmId) : Task Unit := do
  let user : UserWithRoles ← ask (.requireAuth actor)
  let allowed : Bool ← ask (.vmsVisibleTo user.row.id user.roles id)
  if allowed then pure () else throwApp AppError.forbidden

def postClone (actor : UserId) (id : VmId) (body : Except Failure CloneBody) : Task VmRow := do
  requireVmAccess actor id
  let user : UserWithRoles ← ask (.requirePermission actor .vmCreate)
  quotaGate user
  let body ← Prog.ofExcept body
  cloneVm user id body

end ProxVM
