import ProxVM.Provisioning.Reschedule

/-!
# Job routes

`POST /jobs/:id/retry`, `POST /jobs/:id/cancel` and `POST /jobs/:id/rollback` of
`routes/jobs.ts`.
-/

namespace ProxVM

open Interaction

/-- The `privileged` test of the job routes. -/
def privileged (user : UserWithRoles) : Bool :=
  decide (Role.admin ∈ user.roles) || decide (Role.operator ∈ user.roles)

/-- `assertJobAccess`: creator or privileged, and no private VM of others. -/
def assertJobAccess (user : UserWithRoles) (job : JobRow) : Task Unit :=
  if privileged user = false ∧ job.createdByUserId ≠ some user.row.id then
    throwApp (AppError.forbidden "No access to this job")
  else
    match job.vmId with
    | none => pure ()
    | some id => do
        let vm : Option VmRow ← ask (.vmsFindById id)
        match vm.filter VmRow.privacyFlag with
        | none => pure ()
        | some vm =>
            let visible : Bool ← ask (.vmsHasAccessOrOwns vm.id user.row.id)
            if visible then
              pure ()
            else
              throwApp (AppError.forbidden "This VM is privacy-flagged and you have no grant for it")

def accessibleJob (actor : UserId) (permission : Permission) (id : JobId) :
    Task (UserWithRoles × JobRow) := do
  let _ : UserWithRoles ← ask (.requirePermission actor permission)
  let user : UserWithRoles ← ask (.requireAuth actor)
  let job : JobRow ← ask (.jobsRequire id)
  assertJobAccess user job
  pure (user, job)

def jobAudit (event : String) (user : UserWithRoles) (id : JobId) (vmId : Option VmId) : AuditEntry :=
  { event, actor := ⟨some user.row.id, some user.row.username⟩, jobId := some id, vmId }

def nextAttempt (id : JobId) : Task Nat := do
  let stored : Option Nat ← ask (.redisGetAttempts id)
  let attempt := stored.getD 0 + 1
  ask (.redisSetAttempts id attempt)
  pure attempt

def enqueueRetry (id : JobId) : Task Unit := do
  let attempt ← nextAttempt id
  ask .getQueue
  enqueueProvisioningJob id attempt

/-- `POST /jobs/:id/retry`. -/
def postRetry (actor : UserId) (id : JobId) : Task Unit := do
  let (user, job) ← accessibleJob actor .jobsRetry id
  if job.status.isTerminal = false then
    throwApp (AppError.conflict "Job is still active; cancel it first")
  else
  ask (.jobsResetStatus id)
  ask (.jobsResetFailedSteps id)
  Prog.tryCatch (enqueueRetry id) fun e => do
    -- The job must not stay `PENDING` when nothing was queued.
    bestEffort do
      ask (.jobsUpdateStatus id .failed (some e.message))
      ask (.auditRecord (jobAudit "PROVISIONING_FAILED" user id job.vmId))
    .raise e
  ask (.auditRecord (jobAudit "PROVISIONING_RETRIED" user id job.vmId))

/-- `if (job.bullJobId) await removeBullJob(getQueue(), job.bullJobId)`. -/
def dropBullJob (bullJobId : Option BullJobId) : Task Unit :=
  match bullJobId with
  | none => pure ()
  | some _ => do
      ask .getQueue
      removeBullJob bullJobId

/-- `POST /jobs/:id/cancel`. -/
def postCancel (actor : UserId) (id : JobId) : Task Unit := do
  let (user, job) ← accessibleJob actor .jobsCancel id
  if job.status.isTerminal then
    throwApp (AppError.conflict "Job already finished")
  else
  ask (.jobsCancel id)
  dropBullJob job.bullJobId
  ask (.auditRecord (jobAudit "PROVISIONING_CANCELLED" user id job.vmId))

def saysNotFound (message : String) : Bool :=
  let text := String.ofList (message.toList.map Char.toLower)
  includes text "does not exist" || includes text "not found" || includes text "404"

def stopGuest (vm : VmRow) : Task Unit := do
  let status : String ← ask (.proxmoxQemuStatus vm.node vm.vmid)
  if status = "running" then do
    let stopUpid : String ← ask (.proxmoxStop vm.node vm.vmid)
    waitForTaskIfAny vm.node stopUpid
  else
    pure ()

def deleteGuest (vm : VmRow) : Task Unit :=
  Prog.tryCatch
    (do
      stopGuest vm
      let upid : String ← ask (.proxmoxDelete vm.node vm.vmid)
      waitForTaskIfAny vm.node upid)
    fun e =>
      if saysNotFound e.message then
        pure ()
      else
        throwApp
          { code := .proxmoxError, message := "Rollback could not delete the Proxmox VM: " ++ e.message
            statusCode := 502 }

def deleteJobVm (job : JobRow) : Task Unit :=
  match job.vmId with
  | none => pure ()
  | some id => do
      let found : Option VmRow ← ask (.vmsFindById id)
      match found with
      | none => pure ()
      | some vm =>
          ask .getProxmoxClient
          deleteGuest vm
          bestEffort do
            ask .getGuacDb
            ask (.guacDeleteVmResources vm.id)
          ask (.credsDelete vm.id)
          ask (.vmsSoftDelete vm.id)

/-- `POST /jobs/:id/rollback`; `delete` is the requested action. -/
def postRollback (actor : UserId) (id : JobId) (delete : Bool) : Task Unit := do
  let (user, job) ← accessibleJob actor .vmDelete id
  ask (.auditRecord (jobAudit "ROLLBACK" user id job.vmId))
  if delete then
    deleteJobVm job
    ask (.jobsCancel id)
  else
    pure ()

end ProxVM
