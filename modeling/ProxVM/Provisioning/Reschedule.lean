import ProxVM.Provisioning.Pipeline

/-!
# Queueing attempts

`enqueueProvisioningJob` and `removeBullJob` of `services/queue.ts`,
`handleProvisioningOutcome` of `provisioning/reschedule.ts`, and the processor of
`apps/worker/src/index.ts` that ties a run to the handling of its outcome.

The payload of an entry is determined by its id, so the worker's check of malformed
payloads never strikes here.
-/

namespace ProxVM

open Interaction

/-- `enqueueProvisioningJob`: queue an attempt and link it to the job row. -/
def enqueueProvisioningJob (jobDbId : JobId) (attempt : Nat) : Task Unit := do
  ask (.queueAdd ⟨jobDbId, attempt⟩ 0)
  ask (.jobsSetBullJobId jobDbId ⟨jobDbId, attempt⟩)

def removeBullJob (bullJobId : Option BullJobId) : Task Unit :=
  match bullJobId with
  | none => pure ()
  | some bull => ask (.queueRemove bull)

def bestEffort (p : Task Unit) : Task Unit := Prog.tryCatch p fun _ => pure ()

def workerFailure (jobDbId : JobId) : AuditEntry :=
  { event := "PROVISIONING_FAILED", actor := ⟨none, none⟩, jobId := some jobDbId, vmId := none }

/-- The deferral of a run: give up when the attempts are used up, else queue the
next attempt, and fail the job when that fails. -/
def reschedule (jobDbId : JobId) (attempt : Nat) : Task RunOutcome :=
  if maxWaitAttempts ≤ attempt + 1 then do
    ask (.jobsUpdateStatus jobDbId .failed
      (some "Guest never became reachable within the allowed time"))
    ask (.auditRecord (workerFailure jobDbId))
    pure .failed
  else
    Prog.tryCatch
      (do
        ask (.queueAdd ⟨jobDbId, attempt + 1⟩ waitRecheckDelayMs)
        pure .reschedule)
      fun e => do
        bestEffort do
          ask (.jobsUpdateStatus jobDbId .failed
            (some ("Failed to reschedule provisioning attempt: " ++ e.message)))
          ask (.auditRecord (workerFailure jobDbId))
        .raise e

def handleProvisioningOutcome (jobDbId : JobId) (attempt : Nat) :
    RunOutcome → Task RunOutcome
  | .reschedule => reschedule jobDbId attempt
  | outcome => pure outcome

def processAttempt (bull : BullJobId) : Task RunOutcome := do
  let outcome ← runProvisioningJob bull.jobDbId bull.attempt
  handleProvisioningOutcome bull.jobDbId bull.attempt outcome

end ProxVM
