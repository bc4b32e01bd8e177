import ProxVM.Lib.Pool
import ProxVM.Provisioning.Footprint
import ProxVM.Provisioning.Simulation
import ProxVM.Routes.Jobs
import ProxVM.Routes.Vms

/-!
# All parties that work on one job

The pool of a job: the workers that hold one of its attempts and the API handlers
of requests about it, each a program, over the shared world.  A worker takes a
queued attempt, executes `runProvisioningJob`, handles the outcome and finishes the
entry.  Requests arrive at any time.  Everything else in the installation may
change too, except the job's status and its queue entries.
-/

namespace ProxVM

open Interaction

/-- What a program of the pool is doing: executing an attempt, handling the outcome
of one, or serving a request. -/
inductive JobRole
  | running (attempt : Nat)
  | handling (attempt : Nat)
  | serving
  deriving DecidableEq, Repr

@[reducible] def JobRole.Result : JobRole → Type
  | .running _ => RunOutcome
  | .handling _ => RunOutcome
  | .serving => Unit

abbrev JobThread := Thread calls Failure JobRole.Result

abbrev JobPool := Pool calls Failure World JobRole.Result

inductive JobRequest (jobId : JobId) : Task Unit → Prop
  | retry (actor : UserId) : JobRequest jobId (postRetry actor jobId)
  | cancel (actor : UserId) : JobRequest jobId (postCancel actor jobId)
  | rollback (actor : UserId) (delete : Bool) : JobRequest jobId (postRollback actor jobId delete)

/-- What only the parties of the job write is as before: its status and its queue
entries. -/
structure JobUntouched (jobId : JobId) (w w' : World) : Prop where
  status : w'.db.jobStatus? jobId = w.db.jobStatus? jobId
  entries : ∀ attempt, w'.queue.state? ⟨jobId, attempt⟩ = w.queue.state? ⟨jobId, attempt⟩

def World.takeEntry (w : World) (bull : BullJobId) : World :=
  { w with queue := w.queue.move bull .queued .active }

def World.finishEntry (w : World) (bull : BullJobId) : World :=
  { w with queue := w.queue.move bull .active .finished }

/-- What follows the end of a program: a run is followed by the handling of its
outcome, and the end of a worker finishes its entry. -/
inductive JobEnds (jobId : JobId) :
    (role : JobRole) → Except Failure role.Result → World → Option JobThread → World → Prop
  | run {attempt : Nat} {outcome : RunOutcome} {w : World} :
      JobEnds jobId (.running attempt) (.ok outcome) w
        (some ⟨.handling attempt, handleProvisioningOutcome jobId attempt outcome⟩) w
  | failedRun {attempt : Nat} {e : Failure} {w : World} :
      JobEnds jobId (.running attempt) (.error e) w none (w.finishEntry ⟨jobId, attempt⟩)
  | handled {attempt : Nat} {result : Except Failure RunOutcome} {w : World} :
      JobEnds jobId (.handling attempt) result w none (w.finishEntry ⟨jobId, attempt⟩)
  | served {result : Except Failure Unit} {w : World} : JobEnds jobId .serving result w none w

/-- What happens to a job from outside: a worker takes a queued attempt, a request
arrives, a finished entry is evicted, or others act. -/
inductive JobTurn (jobId : JobId) (requests : Task Unit → Prop) :
    World → Option JobThread → World → Prop
  | dequeue {attempt : Nat} {w : World} (hqueued : w.queue.state? ⟨jobId, attempt⟩ = some .queued) :
      JobTurn jobId requests w (some ⟨.running attempt, runProvisioningJob jobId attempt⟩)
        (w.takeEntry ⟨jobId, attempt⟩)
  | request {p : Task Unit} {w : World} (hrequest : requests p) :
      JobTurn jobId requests w (some ⟨.serving, p⟩) w
  | evict {attempt : Nat} {w : World} :
      JobTurn jobId requests w none { w with queue := w.queue.evict ⟨jobId, attempt⟩ }
  | others {w w' : World} (huntouched : JobUntouched jobId w w') : JobTurn jobId requests w none w'

/-- The rules of a job's pool.  What is admitted and how calls are served beyond
`Served` depends on what a result assumes. -/
def jobRules (jobId : JobId) (requests : Task Unit → Prop)
    (serve : (c : Call) → World → Except Failure c.Reply → World → Prop)
    (admits : JobPool → JobRole → Call → Prop) : Rules calls Failure World JobRole.Result where
  serve := serve
  admits := admits
  ends := JobEnds jobId
  turn := JobTurn jobId requests

def newJobPool (actor : UserWithRoles) (jobId : JobId) (w : World) : JobPool :=
  ⟨w, [⟨.serving, enqueueNewJob actor jobId⟩]⟩

def World.HasQueued (w : World) (jobId : JobId) : Prop :=
  ∃ attempt, w.queue.state? ⟨jobId, attempt⟩ = some .queued

def JobRole.isRunning : JobRole → Bool
  | .running _ => true
  | _ => false

/-! ## The status of the job -/

def Call.setsStatus (jobId : JobId) : Call → Option JobStatus
  | .jobsUpdateStatus id status _ => if id = jobId then some status else none
  | .jobsResetStatus id => if id = jobId then some .pending else none
  | .jobsCancel id => if id = jobId then some .cancelled else none
  | _ => none

theorem Served.jobStatus {jobId : JobId} {c : Call} {w w' : World} {r : Except Failure c.Reply}
    (hserved : Served c w r w') (hjob : (w.db.jobStatus? jobId).isSome) :
    w'.db.jobStatus? jobId = w.db.jobStatus? jobId ∨
      ∃ status, c.setsStatus jobId = some status ∧ w'.db.jobStatus? jobId = some status := by
  obtain ⟨status₀, hstatus₀⟩ := Option.isSome_iff_exists.mp hjob
  by_cases hjobs : c.writesJobs = false
  · refine Or.inl ?_
    unfold Db.jobStatus? Db.job?
    rw [hserved.frame.jobs hjobs]
  cases c with
  | jobsUpdateStatus id status error =>
      obtain ⟨-, rfl⟩ | ⟨-, rfl⟩ := served_jobsUpdateStatus hserved
      · by_cases hid : jobId = id
        · subst hid
          exact Or.inr ⟨status, if_pos rfl, by simp [hstatus₀]⟩
        · exact Or.inl (by simp [hid])
      · exact Or.inl rfl
  | jobsSetBullJobId id bull =>
      obtain ⟨-, rfl⟩ | ⟨-, rfl⟩ := hserved.determined rfl (fun _ => rfl) fun _ => rfl
      · exact Or.inl Db.jobStatus?_setBullJobId
      · exact Or.inl rfl
  | jobsSetVmId id vmId =>
      obtain ⟨-, rfl⟩ | ⟨-, rfl⟩ := hserved.determined rfl (fun _ => rfl) fun _ => rfl
      · exact Or.inl Db.jobStatus?_setVmId
      · exact Or.inl rfl
  | jobsResetStatus id =>
      obtain ⟨-, rfl⟩ | ⟨-, rfl⟩ := hserved.determined rfl (fun _ => rfl) fun _ => rfl
      · by_cases hid : jobId = id
        · subst hid
          exact Or.inr ⟨.pending, if_pos rfl, by simp [hstatus₀]⟩
        · exact Or.inl (by simp [hid])
      · exact Or.inl rfl
  | jobsCancel id =>
      obtain ⟨-, rfl⟩ | ⟨-, rfl⟩ := hserved.determined rfl (fun _ => rfl) fun _ => rfl
      · by_cases hid : jobId = id
        · subst hid
          exact Or.inr ⟨.cancelled, if_pos rfl, by simp [hstatus₀]⟩
        · exact Or.inl (by simp [hid])
      · exact Or.inl rfl
  | jobsCreate request user =>
      refine Or.inl ?_
      rcases hserved.cases rfl with ⟨given, heq⟩ | ⟨e, heq⟩
      · change w.insertion (w.db.insertJob w.now given.id request user) _ = _ at heq
        cases hins : w.db.insertJob w.now given.id request user with
        | none =>
            rw [hins] at heq
            rw [← (Prod.mk.inj heq).2]
        | some db' =>
            rw [hins] at heq
            rw [← (Prod.mk.inj heq).2]
            -- The id of a new job is not that of this one, which is there already.
            have hne : jobId ≠ given.id := by
              rintro rfl
              rw [Db.jobStatus?, Db.job?_eq_none_of_insertJob hins] at hjob
              cases hjob
            exact (Db.jobStatus?_insertJob hins).trans (if_neg hne)
      · rw [← (Prod.mk.inj heq).2]
  | _ => exact absurd rfl hjobs

theorem Served.job {jobId : JobId} {c : Call} {w w' : World} {r : Except Failure c.Reply}
    (hserved : Served c w r w') (hjob : (w.db.jobStatus? jobId).isSome) :
    (w'.db.jobStatus? jobId).isSome := by
  rcases hserved.jobStatus hjob with heq | ⟨status, -, heq⟩
  · rw [heq]
    exact hjob
  · rw [heq]
    rfl

/-! ## What the requests call -/

theorem quiet_assertJobAccess (user : UserWithRoles) (job : JobRow) : Quiet (assertJobAccess user job) := by
  refine .ite trivial ?_
  cases job.vmId with
  | none => trivial
  | some id =>
      refine (quiet_ask rfl).bind fun vm => ?_
      cases vm.filter VmRow.privacyFlag with
      | none => trivial
      | some vm => exact (quiet_ask rfl).bind fun _ => .ite trivial trivial

theorem quiet_accessibleJob (actor : UserId) (permission : Permission) (jobId : JobId) :
    Quiet (accessibleJob actor permission jobId) :=
  (quiet_ask rfl).bind fun _ => (quiet_ask rfl).bind fun user => (quiet_ask rfl).bind fun job =>
    (quiet_assertJobAccess user job).bind fun _ => trivial

inductive StopCall (jobId : JobId) : Call → Prop
  | quiet {c : Call} (hquiet : c.isQuiet = true) : StopCall jobId c
  | cancel : StopCall jobId (.jobsCancel jobId)
  | unqueue (bull : BullJobId) : StopCall jobId (.queueRemove bull)
  | deleteGuest (node : String) (vmid : Nat) : StopCall jobId (.proxmoxDelete node vmid)
  | deleteRow (id : VmId) : StopCall jobId (.vmsSoftDelete id)

theorem StopCall.of_quiet {jobId : JobId} {α : Type} {p : Task α} (hp : Quiet p) : Only (StopCall jobId) p :=
  hp.mono fun _ => .quiet

theorem only_postCancel (actor : UserId) (jobId : JobId) :
    Only (StopCall jobId) (postCancel actor jobId) := by
  have hdrop : ∀ bull, Only (StopCall jobId) (dropBullJob bull) := by
    intro bull
    cases bull with
    | none => trivial
    | some bull =>
        exact (only_perform.mpr (.quiet rfl)).bind fun _ => only_perform.mpr (.unqueue bull)
  refine (StopCall.of_quiet (quiet_accessibleJob actor .jobsCancel jobId)).bind fun access => ?_
  refine .ite trivial ((only_perform.mpr .cancel).bind fun _ => ?_)
  exact (hdrop _).bind fun _ => only_perform.mpr (.quiet rfl)

theorem only_deleteGuest (jobId : JobId) (vm : VmRow) : Only (StopCall jobId) (deleteGuest vm) := by
  have hstop : Quiet (stopGuest vm) :=
    (quiet_ask rfl).bind fun _ => .ite ((quiet_ask rfl).bind fun _ => quiet_waitForTaskIfAny _ _) trivial
  refine Only.tryCatch ?_ fun e => .ite trivial trivial
  refine (StopCall.of_quiet hstop).bind fun _ => ?_
  refine (only_perform.mpr (.deleteGuest vm.node vm.vmid)).bind fun upid => ?_
  exact StopCall.of_quiet (quiet_waitForTaskIfAny _ _)

theorem only_deleteJobVm (jobId : JobId) (job : JobRow) : Only (StopCall jobId) (deleteJobVm job) := by
  have hguac : ∀ vm : VmRow, Quiet (bestEffort do
      ask .getGuacDb
      ask (.guacDeleteVmResources vm.id)) := fun vm =>
    ((quiet_ask rfl).bind fun _ => quiet_ask rfl).tryCatch fun _ => trivial
  unfold deleteJobVm
  cases job.vmId with
  | none => trivial
  | some id =>
      refine (only_perform.mpr (.quiet rfl)).bind fun found => ?_
      cases found with
      | none => trivial
      | some vm =>
          refine (only_perform.mpr (.quiet rfl)).bind fun _ => (only_deleteGuest jobId vm).bind fun _ => ?_
          refine (StopCall.of_quiet (hguac vm)).bind fun _ => ?_
          exact (only_perform.mpr (.quiet rfl)).bind fun _ => only_perform.mpr (.deleteRow vm.id)

theorem only_postRollback (actor : UserId) (jobId : JobId) (delete : Bool) :
    Only (StopCall jobId) (postRollback actor jobId delete) := by
  refine (StopCall.of_quiet (quiet_accessibleJob actor .vmDelete jobId)).bind fun access => ?_
  refine (only_perform.mpr (.quiet rfl)).bind fun _ => .ite ?_ trivial
  exact (only_deleteJobVm jobId access.2).bind fun _ => only_perform.mpr .cancel

/-! ## Playing a job

One party after the other, each undisturbed. -/

def World.afterRequest (fates : Fates) (p : Task Unit) (w : World) : World :=
  (drive (World.play fates) 60 (p, w)).2

def World.afterRun (fates : Fates) (jobId : JobId) (attempt : Nat) (w : World) : World :=
  (drive (World.play fates) 200
    (runProvisioningJob jobId attempt, w.takeEntry ⟨jobId, attempt⟩)).2

def World.afterAttempt (fates : Fates) (jobId : JobId) (attempt : Nat) (outcome : RunOutcome)
    (w : World) : World :=
  ((drive (World.play fates) 20
    (handleProvisioningOutcome jobId attempt outcome, w.afterRun fates jobId attempt)).2).finishEntry
    ⟨jobId, attempt⟩

section play

variable {jobId : JobId} {requests : Task Unit → Prop}
  {serve : (c : Call) → World → Except Failure c.Reply → World → Prop} {fates : Fates}
  {w : World} {others : List JobThread}

abbrev admitsAll : JobPool → JobRole → Call → Prop := fun _ _ _ => True

theorem poolRun_serve {p : Task Unit} (result : Except Failure Unit)
    (hserve : ∀ c w r w', World.play fates c w = some (r, w') → serve c w r w')
    (hresult : (drive (World.play fates) 60 (p, w)).1.result? = some result) :
    PoolRun (jobRules jobId requests serve admitsAll) ⟨w, ⟨JobRole.serving, p⟩ :: others⟩
      ⟨w.afterRequest fates p, others⟩ :=
  poolRun_to_end (R := jobRules jobId requests serve admitsAll) (fun _ _ _ => trivial) hserve 60
    JobRole.serving p w hresult JobEnds.served

theorem poolRun_request {p : Task Unit} (result : Except Failure Unit) (hrequest : requests p)
    (hserve : ∀ c w r w', World.play fates c w = some (r, w') → serve c w r w')
    (hresult : (drive (World.play fates) 60 (p, w)).1.result? = some result) :
    PoolRun (jobRules jobId requests serve admitsAll) ⟨w, others⟩ ⟨w.afterRequest fates p, others⟩ :=
  .head (.turn (.request hrequest)) (poolRun_serve result hserve hresult)

theorem poolRun_attempt {attempt : Nat} {outcome : RunOutcome} (result : Except Failure RunOutcome)
    (hserve : ∀ c w r w', World.play fates c w = some (r, w') → serve c w r w')
    (hqueued : w.queue.state? ⟨jobId, attempt⟩ = some .queued) (hrun : (drive (World.play fates) 200
      (runProvisioningJob jobId attempt, w.takeEntry ⟨jobId, attempt⟩)).1.result? = some (.ok outcome))
    (hresult : (drive (World.play fates) 20 (handleProvisioningOutcome jobId attempt outcome,
      w.afterRun fates jobId attempt)).1.result? = some result) :
    PoolRun (jobRules jobId requests serve admitsAll) ⟨w, others⟩
      ⟨w.afterAttempt fates jobId attempt outcome, others⟩ := by
  have hrunning : PoolRun (jobRules jobId requests serve admitsAll)
      ⟨w.takeEntry ⟨jobId, attempt⟩, ⟨.running attempt, runProvisioningJob jobId attempt⟩ :: others⟩
      ⟨w.afterRun fates jobId attempt,
        ⟨.handling attempt, handleProvisioningOutcome jobId attempt outcome⟩ :: others⟩ :=
    poolRun_to_end (R := jobRules jobId requests serve admitsAll) (fun _ _ _ => trivial) hserve 200
      (JobRole.running attempt) (runProvisioningJob jobId attempt) _ hrun JobEnds.run
  have hhandled : PoolRun (jobRules jobId requests serve admitsAll)
      ⟨w.afterRun fates jobId attempt,
        ⟨.handling attempt, handleProvisioningOutcome jobId attempt outcome⟩ :: others⟩
      ⟨w.afterAttempt fates jobId attempt outcome, others⟩ :=
    poolRun_to_end (R := jobRules jobId requests serve admitsAll) (fun _ _ _ => trivial) hserve 20
      (JobRole.handling attempt) (handleProvisioningOutcome jobId attempt outcome) _ hresult
      JobEnds.handled
  exact .head (.turn (.dequeue hqueued)) (hrunning.trans hhandled)

end play

end ProxVM
