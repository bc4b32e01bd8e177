import ProxVM.Provisioning.JobSystem

/-!
# Stranded jobs

A job is stranded when its status is not terminal and no attempt of it is queued or
executing.  With Postgres and Redis calls succeeding, who leaves a job non-terminal
owes it an attempt: a program *owes* from the moment it writes a non-terminal status
(or takes the only queued attempt) until it queues an attempt, writes a terminal
status or reads one.  Every program pays before it ends, so a job is stranded only
when a payment fails.
-/

namespace ProxVM

open Interaction

variable {jobId : JobId} {owes : Bool}

/-! ## Debts -/

def owesAfter (jobId : JobId) : (c : Call) → Except Failure c.Reply → Bool → Bool
  | .jobsUpdateStatus id status _, .ok _, owes => if id = jobId then !status.isTerminal else owes
  | .jobsResetStatus id, .ok _, owes => decide (id = jobId) || owes
  | .jobsCancel id, .ok _, owes => !decide (id = jobId) && owes
  | .queueAdd bull _, .ok _, owes => !decide (bull.jobDbId = jobId) && owes
  | .jobsRequire id, .ok job, owes => !(decide (id = jobId) && job.status.isTerminal) && owes
  | _, _, owes => owes

def Call.isDependable (jobId : JobId) : Call → Bool
  | .jobsRequire id => decide (id = jobId)
  | .jobsUpdateStatus _ _ _ => true
  | .jobsSetBullJobId _ _ => true
  | .jobsCompletedSteps _ => true
  | .jobsResetStatus _ => true
  | .jobsResetFailedSteps _ => true
  | .usersFindById _ => true
  | .resolveEffectiveAccess _ => true
  | .getUserQuota _ => true
  | .countUserVms _ => true
  | .countActiveProvisioningJobs _ => true
  | .templatesFindById _ => true
  | .vmsFindById _ => true
  | .auditRecord _ => true
  | .publishProgress _ _ => true
  | .getQueue => true
  | .queueAdd _ _ => true
  | .redisGetAttempts _ => true
  | .redisSetAttempts _ _ => true
  | .decrypt _ => true
  | _ => false

def debt (jobId : JobId) : Context calls Failure Bool where
  serve c owes r owes' := (c.isDependable jobId = true → ∃ a, r = .ok a) ∧ owes' = owesAfter jobId c r owes
  rely := Eq
  guarantee _ _ := True
  rely_refl _ := rfl
  rely_trans := Eq.trans

theorem holds_ask_dependable {c : Call} {Q : Except Failure c.Reply → Bool → Prop}
    (hc : c.isDependable jobId = true) (hok : ∀ a, Q (.ok a) (owesAfter jobId c (.ok a) owes)) :
    (debt jobId).holds (ask c) Q owes := by
  refine Context.holds_perform.mpr fun owes' hrely => ⟨trivial, fun r owes'' hserve => ?_⟩
  obtain rfl : owes = owes' := hrely
  obtain ⟨hdep, rfl⟩ := hserve
  obtain ⟨a, rfl⟩ := hdep hc
  exact hok a

def Call.KeepsPaid (jobId : JobId) (c : Call) : Prop := ∀ r, owesAfter jobId c r false = false

theorem Call.keepsPaid_of_isQuiet {c : Call} (hquiet : c.isQuiet = true) : c.KeepsPaid jobId := by
  intro r
  cases c with
  | jobsRequire id =>
      cases r with
      | ok job => exact Bool.and_false _
      | error e => rfl
  | _ => first | rfl | cases hquiet

theorem Call.keepsPaid_of_stopCall {id : JobId} {c : Call} (hstop : StopCall id c) : c.KeepsPaid jobId := by
  cases hstop with
  | quiet hquiet => exact Call.keepsPaid_of_isQuiet hquiet
  | cancel =>
      intro r
      cases r with
      | ok a => exact Bool.and_false _
      | error e => rfl
  | _ => exact fun r => rfl

variable {α : Type} {job : JobRow} {policyAdmin : Bool} {attempt : Nat} {actor : UserWithRoles}

theorem keepsPaid_of_quiet {p : Task α} (hp : Quiet p) : Only (Call.KeepsPaid jobId) p :=
  hp.mono fun _ => Call.keepsPaid_of_isQuiet

theorem holds_paid {p : Task α} (hp : Only (Call.KeepsPaid jobId) p) :
    (debt jobId).holds p (fun _ owes => owes = false) false := by
  refine Context.holds_of_only (I := fun owes => owes = false) (fun _ _ howes hrely => ?_)
    (fun _ _ _ _ => trivial) (fun c owes r owes' hc howes hserve => ?_) hp rfl
  · rw [← howes]
    exact hrely.symm
  · subst howes
    exact hserve.2.trans (hc r)

theorem holds_smooth {p : Task α} (hp : Smooth (fun c => Call.isDependable jobId c = true) p) :
    (debt jobId).holds p (fun r _ => ∃ a, r = .ok a) owes :=
  Context.holds_mono (Context.holds_of_smooth (I := fun _ => True) (fun _ _ _ _ => trivial)
    (fun _ _ _ _ => trivial) (fun _ _ _ _ hc _ hserve => ⟨hserve.1 hc, trivial⟩) hp trivial)
    fun _ _ h => h.1

theorem holds_bind_smooth {α β : Type} {p : Task α} {f : α → Task β}
    {Q : Except Failure β → Bool → Prop} (hp : Smooth (fun c => Call.isDependable jobId c = true) p)
    (hf : ∀ a owes, (debt jobId).holds (f a) Q owes) : (debt jobId).holds (p >>= f) Q owes := by
  rw [Context.holds_bind]
  refine Context.holds_mono (holds_smooth hp) fun r owes' hr => ?_
  obtain ⟨a, rfl⟩ := hr
  exact hf a owes'

theorem smooth_ask {c : Call} (hc : c.isDependable jobId = true) :
    Smooth (fun c => Call.isDependable jobId c = true) (ask c) := smooth_perform.mpr hc

/-! ## Workers -/

def RunSettled : Except Failure RunOutcome → Bool → Prop
  | .ok .reschedule, _ => True
  | _, owes => owes = false

theorem runSettled_paid (r : Except Failure RunOutcome) : RunSettled r false := by
  cases r with
  | error e => rfl
  | ok outcome => cases outcome <;> trivial

theorem holds_runSettled {p : Task RunOutcome} (hp : Only (Call.KeepsPaid jobId) p) :
    (debt jobId).holds p RunSettled false :=
  Context.holds_mono (holds_paid hp) fun r owes howes => by
    rw [howes]
    exact runSettled_paid r

theorem holds_bind_terminal {status : JobStatus} {error : Option String}
    {p : Unit → Task α} {Q : Except Failure α → Bool → Prop} (hterminal : status.isTerminal = true)
    (hp : (debt jobId).holds (p ()) Q false) :
    (debt jobId).holds (ask (.jobsUpdateStatus jobId status error) >>= p) Q owes := by
  rw [Context.holds_bind]
  refine holds_ask_dependable rfl fun a => ?_
  have hpaid : owesAfter jobId (.jobsUpdateStatus jobId status error) (.ok a) owes = false := by
    simp [owesAfter, hterminal]
  rw [hpaid]
  exact hp

theorem smooth_jobAuditActor : Smooth (fun c => Call.isDependable jobId c = true) (jobAuditActor jobId) := by
  refine (smooth_ask (c := .jobsRequire jobId) (decide_eq_true rfl)).bind fun job => ?_
  cases job.createdByUserId with
  | none => trivial
  | some id => exact (smooth_ask rfl).bind fun _ => trivial

theorem smooth_authorizeExecution (job : JobRow) (creatorId : UserId) :
    Smooth (fun c => Call.isDependable jobId c = true) (authorizeExecution job creatorId) := by
  refine (smooth_ask rfl).bind fun _ => (smooth_ask rfl).bind fun _ => (smooth_ask rfl).bind fun q => ?_
  have hquota : Smooth (fun c => Call.isDependable jobId c = true) (isOverQuota creatorId q) := by
    cases q with
    | none => trivial
    | some q =>
        have hload : Smooth (fun c => Call.isDependable jobId c = true) (countProvisionLoad creatorId) :=
          (smooth_ask rfl).bind fun _ => (smooth_ask rfl).bind fun _ => trivial
        exact hload.bind fun _ => trivial
  exact hquota.bind fun _ => trivial

theorem smooth_decryptPassword (stored : String) :
    Smooth (fun c => Call.isDependable jobId c = true) (decryptPassword stored) := by
  unfold decryptPassword
  split
  · trivial
  · exact smooth_ask rfl

theorem smooth_resumeRunner (job : JobRow) (k : StepRunner) :
    Smooth (fun c => Call.isDependable jobId c = true) (resumeRunner job k) := by
  unfold resumeRunner
  cases job.vmId with
  | none => trivial
  | some id =>
      refine (smooth_ask rfl).bind fun existingVm => ?_
      cases existingVm with
      | none => trivial
      | some vm =>
          cases htemplate : vm.templateId with
          | none => simp only [htemplate]; trivial
          | some templateId =>
              simp only [htemplate]
              exact (smooth_ask rfl).bind fun _ => trivial

theorem settles_rejectExecution {reason : String} :
    (debt jobId).holds (rejectExecution jobId job reason) RunSettled owes :=
  holds_bind_terminal rfl (holds_runSettled (keepsPaid_of_quiet
    ((quiet_ask rfl).bind fun _ => trivial)))

theorem settles_failRun {actor : AuditActor} (e : Failure) :
    (debt jobId).holds (failRun jobId job actor e) RunSettled owes := by
  have hfailed : ∀ message : String, (debt jobId).holds (do
      ask (.jobsUpdateStatus jobId .failed (some message))
      ask (.publishProgress jobId
        { vmId := job.vmId, status := .failed, step := none, error := some message,
          progress := 100, message := "Provisioning failed: " ++ message })
      ask (.auditRecord
        { event := "PROVISIONING_FAILED", actor, jobId := some jobId, vmId := job.vmId })
      pure RunOutcome.failed) RunSettled owes := fun message =>
    holds_bind_terminal rfl (holds_runSettled (keepsPaid_of_quiet
      ((quiet_ask rfl).bind fun _ => (quiet_ask rfl).bind fun _ => trivial)))
  cases e with
  | reschedule message => exact holds_bind_smooth (smooth_ask rfl) fun _ _ => trivial
  | app e => exact hfailed _
  | uniqueViolation message => exact hfailed _
  | other message => exact hfailed _

theorem settles_runSteps {completed : List JobStep}
    {actor : AuditActor} {k : StepRunner} {r : SharedState} (hk : k.jobId = jobId) :
    (debt jobId).holds (runSteps job policyAdmin completed actor k r)
      (fun result owes => ∀ outcome, result = .ok outcome → RunSettled (.ok outcome) owes) owes := by
  have hany {α : Type} {p : Task α} {owes : Bool} : (debt jobId).holds p (fun _ _ => True) owes :=
    Context.holds_true fun _ _ => trivial
  refine Context.holds_bind_of hany (fun _ _ _ => ?_) fun _ _ _ _ heq => nomatch heq
  refine Context.holds_bind_of hany (fun r _ _ => ?_) fun _ _ _ _ heq => nomatch heq
  refine Context.holds_bind_of hany (fun r _ _ => ?_) fun _ _ _ _ heq => nomatch heq
  subst hk
  refine holds_bind_terminal rfl (Context.holds_mono (holds_runSettled (keepsPaid_of_quiet ?_))
    fun result owes hsettled outcome heq => heq ▸ hsettled)
  exact (quiet_settleVm k r).bind fun _ => (quiet_ask rfl).bind fun _ =>
    (quiet_ask rfl).bind fun _ => trivial

theorem settles_executeJob :
    (debt jobId).holds (executeJob jobId attempt job policyAdmin) RunSettled owes := by
  refine holds_bind_smooth smooth_jobAuditActor fun actor _ => ?_
  refine holds_bind_smooth (smooth_decryptPassword _) fun password _ => ?_
  refine holds_bind_smooth (smooth_ask rfl) fun completed _ => ?_
  refine holds_bind_smooth (smooth_ask rfl) fun _ _ => ?_
  refine holds_bind_smooth (smooth_ask rfl) fun _ _ => ?_
  refine holds_bind_smooth (smooth_resumeRunner job _) fun r _ => ?_
  rw [Context.holds_tryCatch]
  refine Context.holds_mono (settles_runSteps rfl) fun result owes hresult => ?_
  cases result with
  | ok outcome => exact hresult outcome rfl
  | error e => exact settles_failRun e

theorem settles_runOpenJob : (debt jobId).holds (runOpenJob jobId attempt job) RunSettled owes := by
  unfold runOpenJob
  cases job.createdByUserId with
  | none => exact settles_rejectExecution
  | some creatorId =>
      refine holds_bind_smooth (smooth_authorizeExecution job creatorId) fun check _ => ?_
      cases check.rejection with
      | some reason => exact settles_rejectExecution
      | none => exact settles_executeJob

theorem settles_runLoadedJob : (debt jobId).holds (runLoadedJob jobId attempt job) RunSettled
      (!job.status.isTerminal && owes) := by
  unfold runLoadedJob
  cases job.status with
  | ready => exact runSettled_paid _
  | failed => exact runSettled_paid _
  | cancelled => exact runSettled_paid _
  | _ => exact settles_runOpenJob

theorem settles_runProvisioningJob :
    (debt jobId).holds (runProvisioningJob jobId attempt) RunSettled owes := by
  unfold runProvisioningJob
  rw [Context.holds_bind]
  refine holds_ask_dependable (decide_eq_true rfl) fun job => ?_
  have hread : owesAfter jobId (.jobsRequire jobId) (.ok job) owes =
      (!job.status.isTerminal && owes) := by
    simp [owesAfter]
  rw [hread]
  exact settles_runLoadedJob

abbrev Paid {α : Type} : Except Failure α → Bool → Prop := fun _ owes => owes = false

theorem settles_handleProvisioningOutcome {outcome : RunOutcome} (hrun : RunSettled (.ok outcome) owes) :
    (debt jobId).holds (handleProvisioningOutcome jobId attempt outcome) Paid owes := by
  have hreschedule : (debt jobId).holds (reschedule jobId attempt) Paid owes := by
    unfold reschedule
    rw [Context.holds_ite]
    constructor
    · intro _
      exact holds_bind_terminal rfl (holds_paid (keepsPaid_of_quiet
        ((quiet_ask rfl).bind fun _ => trivial)))
    · intro _
      rw [Context.holds_tryCatch, Context.holds_bind]
      refine holds_ask_dependable rfl fun a => ?_
      simp [owesAfter]
  cases outcome with
  | reschedule => exact hreschedule
  | completed => exact hrun
  | failed => exact hrun
  | skipped => exact hrun

/-! ## Requests -/

theorem settles_enqueueProvisioningJob : (debt jobId).holds (enqueueProvisioningJob jobId attempt)
      (fun r owes => (∃ a, r = .ok a) ∧ owes = false) owes := by
  unfold enqueueProvisioningJob
  rw [Context.holds_bind]
  refine holds_ask_dependable rfl fun _ => holds_ask_dependable rfl fun a => ?_
  simp [owesAfter]

theorem settles_enqueueNewJob : (debt jobId).holds (enqueueNewJob actor jobId) Paid owes := by
  unfold enqueueNewJob
  rw [Context.holds_bind, Context.holds_tryCatch]
  refine holds_bind_smooth (smooth_ask rfl) fun _ _ => ?_
  refine Context.holds_mono settles_enqueueProvisioningJob fun r owes hr => ?_
  obtain ⟨⟨a, rfl⟩, rfl⟩ := hr
  exact holds_paid (keepsPaid_of_quiet (quiet_ask rfl))

theorem smooth_nextAttempt : Smooth (fun c => Call.isDependable jobId c = true) (nextAttempt jobId) :=
  (smooth_ask rfl).bind fun _ => (smooth_ask rfl).bind fun _ => trivial

theorem settles_postRetry {actor : UserId} : (debt jobId).holds (postRetry actor jobId) Paid false := by
  unfold postRetry
  refine Context.holds_bind_of (holds_paid (keepsPaid_of_quiet
    (quiet_accessibleJob actor .jobsRetry jobId))) (fun access owes howes => ?_) fun _ _ howes => howes
  subst howes
  rw [Context.holds_ite]
  constructor
  · exact fun _ => rfl
  · intro _
    refine holds_bind_smooth (smooth_ask rfl) fun _ _ => ?_
    refine holds_bind_smooth (smooth_ask rfl) fun _ _ => ?_
    rw [Context.holds_bind, Context.holds_tryCatch]
    refine holds_bind_smooth smooth_nextAttempt fun attempt _ => ?_
    refine holds_bind_smooth (smooth_ask rfl) fun _ _ => ?_
    refine Context.holds_mono settles_enqueueProvisioningJob fun r owes hr => ?_
    obtain ⟨⟨a, rfl⟩, rfl⟩ := hr
    exact holds_paid (keepsPaid_of_quiet (quiet_ask rfl))

theorem settles_jobRequest {p : Task Unit} (hrequest : JobRequest jobId p) :
    (debt jobId).holds p Paid false := by
  cases hrequest with
  | retry actor => exact settles_postRetry
  | cancel actor => exact holds_paid ((only_postCancel actor jobId).mono fun _ => Call.keepsPaid_of_stopCall)
  | rollback actor delete =>
      exact holds_paid ((only_postRollback actor jobId delete).mono fun _ => Call.keepsPaid_of_stopCall)

/-! ## The world of a run -/

def Call.onStores : Call → Bool
  | .validateProvisionPolicy _ _ => false
  | .encrypt _ => false
  | .decrypt _ => false
  | .credsStore _ _ _ _ => false
  | .getProxmoxClient => false
  | .proxmoxNodes => false
  | .proxmoxClusterResources => false
  | .proxmoxStorages _ => false
  | .proxmoxNetworks _ => false
  | .proxmoxNextId => false
  | .proxmoxClone _ => false
  | .proxmoxTaskExit _ _ => false
  | .proxmoxQemuConfig _ _ => false
  | .proxmoxUpdateConfig _ _ _ => false
  | .proxmoxResizeDisk _ _ _ _ => false
  | .proxmoxSetCloudInit _ _ _ => false
  | .proxmoxStart _ _ => false
  | .proxmoxStop _ _ => false
  | .proxmoxDelete _ _ => false
  | .proxmoxQemuStatus _ _ => false
  | .proxmoxWaitForGuestAgent _ _ => false
  | .proxmoxGuestIpAddresses _ _ => false
  | .proxmoxAgentOsInfo _ _ => false
  | .probeSsh _ => false
  | .probeTcp _ _ => false
  | .getGuacDb => false
  | .guacUpsertConnection _ => false
  | .guacEnsureUser _ _ => false
  | .guacGrantVmAccess _ _ => false
  | .guacListConnectionRecords _ => false
  | .guacVerifyConnection _ => false
  | .guacSetConnectionStatus _ _ => false
  | .guacDeleteVmResources _ => false
  | _ => true

structure ServedHealthy (c : Call) (w : World) (r : Except Failure c.Reply) (w' : World) : Prop where
  served : Served c w r w'
  answered : c.onStores = true → ∃ given, w.answer c given = (r, w')

/-- What must not happen to strand a job: an attempt is queued under an id that is
stored for an attempt that is over or executing, a queued attempt of an open job is
removed, or a password fails to decrypt. -/
def Unstranding (jobId : JobId) (w : World) : (c : Call) → Except Failure c.Reply → Prop
  | .queueAdd bull _, _ => bull.jobDbId = jobId →
      w.queue.state? bull = none ∨ w.queue.state? bull = some .queued
  | .queueRemove bull, _ => bull.jobDbId = jobId →
      ∀ status, w.db.jobStatus? jobId = some status → status.isTerminal = true
  | .decrypt _, r => ∃ plaintext, r = .ok plaintext
  | _, _ => True

variable {c : Call} {w w' : World} {r : Except Failure c.Reply}

theorem ServedHealthy.dependable (hserved : ServedHealthy c w r w') (hcare : Unstranding jobId w c r)
    (hjob : (w.db.jobStatus? jobId).isSome) (hc : c.isDependable jobId = true) : ∃ a, r = .ok a := by
  cases c with
  | jobsRequire id =>
      obtain rfl : id = jobId := of_decide_eq_true hc
      obtain ⟨status, hstatus⟩ := Option.isSome_iff_exists.mp hjob
      obtain ⟨job, hrow, -⟩ := Option.map_eq_some_iff.mp hstatus
      obtain ⟨given, heq⟩ := hserved.answered rfl
      change w.required (w.db.job? id) _ = _ at heq
      rw [hrow] at heq
      exact ⟨job, (Prod.mk.inj heq).1.symm⟩
  | decrypt stored => exact hcare
  | _ =>
      first
      | obtain ⟨given, heq⟩ := hserved.answered rfl
        exact ⟨_, (Prod.mk.inj heq).1.symm⟩
      | cases hc

def World.JobOpen (w : World) (jobId : JobId) : Prop :=
  ∃ status, w.db.jobStatus? jobId = some status ∧ status.isTerminal = false

theorem World.JobOpen.of_status (hopen : w'.JobOpen jobId)
    (hstatus : w'.db.jobStatus? jobId = w.db.jobStatus? jobId) : w.JobOpen jobId := by
  unfold World.JobOpen
  rwa [← hstatus]

theorem World.HasQueued.of_queue (hqueued : w.HasQueued jobId) (hqueue : w'.queue = w.queue) :
    w'.HasQueued jobId := by
  unfold World.HasQueued
  rwa [hqueue]

theorem open_of_jobs_write (hserved : ServedHealthy c w r w')
    (hjob : (w.db.jobStatus? jobId).isSome) (hwrite : c.writesJobs = true)
    (hunpaid : owesAfter jobId c r owes = false) (hopen : w'.JobOpen jobId) :
    owes = false ∧ w.JobOpen jobId := by
  obtain ⟨status', hstatus', hactive⟩ := hopen
  cases c with
  | jobsUpdateStatus id status error =>
      obtain ⟨given, heq⟩ := hserved.answered rfl
      obtain ⟨rfl, rfl⟩ := Prod.mk.inj heq
      rw [Db.jobStatus?_updateStatus] at hstatus'
      by_cases hid : jobId = id
      · subst hid
        rw [if_pos rfl] at hstatus'
        obtain ⟨_, -, rfl⟩ := Option.map_eq_some_iff.mp hstatus'
        simp [owesAfter, hactive] at hunpaid
      · rw [if_neg hid] at hstatus'
        simp only [owesAfter, if_neg (Ne.symm hid)] at hunpaid
        exact ⟨hunpaid, status', hstatus', hactive⟩
  | jobsSetBullJobId id bull =>
      obtain ⟨given, heq⟩ := hserved.answered rfl
      obtain ⟨rfl, rfl⟩ := Prod.mk.inj heq
      rw [Db.jobStatus?_setBullJobId] at hstatus'
      exact ⟨hunpaid, status', hstatus', hactive⟩
  | jobsSetVmId id vmId =>
      obtain ⟨given, heq⟩ := hserved.answered rfl
      obtain ⟨rfl, rfl⟩ := Prod.mk.inj heq
      rw [Db.jobStatus?_setVmId] at hstatus'
      exact ⟨hunpaid, status', hstatus', hactive⟩
  | jobsResetStatus id =>
      obtain ⟨given, heq⟩ := hserved.answered rfl
      obtain ⟨rfl, rfl⟩ := Prod.mk.inj heq
      simp only [owesAfter, Bool.or_eq_false_iff, decide_eq_false_iff_not] at hunpaid
      rw [Db.jobStatus?_resetStatus, if_neg (Ne.symm hunpaid.1)] at hstatus'
      exact ⟨hunpaid.2, status', hstatus', hactive⟩
  | jobsCancel id =>
      obtain ⟨given, heq⟩ := hserved.answered rfl
      obtain ⟨rfl, rfl⟩ := Prod.mk.inj heq
      rw [Db.jobStatus?_cancel] at hstatus'
      by_cases hid : jobId = id
      · subst hid
        rw [if_pos rfl] at hstatus'
        obtain ⟨_, -, rfl⟩ := Option.map_eq_some_iff.mp hstatus'
        cases hactive
      · rw [if_neg hid] at hstatus'
        refine ⟨?_, status', hstatus', hactive⟩
        simpa [owesAfter, Ne.symm hid] using hunpaid
  | jobsCreate request user =>
      rcases hserved.served.jobStatus hjob with heq | ⟨status, hsets, -⟩
      · exact ⟨hunpaid, status', heq.symm.trans hstatus', hactive⟩
      · cases hsets
  | _ => cases hwrite

theorem queued_of_queue_write (hserved : ServedHealthy c w r w') (hcare : Unstranding jobId w c r)
    (hwrite : c.writesQueue = true) (hopen : w.JobOpen jobId) (hunpaid : owesAfter jobId c r owes = false) :
    w'.HasQueued jobId ∨ owes = false ∧ (w.HasQueued jobId → w'.HasQueued jobId) := by
  cases c with
  | queueAdd bull delayMs =>
      obtain ⟨given, heq⟩ := hserved.answered rfl
      obtain ⟨rfl, rfl⟩ := Prod.mk.inj heq
      by_cases hbull : bull.jobDbId = jobId
      · obtain ⟨id, attempt⟩ := bull
        obtain rfl : id = jobId := hbull
        refine Or.inl ⟨attempt, ?_⟩
        rw [Queue.state?_add]
        rcases hcare rfl with hnone | hqueued
        · rw [if_pos ⟨rfl, hnone⟩]
        · rw [if_neg (by simp [hqueued]), hqueued]
      · refine Or.inr ⟨by simpa [owesAfter, hbull] using hunpaid, fun ⟨attempt, hqueued⟩ => ?_⟩
        refine ⟨attempt, ?_⟩
        rw [Queue.state?_add, if_neg]
        · exact hqueued
        · rintro ⟨rfl, -⟩
          exact hbull rfl
  | queueRemove bull =>
      obtain ⟨given, heq⟩ := hserved.answered rfl
      obtain ⟨rfl, rfl⟩ := Prod.mk.inj heq
      refine Or.inr ⟨hunpaid, fun ⟨attempt, hqueued⟩ => ⟨attempt, ?_⟩⟩
      rw [Queue.state?_remove_of_ne]
      · exact hqueued
      · rintro rfl
        obtain ⟨status, hstatus, hactive⟩ := hopen
        rw [hcare rfl status hstatus] at hactive
        cases hactive
  | _ => cases hwrite

/-- **The balance of a call.**  If the job is open and its caller owes nothing after a
call, then an attempt is queued, or it was so before. -/
theorem balance_of_call (hserved : ServedHealthy c w r w') (hcare : Unstranding jobId w c r)
    (hjob : (w.db.jobStatus? jobId).isSome) (hunpaid : owesAfter jobId c r owes = false)
    (hopen : w'.JobOpen jobId) : w'.HasQueued jobId ∨
      owes = false ∧ w.JobOpen jobId ∧ (w.HasQueued jobId → w'.HasQueued jobId) := by
  have hframe := hserved.served.frame
  by_cases hjobs : c.writesJobs = true
  · obtain ⟨howes, hbefore⟩ := open_of_jobs_write hserved hjob hjobs hunpaid hopen
    refine Or.inr ⟨howes, hbefore, fun hqueued => hqueued.of_queue (hframe.queue ?_)⟩
    cases c <;> first | rfl | cases hjobs
  have hbefore : w.JobOpen jobId := by
    refine hopen.of_status ?_
    unfold Db.jobStatus? Db.job?
    rw [hframe.jobs (Bool.eq_false_iff.mpr hjobs)]
  by_cases hqueue : c.writesQueue = true
  · rcases queued_of_queue_write hserved hcare hqueue hbefore hunpaid with hqueued | ⟨howes, hkept⟩
    · exact Or.inl hqueued
    · exact Or.inr ⟨howes, hbefore, hkept⟩
  refine Or.inr ⟨?_, hbefore, fun hqueued =>
    hqueued.of_queue (hframe.queue (Bool.eq_false_iff.mpr hqueue))⟩
  -- Of the calls that write neither jobs nor the queue, only a look at the job can pay.
  cases c with
  | jobsRequire id =>
      cases r with
      | error e => exact hunpaid
      | ok job =>
          by_cases hid : id = jobId
          · subst hid
            have hrow := (served_jobsRequire hserved.served).2 job rfl
            obtain ⟨status, hstatus, hactive⟩ := hbefore
            rw [Db.jobStatus?, hrow] at hstatus
            obtain rfl : job.status = status := Option.some.inj hstatus
            simpa [owesAfter, hactive] using hunpaid
          · simpa [owesAfter, hid] using hunpaid
  | _ => first | exact hunpaid | exact absurd rfl hjobs | exact absurd rfl hqueue

/-! ## Runs of the pool -/

def Settles (jobId : JobId) : JobThread → Bool → Prop
  | ⟨.running _, p⟩, owes => (debt jobId).holds p RunSettled owes
  | ⟨.handling _, p⟩, owes => (debt jobId).holds p Paid owes
  | ⟨.serving, p⟩, owes => (debt jobId).holds p Paid owes

theorem Settles.call {role : JobRole} {next : Except Failure c.Reply → Task role.Result}
    (hsettles : Settles jobId ⟨role, .call c next⟩ owes)
    (hdep : c.isDependable jobId = true → ∃ a, r = .ok a) :
    Settles jobId ⟨role, next r⟩ (owesAfter jobId c r owes) := by
  cases role with
  | running attempt => exact (hsettles owes rfl).2 r _ ⟨hdep, rfl⟩
  | handling attempt => exact (hsettles owes rfl).2 r _ ⟨hdep, rfl⟩
  | serving => exact (hsettles owes rfl).2 r _ ⟨hdep, rfl⟩

structure Accounted (jobId : JobId) (P : JobPool) : Prop where
  job : (P.state.db.jobStatus? jobId).isSome
  settles : ∀ t ∈ P.threads, ∃ owes, Settles jobId t owes
  live : P.state.JobOpen jobId →
    P.state.HasQueued jobId ∨ ∃ t ∈ P.threads, Settles jobId t true

abbrev healthyRules (jobId : JobId) : Rules calls Failure World JobRole.Result :=
  jobRules jobId (JobRequest jobId) ServedHealthy admitsAll

abbrev carefulRules (jobId : JobId) : Rules calls Failure World JobRole.Result :=
  jobRules jobId (JobRequest jobId)
    (fun c w r w' => ServedHealthy c w r w' ∧ Unstranding jobId w c r) admitsAll

theorem World.finishEntry_hasQueued {bull : BullJobId} (hqueued : w.HasQueued jobId) :
    (w.finishEntry bull).HasQueued jobId := by
  obtain ⟨attempt, hstate⟩ := hqueued
  refine ⟨attempt, ?_⟩
  rw [World.finishEntry, Queue.state?_move, if_neg (by simp [hstate]), hstate]

theorem Settles.ends {role : JobRole} {result : Except Failure role.Result} {t : JobThread}
    (hsettles : Settles jobId ⟨role, .ofExcept result⟩ owes)
    (hends : JobEnds jobId role result w (some t) w') : Settles jobId t owes := by
  cases hends with
  | run => exact settles_handleProvisioningOutcome hsettles

theorem Settles.leaves {role : JobRole} {result : Except Failure role.Result}
    (hsettles : Settles jobId ⟨role, .ofExcept result⟩ owes)
    (hends : JobEnds jobId role result w none w') : owes = false := by
  cases hends with
  | failedRun => exact hsettles
  | handled => exact Context.holds_ofExcept.mp hsettles
  | served => exact Context.holds_ofExcept.mp hsettles

theorem settles_newcomer {t : JobThread}
    (hturn : JobTurn jobId (JobRequest jobId) w (some t) w') : ∃ owes, Settles jobId t owes := by
  cases hturn with
  | dequeue hqueued => exact ⟨true, settles_runProvisioningJob⟩
  | request hrequest => exact ⟨false, settles_jobRequest hrequest⟩

variable {P P' : JobPool}

theorem Accounted.settles_step (hinv : Accounted jobId P) (hstep : PoolStep (carefulRules jobId) P P') :
    ∀ t ∈ P'.threads, ∃ owes, Settles jobId t owes := by
  refine forall_of_poolStep (S := fun t => ∃ owes, Settles jobId t owes)
    (fun {role c next s r s'} hS hserve hstate => ?_) (fun hS hends => ?_)
    (fun hturn => settles_newcomer hturn) hinv.settles hstep
  · obtain ⟨owes, hsettles⟩ := hS
    subst hstate
    exact ⟨_, hsettles.call (hserve.1.dependable hserve.2 hinv.job)⟩
  · obtain ⟨owes, hsettles⟩ := hS
    exact ⟨owes, hsettles.ends hends⟩

theorem Accounted.job_step (hinv : Accounted jobId P) (hstep : PoolStep (carefulRules jobId) P P') :
    (P'.state.db.jobStatus? jobId).isSome := by
  cases hstep with
  | call hadmits hserve => exact hserve.1.served.job hinv.job
  | ends hends => cases hends <;> exact hinv.job
  | turn hturn =>
      cases hturn with
      | others huntouched =>
          rw [huntouched.status]
          exact hinv.job
      | _ => exact hinv.job

theorem Accounted.live_step (hinv : Accounted jobId P) (hstep : PoolStep (carefulRules jobId) P P')
    (hopen : P'.state.JobOpen jobId) : P'.state.HasQueued jobId ∨ ∃ t ∈ P'.threads, Settles jobId t true := by
  cases hstep with
  | @call before after role c next w w' r hadmits hserve =>
      obtain ⟨hserved, hcare⟩ := hserve
      have hdep := hserved.dependable hcare hinv.job
      have hnext : ∀ owes, Settles jobId ⟨role, .call c next⟩ owes → owesAfter jobId c r owes = true →
          ∃ t ∈ before ++ ⟨role, next r⟩ :: after, Settles jobId t true := fun owes hsettles howes =>
        ⟨_, List.mem_append_cons_self, howes ▸ hsettles.call hdep⟩
      -- The caller pays with this call, owes afterwards, or has nothing to do with it.
      by_cases hdebtor : Settles jobId ⟨role, .call c next⟩ true
      · cases hafter : owesAfter jobId c r true with
        | true => exact Or.inr (hnext true hdebtor hafter)
        | false =>
            rcases balance_of_call hserved hcare hinv.job hafter hopen with hqueued | ⟨heq, -⟩
            · exact Or.inl hqueued
            · cases heq
      · obtain ⟨owes, hsettles⟩ := hinv.settles ⟨role, .call c next⟩ List.mem_append_cons_self
        cases hafter : owesAfter jobId c r owes with
        | true => exact Or.inr (hnext owes hsettles hafter)
        | false =>
            rcases balance_of_call hserved hcare hinv.job hafter hopen with
              hqueued | ⟨-, hbefore, hkept⟩
            · exact Or.inl hqueued
            · rcases hinv.live hbefore with hqueued | ⟨t, ht, howing⟩
              · exact Or.inl (hkept hqueued)
              · refine Or.inr ⟨t, ?_, howing⟩
                rw [List.mem_append, List.mem_cons] at ht ⊢
                rcases ht with ht | rfl | ht
                · exact Or.inl ht
                · exact absurd howing hdebtor
                · exact Or.inr (Or.inr ht)
  | @ends before after role result w w' successor hends =>
      have hbefore : w.JobOpen jobId := by cases hends <;> exact hopen
      have hqueue : w.HasQueued jobId → w'.HasQueued jobId := by
        cases hends with
        | failedRun => exact World.finishEntry_hasQueued
        | handled => exact World.finishEntry_hasQueued
        | run => exact id
        | served => exact id
      rcases hinv.live hbefore with hqueued | ⟨t, ht, howing⟩
      · exact Or.inl (hqueue hqueued)
      · refine Or.inr ?_
        rw [List.mem_append, List.mem_cons] at ht
        rcases ht with ht | rfl | ht
        · exact ⟨t, List.mem_append_left _ ht, howing⟩
        · cases successor with
          | none => cases howing.leaves hends
          | some t' =>
              exact ⟨t', List.mem_append_right _ List.mem_cons_self, howing.ends hends⟩
        · exact ⟨t, List.mem_append_right _ (List.mem_append_right _ ht), howing⟩
  | @turn threads w w' newcomer hturn =>
      cases hturn with
      | dequeue hqueued => exact Or.inr ⟨_, List.mem_cons_self, settles_runProvisioningJob⟩
      | request hrequest =>
          rcases hinv.live hopen with hqueued | ⟨t, ht, howing⟩
          · exact Or.inl hqueued
          · exact Or.inr ⟨t, List.mem_cons_of_mem _ ht, howing⟩
      | evict =>
          rcases hinv.live hopen with ⟨attempt, hqueued⟩ | howing
          · exact Or.inl ⟨attempt, Queue.state?_evict hqueued (by decide)⟩
          · exact Or.inr howing
      | others huntouched =>
          rcases hinv.live (hopen.of_status huntouched.status) with ⟨attempt, hqueued⟩ | howing
          · exact Or.inl ⟨attempt, (huntouched.entries attempt).trans hqueued⟩
          · exact Or.inr howing

theorem Accounted.run (hinv : Accounted jobId P) (hrun : PoolRun (carefulRules jobId) P P') :
    Accounted jobId P' := by
  induction hrun with
  | refl => exact hinv
  | tail _ hstep ih => exact ⟨ih.job_step hstep, ih.settles_step hstep, ih.live_step hstep⟩

theorem Accounted.of_new (hjob : (w.db.jobStatus? jobId).isSome) :
    Accounted jobId (newJobPool actor jobId w) where
  job := hjob
  settles := List.forall_mem_singleton.mpr ⟨true, settles_enqueueNewJob⟩
  live _ := Or.inr ⟨_, List.mem_singleton_self _, settles_enqueueNewJob⟩

/-- **No job is stranded** in a run that meets `Unstranding` at each call: whenever
every handler has returned and only executing attempts are left, an open job has an
attempt that is queued or executing. -/
theorem no_stranded_job {actor : UserWithRoles} (hjob : (w.db.jobStatus? jobId).isSome)
    (hrun : PoolRun (carefulRules jobId) (newJobPool actor jobId w) P)
    (hreturned : ∀ t ∈ P.threads, t.role.isRunning = true) (hopen : P.state.JobOpen jobId) :
    P.state.HasQueued jobId ∨ ∃ t ∈ P.threads, t.role.isRunning = true := by
  rcases ((Accounted.of_new hjob).run hrun).live hopen with hqueued | ⟨t, ht, -⟩
  · exact Or.inl hqueued
  · exact Or.inr ⟨t, ht, hreturned t ht⟩

/-! ## The sample job -/

theorem healthy_answer (given : c.Reply) (henabled : c.Enabled w)
    (heq : w.answer c given = (r, w')) : ServedHealthy c w r w' :=
  ⟨⟨henabled, .answer given, heq⟩, fun _ => ⟨given, heq⟩⟩

theorem healthy_play {fates : Fates} (hfates : ∀ c, Call.onStores c = true → ∃ given, fates c = .answer given)
    (hplay : World.play fates c w = some (r, w')) : ServedHealthy c w r w' := by
  refine ⟨served_play hplay, fun hstores => ?_⟩
  obtain ⟨given, hfate⟩ := hfates c hstores
  unfold World.play at hplay
  rw [hfate] at hplay
  split at hplay
  · exact ⟨given, Option.some.inj hplay⟩
  · cases hplay

def World.firstQueued : World := World.sample.afterRequest .plain (enqueueNewJob .root 1)
def World.firstDeferred : World := World.firstQueued.afterAttempt .deaf 1 0 .reschedule
def World.secondFailed : World := World.firstDeferred.afterAttempt .offline 1 1 .failed
def World.firstRetried : World := World.secondFailed.afterRequest .plain (postRetry 10 1)

theorem no_stranded_job_sample : World.firstQueued.JobOpen 1 ∧ (World.firstQueued.HasQueued 1 ∨
      ∃ t ∈ ([] : List JobThread), t.role.isRunning = true) := by
  have hcalls : PoolRun (carefulRules 1) (newJobPool .root 1 .sample)
      ⟨.firstQueued, [⟨.serving, .ofExcept (.ok ())⟩]⟩ := by
    refine .head (.callFirst trivial ⟨healthy_answer () trivial rfl, trivial⟩) ?_
    refine .head (.callFirst trivial
      ⟨healthy_answer () trivial rfl, fun _ => Or.inl (by decide)⟩) ?_
    refine .head (.callFirst trivial ⟨healthy_answer () trivial rfl, trivial⟩) ?_
    exact .single (.callFirst trivial ⟨healthy_answer () trivial rfl, trivial⟩)
  have hend : (carefulRules 1).ends JobRole.serving (.ok ()) World.firstQueued none .firstQueued :=
    JobEnds.served
  have hopen : World.firstQueued.JobOpen 1 := ⟨.pending, by decide +kernel, rfl⟩
  exact ⟨hopen, no_stranded_job (by decide) (hcalls.tail (.endsFirst hend))
    (fun _ ht => absurd ht List.not_mem_nil) hopen⟩

/-- **A retry strands the job**: the number it computes was used by a deferral, so its
attempt is not queued, and the job stays `PENDING` with nobody to work on it. -/
theorem retry_strands_job : PoolRun (healthyRules 1) (newJobPool .root 1 .sample)
    ⟨.firstRetried, []⟩ ∧ World.firstRetried.JobOpen 1 ∧ ¬ World.firstRetried.HasQueued 1 := by
  have hplain : ∀ c w r w', World.play .plain c w = some (r, w') → ServedHealthy c w r w' :=
    fun c w r w' => healthy_play fun c _ => ⟨_, rfl⟩
  have hdeaf : ∀ c w r w', World.play .deaf c w = some (r, w') → ServedHealthy c w r w' :=
    fun c w r w' => healthy_play fun c _ => by cases c <;> exact ⟨_, rfl⟩
  have hoffline : ∀ c w r w', World.play .offline c w = some (r, w') → ServedHealthy c w r w' :=
    fun c w r w' => healthy_play fun c hstores => by cases c <;> first | exact ⟨_, rfl⟩ | cases hstores
  refine ⟨?_, ⟨.pending, by decide +kernel, rfl⟩, ?_⟩
  · have hqueued : PoolRun (healthyRules 1) (newJobPool .root 1 .sample) ⟨.firstQueued, []⟩ :=
      poolRun_serve (.ok ()) hplain (by decide +kernel)
    have hdeferred : PoolRun (healthyRules 1) ⟨.firstQueued, []⟩ ⟨.firstDeferred, []⟩ :=
      poolRun_attempt (.ok .reschedule) hdeaf (by decide +kernel) (by decide +kernel)
        (by decide +kernel)
    have hfailed : PoolRun (healthyRules 1) ⟨.firstDeferred, []⟩ ⟨.secondFailed, []⟩ :=
      poolRun_attempt (.ok .failed) hoffline (by decide +kernel) (by decide +kernel)
        (by decide +kernel)
    have hretried : PoolRun (healthyRules 1) ⟨.secondFailed, []⟩ ⟨.firstRetried, []⟩ :=
      poolRun_request (.ok ()) (.retry 10) hplain (by decide +kernel)
    exact hqueued.trans (hdeferred.trans (hfailed.trans hretried))
  · rintro ⟨attempt, hqueued⟩
    obtain ⟨e, hfind, hstate⟩ := Option.map_eq_some_iff.mp hqueued
    have hnone : ∀ e ∈ World.firstRetried.queue.rows, e.state ≠ .queued := by decide +kernel
    exact hnone e (Tables.Table.mem_of_find? hfind) hstate

end ProxVM
