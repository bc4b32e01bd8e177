import ProxVM.Provisioning.Lifecycle

/-!
# Resuming a job

Runs of one job follow each other; each may stop anywhere.  What carries over from
one to the next is the step table, and `Resumable` is what is true of it: nobody
records a step `SKIPPED`, the steps recorded `SUCCEEDED` are an initial segment of
the pipeline, and a `READY` job has them all.
-/

namespace ProxVM

open Interaction

variable {jobId : JobId} {w w' : World} {completed : List JobStep} {step : JobStep}

/-! ## What others do -/

/-- The step rows of the job are unchanged, and the job has not become `READY`. -/
structure LedgerKept (jobId : JobId) (w w' : World) : Prop where
  steps : ∀ step, w'.db.stepState? jobId step = w.db.stepState? jobId step
  ready : w'.db.jobStatus? jobId = some .ready → w.db.jobStatus? jobId = some .ready

theorem LedgerKept.refl (w : World) : LedgerKept jobId w w := ⟨fun _ => rfl, id⟩

theorem LedgerKept.trans {w₁ w₂ w₃ : World} (h₁₂ : LedgerKept jobId w₁ w₂)
    (h₂₃ : LedgerKept jobId w₂ w₃) : LedgerKept jobId w₁ w₃ :=
  ⟨fun step => (h₂₃.steps step).trans (h₁₂.steps step), fun hready => h₁₂.ready (h₂₃.ready hready)⟩

theorem LedgerKept.succeeded_iff (hkept : LedgerKept jobId w w') :
    w'.db.Succeeded jobId step ↔ w.db.Succeeded jobId step := by
  unfold Db.Succeeded
  rw [hkept.steps]

variable {c : Call} {id : JobId} {status : JobStatus} {error : Option String} {db : Db} {α : Type} {I : World → Prop}
  {k : StepRunner} {r : SharedState} {createdByUserId : Option UserId} {actor : AuditActor} {job : JobRow}
  {attempt : Nat} {w₀ : World} {state : Phase × World}

theorem LedgerKept.of_frame (hframe : World.Frame c w w')
    (hjobs : c.writesJobs = false) (hsteps : c.writesSteps = false) : LedgerKept jobId w w' where
  steps step := by
    unfold Db.stepState?
    rw [hframe.steps hsteps]
  ready hready := by
    unfold Db.jobStatus? Db.job? at hready ⊢
    rwa [hframe.jobs hjobs] at hready

theorem LedgerKept.of_updateStatus {r : Except Failure Unit} (hstatus : status ≠ .ready)
    (hserved : Served (.jobsUpdateStatus id status error) w r w') : LedgerKept jobId w w' := by
  obtain ⟨-, rfl⟩ | ⟨-, rfl⟩ := served_jobsUpdateStatus hserved
  · refine ⟨fun _ => rfl, fun hready => ?_⟩
    rw [Db.jobStatus?_updateStatus] at hready
    split at hready
    · obtain ⟨_, -, heq⟩ := Option.map_eq_some_iff.mp hready
      exact absurd heq hstatus
    · exact hready
  · exact .refl _

theorem LedgerKept.of_bodyCall {r : Except Failure c.Reply}
    (hbody : BodyCall id c) (hserved : Served c w r w') : LedgerKept jobId w w' := by
  cases hbody with
  | quiet hquiet =>
      obtain ⟨hjobs, hsteps, -⟩ := Call.writes_of_isQuiet hquiet
      exact .of_frame hserved.frame hjobs hsteps
  | clone opts => exact .of_frame hserved.frame rfl rfl
  | create input => exact .of_frame hserved.frame rfl rfl
  | link vmId =>
      obtain ⟨-, rfl⟩ | ⟨-, rfl⟩ := hserved.determined rfl (fun _ => rfl) fun _ => rfl
      · exact ⟨fun _ => rfl, fun hready => by rwa [Db.jobStatus?_setVmId] at hready⟩
      · exact .refl _
  | creating => exact .of_updateStatus (by decide) hserved

/-! ## The invariants -/

structure Resumable (jobId : JobId) (w : World) : Prop where
  noneSkipped : ∀ step, w.db.stepState? jobId step ≠ some .skipped
  closed : ∀ step earlier, earlier.index < step.index → w.db.Succeeded jobId step →
    w.db.Succeeded jobId earlier
  ready : w.db.jobStatus? jobId = some .ready → ∀ step, w.db.Succeeded jobId step

structure InOrder (jobId : JobId) (c : Call) (w : World) : Prop where
  resumable : Resumable jobId w
  unfinished : ∀ step state error, c = .jobsSetStep jobId step state error →
    ¬ w.db.Succeeded jobId step
  first : ∀ step error, c = .jobsSetStep jobId step .running error →
    ∀ earlier, earlier.index < step.index → w.db.Succeeded jobId earlier

structure Upto (jobId : JobId) (completed : List JobStep) (i : Nat) (w : World) : Prop where
  resumable : Resumable jobId w
  done : ∀ step, step.index < i → w.db.Succeeded jobId step
  rest : ∀ step, i ≤ step.index → (w.db.Succeeded jobId step ↔ step ∈ completed)
  notReady : w.db.jobStatus? jobId ≠ some .ready

theorem Resumable.kept (hres : Resumable jobId w) (hkept : LedgerKept jobId w w') : Resumable jobId w' where
  noneSkipped step := by
    rw [hkept.steps]
    exact hres.noneSkipped step
  closed step earlier hlt hsucc := by
    rw [hkept.succeeded_iff] at hsucc ⊢
    exact hres.closed step earlier hlt hsucc
  ready hready step := by
    rw [hkept.succeeded_iff]
    exact hres.ready (hkept.ready hready) step

theorem Upto.kept {i : Nat} (hupto : Upto jobId completed i w) (hkept : LedgerKept jobId w w') :
    Upto jobId completed i w' where
  resumable := hupto.resumable.kept hkept
  done step hlt := by
    rw [hkept.succeeded_iff]
    exact hupto.done step hlt
  rest step hle := by
    rw [hkept.succeeded_iff]
    exact hupto.rest step hle
  notReady hready := hupto.notReady (hkept.ready hready)

theorem Upto.open_from (hupto : Upto jobId completed step.index w) (hopen : step ∉ completed)
    {later : JobStep} (hle : step.index ≤ later.index) : ¬ w.db.Succeeded jobId later := by
  have hstep : ¬ w.db.Succeeded jobId step := fun hsucc =>
    hopen ((hupto.rest step le_rfl).mp hsucc)
  rcases hle.eq_or_lt with heq | hlt
  · rwa [← JobStep.index_injective heq]
  · exact fun hsucc => hstep (hupto.resumable.closed later step hlt hsucc)

theorem Upto.next (hupto : Upto jobId completed step.index w)
    (hsucc : w.db.Succeeded jobId step) : Upto jobId completed (step.index + 1) w where
  resumable := hupto.resumable
  done later hlt := by
    rcases (Nat.lt_succ_iff.mp hlt).eq_or_lt with heq | hlt
    · rwa [JobStep.index_injective heq]
    · exact hupto.done later hlt
  rest later hle := hupto.rest later (Nat.le_of_succ_le hle)
  notReady := hupto.notReady

theorem Db.succeeded_setStep {now : Time} {step' : JobStep} {state : StepState} : (db.setStep now jobId step state error).Succeeded jobId step' ↔
      if step' = step then state = .succeeded else db.Succeeded jobId step' := by
  unfold Db.Succeeded
  rw [Db.stepState?_setStep]
  by_cases hsame : step' = step
  · simp [hsame]
  · simp [hsame]

theorem Upto.setStep {state : StepState}
    (hupto : Upto jobId completed step.index w) (hopen : step ∉ completed)
    (hstate : state ≠ .succeeded) (hskip : state ≠ .skipped) :
    Upto jobId completed step.index { w with db := w.db.setStep w.now jobId step state error } := by
  -- A write to a step that has not succeeded changes the set of succeeded steps not at all.
  have hsame : ∀ other, (w.db.setStep w.now jobId step state error).Succeeded jobId other ↔
      w.db.Succeeded jobId other := by
    intro other
    rw [Db.succeeded_setStep]
    split
    · next heq =>
        subst heq
        exact iff_of_false hstate (hupto.open_from hopen le_rfl)
    · exact Iff.rfl
  refine ⟨⟨fun other => ?_, fun other earlier hlt hsucc => ?_, fun hready other => ?_⟩,
    fun other hlt => (hsame other).mpr (hupto.done other hlt),
    fun other hle => (hsame other).trans (hupto.rest other hle), hupto.notReady⟩
  · rw [Db.stepState?_setStep]
    split
    · exact fun heq => hskip (Option.some.inj heq)
    · exact hupto.resumable.noneSkipped other
  · exact (hsame earlier).mpr (hupto.resumable.closed other earlier hlt ((hsame other).mp hsucc))
  · exact absurd hready hupto.notReady

theorem Upto.succeed (hupto : Upto jobId completed step.index w)
    (hopen : step ∉ completed) : Upto jobId completed (step.index + 1)
      { w with db := w.db.setStep w.now jobId step .succeeded error } := by
  have hdone : ∀ other, other.index < step.index + 1 →
      (w.db.setStep w.now jobId step .succeeded error).Succeeded jobId other := by
    intro other hlt
    rw [Db.succeeded_setStep]
    split
    · rfl
    · next hne =>
        have hindex : other.index ≠ step.index := fun heq => hne (JobStep.index_injective heq)
        exact hupto.done other (by omega)
  have hrest : ∀ other, step.index + 1 ≤ other.index →
      ¬ (w.db.setStep w.now jobId step .succeeded error).Succeeded jobId other := by
    intro other hle
    rw [Db.succeeded_setStep, if_neg]
    · exact hupto.open_from hopen (by omega)
    · rintro rfl
      omega
  refine ⟨⟨fun other => ?_, fun other earlier hlt hsucc => ?_, fun hready other => ?_⟩, hdone,
    fun other hle => ?_, hupto.notReady⟩
  · rw [Db.stepState?_setStep]
    split
    · exact fun heq => nomatch heq
    · exact hupto.resumable.noneSkipped other
  · refine hdone earlier ?_
    by_contra hlate
    exact hrest other (by omega) hsucc
  · exact absurd hready hupto.notReady
  · refine iff_of_false (hrest other hle) fun hmem => ?_
    have hle' : step.index ≤ other.index := by omega
    exact hupto.open_from hopen hle' ((hupto.rest other hle').mpr hmem)

/-! ## One run -/

abbrev resumeContext (jobId : JobId) : Context calls Failure World :=
  runContext (LedgerKept jobId) LedgerKept.refl LedgerKept.trans (InOrder jobId)

def KeepsLedger (jobId : JobId) (c : Call) : Prop :=
  c.writesSteps = false ∧ ∀ w r w', Served c w r w' → LedgerKept jobId w w'

theorem KeepsLedger.of_bodyCall (hbody : BodyCall id c) : KeepsLedger jobId c := by
  refine ⟨?_, fun w r w' hserved => .of_bodyCall hbody hserved⟩
  cases hbody with
  | quiet hquiet => exact (Call.writes_of_isQuiet hquiet).2.1
  | _ => rfl

variable {p : Task α}

theorem KeepsLedger.of_quiet (hp : Quiet p) : Only (KeepsLedger jobId) p :=
  hp.mono fun _ hquiet => .of_bodyCall (BodyCall.quiet hquiet : BodyCall jobId _)

theorem keepsLedger_updateStatus
    (hstatus : status ≠ .ready) : KeepsLedger jobId (.jobsUpdateStatus id status error) :=
  ⟨rfl, fun _ _ _ hserved => .of_updateStatus hstatus hserved⟩

theorem InOrder.of_writesSteps (hsteps : c.writesSteps = false)
    (hres : Resumable jobId w) : InOrder jobId c w := by
  refine ⟨hres, fun step state error heq => ?_, fun step error heq => ?_⟩
  · subst heq
    cases hsteps
  · subst heq
    cases hsteps

theorem holds_of_keepsLedger
    (hkept : ∀ w w', I w → LedgerKept jobId w w' → I w') (hres : ∀ w, I w → Resumable jobId w)
    (hp : Only (KeepsLedger jobId) p) (hI : I w) : (resumeContext jobId).holds p (fun _ w' => I w') w :=
  Context.holds_of_only hkept (fun _ _ hc hI => .of_writesSteps hc.1 (hres _ hI))
    (fun _ _ _ _ hc hI hserved => hkept _ _ hI (hc.2 _ _ _ hserved)) hp hI

theorem holds_ask_of_keepsLedger
    (hkept : ∀ w w', I w → LedgerKept jobId w w' → I w') (hres : ∀ w, I w → Resumable jobId w)
    (hc : KeepsLedger jobId c) (hI : I w) : (resumeContext jobId).holds (ask c) (fun _ w' => I w') w :=
  holds_of_keepsLedger hkept hres (only_perform.mpr hc) hI

def RoundEnd {α : Type} (jobId : JobId) (completed : List JobStep) (i : Nat) :
    Except Failure α → World → Prop
  | .ok _, w => Upto jobId completed (i + 1) w
  | .error _, w => Resumable jobId w

theorem holds_setStep {state : StepState}
    {Q : Except Failure Unit → World → Prop} (hupto : Upto jobId completed step.index w)
    (hopen : step ∉ completed) (hok : ∀ w', Upto jobId completed step.index w' →
      Q (.ok ()) { w' with db := w'.db.setStep w'.now jobId step state error })
    (herror : ∀ e w', Upto jobId completed step.index w' → Q (.error e) w') :
    (resumeContext jobId).holds (ask (.jobsSetStep jobId step state error)) Q w := by
  refine Context.holds_perform.mpr fun w₁ hrely => ?_
  have hupto₁ : Upto jobId completed step.index w₁ := hupto.kept hrely
  refine ⟨⟨hupto₁.resumable, ?_, ?_⟩, fun r w₂ hserved => ?_⟩
  · rintro _ _ _ ⟨⟩
    exact hupto₁.open_from hopen le_rfl
  · rintro _ _ ⟨⟩ earlier hlt
    exact hupto₁.done earlier hlt
  · obtain ⟨rfl, rfl⟩ | ⟨⟨e, rfl⟩, rfl⟩ := served_jobsSetStep hserved
    · exact hok w₁ hupto₁
    · exact herror e w₂ hupto₁

theorem holds_run {fn : SharedState → Task SharedState}
    (hfn : ∀ r, Only (BodyCall k.jobId) (fn r)) (hupto : Upto k.jobId completed step.index w)
    (hopen : step ∉ completed) :
    (resumeContext k.jobId).holds (k.run r step fn) (RoundEnd k.jobId completed step.index) w := by
  have hkept : ∀ w w', Upto k.jobId completed step.index w → LedgerKept k.jobId w w' →
      Upto k.jobId completed step.index w' := fun _ _ => Upto.kept
  have hres : ∀ w, Upto k.jobId completed step.index w → Resumable k.jobId w :=
    fun _ => Upto.resumable
  have hstatus : stepStatus step ≠ .ready := by cases step <;> decide
  refine Context.holds_bind_of
    (holds_ask_of_keepsLedger hkept hres (keepsLedger_updateStatus hstatus) hupto)
    (fun _ w hupto => ?_) fun _ w => hres w
  rw [Context.holds_bind]
  refine holds_setStep hupto hopen (fun w hupto => ?_) fun _ w => hres w
  refine Context.holds_bind_of (holds_ask_of_keepsLedger hkept hres
    (.of_bodyCall (BodyCall.quiet rfl : BodyCall k.jobId _))
    (hupto.setStep hopen (by decide) (by decide))) (fun _ w hupto => ?_) fun _ w => hres w
  rw [Context.holds_tryCatch]
  -- The failure of the body is recorded from a state in which the step is still open.
  have hfailed : ∀ e w, Upto k.jobId completed step.index w →
      (resumeContext k.jobId).holds (do
        ask (.jobsSetStep k.jobId step .failed (some (Failure.message e)))
        (.raise e : Task SharedState)) (RoundEnd k.jobId completed step.index) w := by
    intro e w hupto
    rw [Context.holds_bind]
    exact holds_setStep hupto hopen
      (fun w hupto => (hupto.setStep hopen (by decide) (by decide)).resumable) fun _ w => hres w
  refine Context.holds_bind_of (holds_of_keepsLedger hkept hres
    ((hfn r).mono fun _ => .of_bodyCall) hupto) (fun r' w hupto => ?_) hfailed
  rw [Context.holds_bind]
  refine holds_setStep hupto hopen (fun w hupto => ?_) hfailed
  have hdone : Upto k.jobId completed (step.index + 1)
      { w with db := w.db.setStep w.now k.jobId step .succeeded none } := hupto.succeed hopen
  -- Publishing progress never fails, so a recorded success is final.
  rw [Context.holds_bind]
  refine Context.holds_perform.mpr fun w₁ hrely => ⟨.of_writesSteps rfl (hdone.kept hrely).resumable,
    fun r₂ w₂ hserved => ?_⟩
  obtain ⟨rfl, rfl⟩ := served_publishProgress hserved
  exact hdone.kept hrely

theorem holds_round (hupto : Upto k.jobId completed step.index w) :
    (resumeContext k.jobId).holds (StepRunner.runUnlessCompleted completed createdByUserId k r step)
      (RoundEnd k.jobId completed step.index) w := by
  unfold StepRunner.runUnlessCompleted
  split
  · next hmem =>
      refine Context.holds_mono (holds_of_keepsLedger (fun _ _ => Upto.kept) (fun _ => Upto.resumable)
        (KeepsLedger.of_quiet (StepRunner.quiet_skip r step)) hupto) fun result w' hupto' => ?_
      cases result with
      | ok r' => exact hupto'.next ((hupto'.rest step le_rfl).mpr hmem)
      | error e => exact hupto'.resumable
  · next hopen => exact holds_run (fun r => StepRunner.only_body k r createdByUserId step) hupto hopen

structure AllDone (jobId : JobId) (w : World) : Prop where
  resumable : Resumable jobId w
  succeeded : ∀ step, w.db.Succeeded jobId step

theorem AllDone.kept (hdone : AllDone jobId w) (hkept : LedgerKept jobId w w') : AllDone jobId w' :=
  ⟨hdone.resumable.kept hkept, fun step => hkept.succeeded_iff.mpr (hdone.succeeded step)⟩

def LoopEnd {α : Type} (jobId : JobId) : Except Failure α → World → Prop
  | .ok _, w => AllDone jobId w
  | .error _, w => Resumable jobId w

theorem holds_loop (hupto : Upto k.jobId completed 0 w) : (resumeContext k.jobId).holds
      (JobStep.all.foldlM (StepRunner.runUnlessCompleted completed createdByUserId k) r)
      (LoopEnd k.jobId) w := by
  refine Context.holds_foldlM_rest
    (I := fun rest w => ∃ i, JobStep.all.drop i = rest ∧ Upto k.jobId completed i w)
    (fun r step rest w hI => ?_) (fun r w hI => ?_) ⟨0, rfl, hupto⟩
  · obtain ⟨i, hdrop, hupto⟩ := hI
    obtain ⟨rfl, hrest⟩ := JobStep.drop_eq_cons hdrop
    refine Context.holds_mono (holds_round hupto) fun result w' hend => ?_
    cases result with
    | ok r' => exact ⟨step.index + 1, hrest, hend⟩
    | error e => exact hend
  · obtain ⟨i, hdrop, hupto⟩ := hI
    have hlen : JobStep.all.length ≤ i := List.drop_eq_nil_iff.mp hdrop
    refine ⟨hupto.resumable, fun step => hupto.done step ?_⟩
    exact (List.getElem?_eq_some_iff.mp step.all_getElem?_index).1.trans_le hlen

theorem holds_completeRun (hdone : AllDone k.jobId w) :
    (resumeContext k.jobId).holds (completeRun actor k r) (fun _ w' => Resumable k.jobId w') w := by
  unfold completeRun
  rw [Context.holds_bind]
  refine Context.holds_perform.mpr fun w₁ hrely => ?_
  have hdone₁ : AllDone k.jobId w₁ := hdone.kept hrely
  refine ⟨.of_writesSteps rfl hdone₁.resumable, fun result w₂ hserved => ?_⟩
  obtain ⟨rfl, rfl⟩ | ⟨⟨e, rfl⟩, rfl⟩ := served_jobsUpdateStatus hserved
  · refine holds_of_keepsLedger (fun _ _ => Resumable.kept) (fun _ => id) (KeepsLedger.of_quiet ?_) ?_
    · exact (quiet_settleVm k r).bind fun _ => (quiet_ask rfl).bind fun _ =>
        (quiet_ask rfl).bind fun _ => trivial
    · exact ⟨hdone₁.resumable.noneSkipped, hdone₁.resumable.closed, fun _ => hdone₁.succeeded⟩
  · exact hdone₁.resumable

theorem only_failRun (e : Failure) : Only (KeepsLedger jobId) (failRun jobId job actor e) := by
  have hfailed : ∀ message : String, Only (KeepsLedger jobId) (do
      ask (.jobsUpdateStatus jobId .failed (some message))
      ask (.publishProgress jobId
        { vmId := job.vmId, status := .failed, step := none, error := some message,
          progress := 100, message := "Provisioning failed: " ++ message })
      ask (.auditRecord
        { event := "PROVISIONING_FAILED", actor, jobId := some jobId, vmId := job.vmId })
      pure RunOutcome.failed) := fun message => by
    refine (only_perform.mpr (keepsLedger_updateStatus (by decide))).bind fun _ => ?_
    exact KeepsLedger.of_quiet ((quiet_ask rfl).bind fun _ => (quiet_ask rfl).bind fun _ => trivial)
  cases e with
  | reschedule message => exact KeepsLedger.of_quiet ((quiet_ask rfl).bind fun _ => trivial)
  | app e => exact hfailed _
  | uniqueViolation message => exact hfailed _
  | other message => exact hfailed _

theorem holds_runSteps {job : JobRow} {policyAdmin : Bool} {actor : AuditActor} {k : StepRunner}
    {r : SharedState} (hupto : Upto k.jobId completed 0 w) :
    (resumeContext k.jobId).holds (runSteps job policyAdmin completed actor k r)
      (fun _ w' => Resumable k.jobId w') w := by
  have hbefore {α : Type} {p : Task α} (hp : Quiet p) {w} (hupto : Upto k.jobId completed 0 w) :
      (resumeContext k.jobId).holds p (fun _ w' => Upto k.jobId completed 0 w') w :=
    holds_of_keepsLedger (fun _ _ => Upto.kept) (fun _ => Upto.resumable) (KeepsLedger.of_quiet hp)
      hupto
  refine Context.holds_bind_of (hbefore (quiet_checkPolicy job policyAdmin k) hupto)
    (fun _ w hupto => ?_) fun _ w => Upto.resumable
  refine Context.holds_bind_of (hbefore (quiet_recoverTemplate completed k r) hupto)
    (fun r w hupto => ?_) fun _ w => Upto.resumable
  rw [Context.holds_bind]
  refine Context.holds_mono (holds_loop hupto) fun result w hend => ?_
  cases result with
  | ok r => exact holds_completeRun hend
  | error e => exact hend

structure Unfinished (jobId : JobId) (w : World) : Prop where
  resumable : Resumable jobId w
  notReady : w.db.jobStatus? jobId ≠ some .ready

theorem Unfinished.kept (hopen : Unfinished jobId w) (hkept : LedgerKept jobId w w') : Unfinished jobId w' :=
  ⟨hopen.resumable.kept hkept, fun hready => hopen.notReady (hkept.ready hready)⟩

theorem Unfinished.upto (hopen : Unfinished jobId w) : Upto jobId (w.db.completedSteps jobId) 0 w where
  resumable := hopen.resumable
  done step hlt := absurd hlt (Nat.not_lt_zero _)
  rest step _ := by
    rw [Db.mem_completedSteps]
    exact (or_iff_left (hopen.resumable.noneSkipped step)).symm
  notReady := hopen.notReady

theorem holds_quiet (hp : Quiet p) (hopen : Unfinished jobId w) :
    (resumeContext jobId).holds p (fun _ w' => Unfinished jobId w') w :=
  holds_of_keepsLedger (fun _ _ => Unfinished.kept) (fun _ => Unfinished.resumable)
    (KeepsLedger.of_quiet hp) hopen

theorem holds_executeJob {policyAdmin : Bool} (hopen : Unfinished jobId w) :
    (resumeContext jobId).holds (executeJob jobId attempt job policyAdmin)
      (fun _ w' => Resumable jobId w') w := by
  refine Context.holds_bind_of (holds_quiet (quiet_jobAuditActor jobId) hopen)
    (fun actor w hopen => ?_) fun _ w => Unfinished.resumable
  refine Context.holds_bind_of (holds_quiet (quiet_decryptPassword _) hopen)
    (fun password w hopen => ?_) fun _ w => Unfinished.resumable
  -- From the moment the completed steps are read, only this run writes step rows.
  rw [Context.holds_bind]
  refine Context.holds_perform.mpr fun w₁ hrely => ?_
  have hopen₁ : Unfinished jobId w₁ := hopen.kept hrely
  refine ⟨.of_writesSteps rfl hopen₁.resumable, fun result w₂ hserved => ?_⟩
  obtain ⟨rfl, rfl⟩ | ⟨⟨e, rfl⟩, rfl⟩ := served_jobsCompletedSteps hserved
  · have hupto := hopen₁.upto
    have hkeep {α : Type} {p : Task α} (hp : Only (KeepsLedger jobId) p) {w}
        (hupto : Upto jobId (w₂.db.completedSteps jobId) 0 w) : (resumeContext jobId).holds p
          (fun _ w' => Upto jobId (w₂.db.completedSteps jobId) 0 w') w :=
      holds_of_keepsLedger (fun _ _ => Upto.kept) (fun _ => Upto.resumable) hp hupto
    refine Context.holds_bind_of
      (hkeep (only_perform.mpr (keepsLedger_updateStatus (by decide))) hupto)
      (fun _ w hupto => ?_) fun _ w => Upto.resumable
    refine Context.holds_bind_of (hkeep (KeepsLedger.of_quiet (quiet_ask rfl)) hupto)
      (fun _ w hupto => ?_) fun _ w => Upto.resumable
    refine Context.holds_bind_of (hkeep (KeepsLedger.of_quiet (quiet_resumeRunner job _)) hupto)
      (fun r w hupto => ?_) fun _ w => Upto.resumable
    rw [Context.holds_tryCatch]
    refine Context.holds_mono (holds_runSteps (k := ⟨jobId, _, attempt⟩) hupto) fun result w hres => ?_
    cases result with
    | ok outcome => exact hres
    | error e => exact holds_of_keepsLedger (fun _ _ => Resumable.kept) (fun _ => id) (only_failRun e) hres
  · exact hopen₁.resumable

theorem only_rejectExecution {reason : String} :
    Only (KeepsLedger jobId) (rejectExecution jobId job reason) := by
  refine (only_perform.mpr (keepsLedger_updateStatus (by decide))).bind fun _ => ?_
  exact KeepsLedger.of_quiet ((quiet_ask rfl).bind fun _ => trivial)

theorem holds_runOpenJob (hopen : Unfinished jobId w) :
    (resumeContext jobId).holds (runOpenJob jobId attempt job) (fun _ w' => Resumable jobId w') w := by
  have hreject (reason : String) {w} (hres : Resumable jobId w) :
      (resumeContext jobId).holds (rejectExecution jobId job reason)
        (fun _ w' => Resumable jobId w') w :=
    holds_of_keepsLedger (fun _ _ => Resumable.kept) (fun _ => id) only_rejectExecution hres
  unfold runOpenJob
  cases job.createdByUserId with
  | none => exact hreject _ hopen.resumable
  | some creatorId =>
      refine Context.holds_bind_of (holds_quiet (quiet_authorizeExecution job creatorId) hopen)
        (fun check w hopen => ?_) fun _ w => Unfinished.resumable
      cases check.rejection with
      | some reason => exact hreject reason hopen.resumable
      | none => exact holds_executeJob hopen

theorem holds_runLoadedJob
    (hres : Resumable jobId w) (hstatus : job.status ≠ .ready → w.db.jobStatus? jobId ≠ some .ready) :
    (resumeContext jobId).holds (runLoadedJob jobId attempt job) (fun _ w' => Resumable jobId w') w := by
  unfold runLoadedJob
  cases hjob : job.status with
  | ready => exact hres
  | failed => exact hres
  | cancelled => exact hres
  | _ =>
      refine holds_runOpenJob ⟨hres, hstatus ?_⟩
      rw [hjob]
      exact fun heq => nomatch heq

theorem holds_runProvisioningJob (hres : Resumable jobId w) :
    (resumeContext jobId).holds (runProvisioningJob jobId attempt) (fun _ w' => Resumable jobId w') w := by
  unfold runProvisioningJob
  rw [Context.holds_bind]
  refine Context.holds_perform.mpr fun w₁ hrely => ?_
  have hres₁ : Resumable jobId w₁ := hres.kept hrely
  refine ⟨.of_writesSteps rfl hres₁, fun result w₂ hserved => ?_⟩
  obtain ⟨rfl, hjob⟩ := served_jobsRequire hserved
  cases result with
  | error e => exact hres₁
  | ok job =>
      refine holds_runLoadedJob hres₁ fun hne hready => hne ?_
      rw [Db.jobStatus?, hjob job rfl] at hready
      exact Option.some.inj hready

/-! ## Histories -/

/-- The execution of a step begins: it is about to be recorded `RUNNING`. -/
def Executes (jobId : JobId) (step : JobStep) : Phase → Prop
  | .running (.call c _) => ∃ error, c = .jobsSetStep jobId step .running error
  | _ => False

abbrev History (jobId : JobId) : Phase × World → Phase × World → Prop :=
  Life jobId (LedgerKept jobId)

theorem Resumable.resetStatus (hres : Resumable jobId w) :
    Resumable jobId { w with db := w.db.resetStatus w.now jobId } := by
  refine ⟨hres.noneSkipped, hres.closed, fun hready => ?_⟩
  rw [Db.jobStatus?_resetStatus, if_pos rfl] at hready
  obtain ⟨_, -, heq⟩ := Option.map_eq_some_iff.mp hready
  cases heq

theorem Db.succeeded_resetFailedSteps :
    (db.resetFailedSteps jobId).Succeeded jobId step ↔ db.Succeeded jobId step := by
  unfold Db.Succeeded
  rw [Db.stepState?_resetFailedSteps]
  split
  · next hfailed => simp [hfailed.2]
  · exact Iff.rfl

theorem Resumable.resetFailedSteps (hres : Resumable jobId w) :
    Resumable jobId { w with db := w.db.resetFailedSteps jobId } where
  noneSkipped step := by
    rw [Db.stepState?_resetFailedSteps]
    split
    · exact fun heq => nomatch heq
    · exact hres.noneSkipped step
  closed step earlier hlt hsucc := by
    rw [Db.succeeded_resetFailedSteps] at hsucc ⊢
    exact hres.closed step earlier hlt hsucc
  ready hready step := by
    rw [Db.succeeded_resetFailedSteps]
    exact hres.ready hready step

theorem sound_of_history (hres : Resumable jobId w₀) (hlife : History jobId (.idle, w₀) state) :
    Phase.Sound (resumeContext jobId) (Resumable jobId) state :=
  life_invariant rfl (fun _ _ => id) (fun _ _ => InOrder.resumable) (fun _ _ => Resumable.kept)
    (fun _ _ => holds_runProvisioningJob) (fun _ => Resumable.resetStatus)
    (fun _ => Resumable.resetFailedSteps) hres hlife

theorem InOrder.succeeded {r : Except Failure c.Reply} (horder : InOrder jobId c w)
    (hserved : Served c w r w') (hsucc : w.db.Succeeded jobId step) : w'.db.Succeeded jobId step := by
  by_cases hsteps : c.writesSteps = false
  · unfold Db.Succeeded Db.stepState? at hsucc ⊢
    rwa [hserved.frame.steps hsteps]
  cases c with
  | jobsSetStep id step' state error =>
      obtain ⟨-, rfl⟩ | ⟨-, rfl⟩ := served_jobsSetStep hserved
      · unfold Db.Succeeded
        rw [Db.stepState?_setStep, if_neg]
        · exact hsucc
        · rintro ⟨rfl, rfl⟩
          exact horder.unfinished _ _ _ rfl hsucc
      · exact hsucc
  | jobsResetFailedSteps id =>
      obtain ⟨-, rfl⟩ | ⟨-, rfl⟩ := hserved.determined rfl (fun _ => rfl) fun _ => rfl
      · unfold Db.Succeeded at hsucc ⊢
        rw [Db.stepState?_resetFailedSteps, if_neg]
        · exact hsucc
        · rw [hsucc]
          exact fun hfailed => nomatch hfailed.2
      · exact hsucc
  | _ => exact absurd rfl hsteps

theorem succeeded_of_lifeStep {state state' : Phase × World}
    (hsound : Phase.Sound (resumeContext jobId) (Resumable jobId) state)
    (hstep : LifeStep jobId (LedgerKept jobId) state state')
    (hsucc : state.2.db.Succeeded jobId step) : state'.2.db.Succeeded jobId step := by
  cases hstep with
  | others hothers => exact hothers.succeeded_iff.mpr hsucc
  | start attempt => exact hsucc
  | call hserved => exact (Context.guarantee_of_holds hsound).succeeded hserved hsucc
  | finish result => exact hsucc
  | crash => exact hsucc
  | resetStatus => exact hsucc
  | resetFailedSteps => exact Db.succeeded_resetFailedSteps.mpr hsucc

theorem succeeded_of_history {state later : Phase × World} (hres : Resumable jobId w₀)
    (hlife : History jobId (.idle, w₀) state) (hsucc : state.2.db.Succeeded jobId step)
    (hlater : History jobId state later) : later.2.db.Succeeded jobId step := by
  induction hlater with
  | refl => exact hsucc
  | tail hreach hstep ih =>
      exact succeeded_of_lifeStep (sound_of_history hres (hlife.trans hreach)) hstep ih

theorem Phase.Sound.executes (hsound : Phase.Sound (resumeContext jobId) (Resumable jobId) state)
    (hexec : Executes jobId step state.1) : ¬ state.2.db.Succeeded jobId step ∧
      ∀ earlier, earlier.index < step.index → state.2.db.Succeeded jobId earlier := by
  obtain ⟨phase, w⟩ := state
  cases phase with
  | idle => cases hexec
  | running p =>
      cases p with
      | ret outcome => cases hexec
      | raise e => cases hexec
      | call c next =>
          obtain ⟨error, rfl⟩ := hexec
          have horder := Context.guarantee_of_holds hsound
          exact ⟨horder.unfinished _ _ _ rfl, horder.first _ _ rfl⟩

theorem Resumable.of_new (hsteps : ∀ step, w.db.stepState? jobId step = none)
    (hready : w.db.jobStatus? jobId ≠ some .ready) : Resumable jobId w where
  noneSkipped step heq := by
    rw [hsteps] at heq
    cases heq
  closed step _ _ hsucc := by
    rw [Db.Succeeded, hsteps] at hsucc
    cases hsucc
  ready h := absurd h hready

/-- **Resuming is safe.**  Along every history of a new job, with runs that end
anywhere and resets between them: a step recorded `SUCCEEDED` stays `SUCCEEDED` and
is not executed again, a step is executed only when all earlier ones are recorded
`SUCCEEDED`, and the job is `READY` only when every step is. -/
theorem resume_is_safe {w₀ : World} {state : Phase × World}
    (hsteps : ∀ step, w₀.db.stepState? jobId step = none)
    (hready : w₀.db.jobStatus? jobId ≠ some .ready) (hlife : History jobId (.idle, w₀) state) :
    (∀ step later, state.2.db.Succeeded jobId step → History jobId state later →
      later.2.db.Succeeded jobId step ∧ ¬ Executes jobId step later.1) ∧
    (∀ step earlier, Executes jobId step state.1 → earlier.index < step.index →
      state.2.db.Succeeded jobId earlier) ∧
    (state.2.db.jobStatus? jobId = some .ready → ∀ step, state.2.db.Succeeded jobId step) := by
  have hres : Resumable jobId w₀ := .of_new hsteps hready
  refine ⟨fun step later hsucc hlater => ?_, fun step earlier hexec hlt => ?_, fun hready => ?_⟩
  · have hstill := succeeded_of_history hres hlife hsucc hlater
    refine ⟨hstill, fun hexec => ?_⟩
    exact ((sound_of_history hres (hlife.trans hlater)).executes hexec).1 hstill
  · exact ((sound_of_history hres hlife).executes hexec).2 earlier hlt
  · exact ((sound_of_history hres hlife).inv fun _ _ => InOrder.resumable).ready hready

def World.sampleRun : Prog calls Failure RunOutcome × World :=
  drive (World.play .plain) 200 (runProvisioningJob 1 0, .sample)

theorem resume_is_safe_sample : World.sampleRun.2.db.jobStatus? 1 = some .ready ∧
    ∀ step, World.sampleRun.2.db.Succeeded 1 step := by
  have hready : World.sampleRun.2.db.jobStatus? 1 = some .ready := by decide +kernel
  have hnew : ∀ step, World.sample.db.stepState? 1 step = none := by
    intro step
    cases step <;> rfl
  have hlife : History 1 (.idle, .sample) (.running World.sampleRun.1, World.sampleRun.2) :=
    .head (.start 0) (life_drive .plain 200 _ _)
  exact ⟨hready, (resume_is_safe hnew (by decide) hlife).2.2 hready⟩

end ProxVM
