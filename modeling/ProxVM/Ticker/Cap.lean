import ProxVM.Lib.Prompted
import ProxVM.Ticker.Passes

/-!
# The cap of active backup runs

`createBackupRun` counts the runs of the VM that wait or run, and inserts another if there are fewer than
`MAX_ACTIVE_BACKUP_RUNS`.  The count and the INSERT are two statements.
-/

namespace ProxVM.Ticker

open Tables Interaction

/-! ## Inserting runs -/

def counted : (c : Call) → Except String c.Reply → Option VmId
  | .countActive vmId, .ok n => if maxActiveBackupRuns ≤ n then none else some vmId
  | _, _ => none

def Call.insertsFor : Call → Option VmId
  | .insertRun _ input => some input.vmId
  | _ => none

abbrev Counts {α : Type} (p : Task α) : Prop := Prompted (F := calls) counted Call.insertsFor none p

theorem Quiet.counts {α : Type} {p : Task α} (hp : Quiet p) : Counts p := by
  refine Only.prompted (hp.mono fun c hc => ?_)
  cases c with
  | insertRun due input => exact hc.elim
  | _ => rfl

theorem counts_ask {c : Call} (hc : c.insertsFor = none) : Counts (ask c) := Only.prompted (only_perform.mpr hc)

theorem counts_createBackupRun (due : Option Firing) (input : BackupRunInput) :
    Counts (createBackupRun due input) := by
  refine prompted_perform_bind rfl fun n => ?_
  show Prompted _ _ (if _ then _ else _) (if _ then _ else _)
  split
  · trivial
  · refine ⟨fun vmId hneeds => hneeds, fun r => ?_⟩
    cases r with
    | error e => trivial
    | ok id =>
        refine prompted_perform_bind rfl fun created => ?_
        exact Only.prompted only_orRaise

theorem counts_runSchedule (due : Firing) (schedule : PowerSchedule) : Counts (runSchedule due schedule) := by
  refine prompted_perform_bind rfl fun vm => ?_
  refine prompted_perform_bind rfl fun _ => ?_
  refine prompted_perform_bind rfl fun upid => ?_
  exact (Quiet.counts (quiet_awaitTask vm.node upid)).bind fun _ => counts_ask rfl

theorem counts_runDueSchedules (loc : Locale) (now : Int) : Counts (runDueSchedules loc now) := by
  refine prompted_perform_bind rfl fun schedules => Prompted.foldlM (fun counts schedule => ?_) _ _
  unfold considerSchedule
  split
  · trivial
  · trivial
  · refine prompted_perform_bind rfl fun _ => ?_
    refine Prompted.tryCatch ((counts_runSchedule _ schedule).bind fun _ => trivial) fun message => ?_
    refine Prompted.bind (Quiet.counts (quiet_quietly ?_)) fun _ => trivial
    exact trivial

theorem counts_runDueBackupSchedules (loc : Locale) (now : Int) : Counts (runDueBackupSchedules loc now) := by
  refine prompted_perform_bind rfl fun schedules => Prompted.foldlM (fun counts schedule => ?_) _ _
  unfold considerBackupSchedule
  split
  · trivial
  · trivial
  · refine prompted_perform_bind rfl fun _ => ?_
    refine (Quiet.counts (quiet_creatorMayRunBackups schedule.createdBy)).bind fun may => ?_
    split
    · exact (Quiet.counts (quiet_auditQuietly _ _ _ _)).bind fun _ => trivial
    · refine prompted_perform_bind rfl fun busy => ?_
      show Prompted _ _ none (if _ then _ else _)
      split
      · trivial
      · exact Prompted.tryCatch ((counts_createBackupRun _ _).bind fun _ => trivial) fun _ => trivial

theorem counts_startRun (run : BackupRun) : Counts (startRun run) := by
  refine (Quiet.counts (quiet_creatorMayRunBackups run.createdBy)).bind fun may => ?_
  split
  · trivial
  · refine prompted_perform_bind rfl fun vm => ?_
    show Prompted _ _ none (if _ then _ else _)
    split
    · refine prompted_perform_bind rfl fun pbs => ?_
      show Prompted _ _ none (if _ then _ else _)
      split
      · trivial
      · have hdatastore : Counts (pruneDatastore run) := by
          unfold pruneDatastore
          split
          · trivial
          · exact counts_ask rfl
        refine hdatastore.bind fun found => (Only.prompted only_orRaise).bind fun datastore => ?_
        refine (Only.prompted only_orRaise).bind fun keepLast => prompted_perform_bind rfl fun groups => ?_
        refine Prompted.bind (Only.prompted only_orRaise) fun backupId => ?_
        exact prompted_perform_bind rfl fun upid => counts_ask rfl
    · refine prompted_perform_bind rfl fun _ => prompted_perform_bind rfl fun upid => ?_
      show Prompted _ _ none (if _ then _ else _)
      split
      · trivial
      · exact counts_ask rfl

theorem counts_executePendingBackups : Counts executePendingBackups := by
  refine prompted_perform_bind rfl fun pending => Prompted.foldlM (fun counts id => ?_) _ _
  refine prompted_perform_bind rfl fun claimed => ?_
  cases claimed with
  | none => trivial
  | some run =>
      refine Prompted.tryCatch ((counts_startRun run).bind fun _ => ?_) fun message => ?_
      · exact (Quiet.counts (quiet_auditQuietly _ _ _ _)).bind fun _ => trivial
      · refine prompted_perform_bind rfl fun _ => ?_
        exact Prompted.bind (Quiet.counts (quiet_auditQuietly _ _ _ _)) fun _ => trivial

theorem counts_settleRun (run : BackupRun) : Counts (settleRun run) := by
  refine (Only.prompted only_orRaise).bind fun upid => ?_
  have hpoll : Counts (pollRun run upid) := by
    unfold pollRun
    split
    · refine prompted_perform_bind rfl fun pbs => ?_
      show Prompted _ _ none (if _ then _ else _)
      split
      · trivial
      · exact prompted_perform_bind rfl fun st => trivial
    · refine prompted_perform_bind rfl fun vm => ?_
      refine prompted_perform_bind rfl fun _ => ?_
      exact prompted_perform_bind rfl fun st => trivial
  refine hpoll.bind fun ended => ?_
  split
  · trivial
  · refine Prompted.bind (prompted_perform_bind rfl fun _ => ?_) fun _ => trivial
    refine Prompted.bind (Quiet.counts (quiet_auditQuietly _ _ _ _)) fun _ => ?_
    unfold chainRetention
    split
    · exact Prompted.tryCatch ((counts_createBackupRun _ _).bind fun _ => trivial) fun _ => trivial
    · trivial
  · trivial

theorem counts_finalizeBackupRuns : Counts finalizeBackupRuns := by
  refine prompted_perform_bind rfl fun running => Prompted.foldlM (fun counts run => ?_) _ _
  refine Prompted.tryCatch ((counts_settleRun run).bind fun _ => trivial) fun message => ?_
  refine Prompted.bind (prompted_perform_bind rfl fun _ => ?_) fun _ => trivial
  refine Prompted.bind (Quiet.counts (quiet_auditQuietly _ _ _ _)) fun _ => ?_
  refine Prompted.bind (Quiet.counts (quiet_quietly ?_)) fun _ => Quiet.counts (quiet_quietly ?_)
  · exact trivial
  · exact trivial

theorem counts_phase {α : Type} {p : Task α} (hp : Counts p) : Counts (phase p) := by
  refine Prompted.tryCatch ?_ fun _ => trivial
  exact hp.bind fun _ => trivial

theorem counts_prog (loc : Locale) (role : Role) : Counts (role.prog loc) := by
  cases role with
  | runSchedules now later =>
      refine (counts_phase (counts_runDueSchedules loc now)).bind fun _ => counts_phase ?_
      refine (counts_phase (counts_runDueBackupSchedules loc later)).bind fun _ => ?_
      exact (counts_phase counts_executePendingBackups).bind fun _ => counts_phase counts_finalizeBackupRuns
  | createBackupRun input => exact counts_createBackupRun none input

/-! ## The runs of a VM -/

section runs

variable {w w' : World} {c : Call} {r : Except String c.Reply} {role : Role}

theorem activeCount_updateRun_le {id : RunId} {f : BackupRun → BackupRun} (hf : ∀ run, (f run).id = run.id)
    (hactive : ∀ run ∈ w.runs, run.id = id → (f run).vmId = run.vmId ∧ ((f run).isActive = true → run.isActive = true))
    (vmId : VmId) : (w.updateRun id f hf).activeCount vmId ≤ w.activeCount vmId := by
  show List.countP _ (w.runs.rows.map _) ≤ _
  rw [List.countP_map]
  refine List.countP_mono_left fun run hrun hcounts => ?_
  simp only [Function.comp_apply, Bool.and_eq_true, decide_eq_true_eq] at hcounts ⊢
  by_cases hid : run.id = id
  · rw [if_pos hid] at hcounts
    obtain ⟨hvm, hstill⟩ := hactive run hrun hid
    exact ⟨hvm.symm.trans hcounts.1, hstill hcounts.2⟩
  · rwa [if_neg hid] at hcounts

theorem activeCount_insertsRun {due : Option Firing} {input : BackupRunInput} {id : RunId}
    (hinsert : w.InsertsRun due input id w') (vmId : VmId) :
    w'.activeCount vmId = w.activeCount vmId + if input.vmId = vmId then 1 else 0 := by
  obtain ⟨-, runs, hins, rfl⟩ := hinsert
  have hrows : runs.rows = w.runs.rows ++ [World.newRun id input] := by
    unfold Table.insert? at hins
    split at hins
    · cases hins
    · cases hins
      rfl
  show List.countP _ runs.rows = _
  rw [hrows, List.countP_append, List.countP_singleton]
  congr 1
  by_cases hvm : input.vmId = vmId
  · rw [if_pos hvm, if_pos]
    exact (Bool.and_eq_true _ _).mpr ⟨decide_eq_true hvm, rfl⟩
  · rw [if_neg hvm, if_neg]
    exact fun h => hvm (of_decide_eq_true ((Bool.and_eq_true _ _).mp h).1)

theorem activeCount_le_of_serves (hserve : Serves c w r w') (vmId : VmId) (hc : c.insertsFor ≠ some vmId) :
    w'.activeCount vmId ≤ w.activeCount vmId := by
  cases change_of_serves hserve with
  | insertRun hinsert =>
      rw [activeCount_insertsRun hinsert vmId, if_neg fun h => hc (congrArg some h)]
      exact Nat.le_refl _
  | claimRun hrun hid hpending =>
      refine activeCount_updateRun_le (f := fun run => { run with status := .running }) (fun _ => rfl)
        (fun run' hrun' hid' => ⟨rfl, fun _ => ?_⟩) vmId
      -- The only row of this id is the one that was pending.
      rw [Table.eq_of_key_eq hrun' hrun (hid'.trans hid.symm)]
      exact decide_eq_true (.inl hpending)
  | @storeUpid id upid =>
      exact activeCount_updateRun_le (f := fun run => { run with upid := some upid }) (fun _ => rfl)
        (fun _ _ _ => ⟨rfl, fun h => h⟩) vmId
  | completeBackupRun =>
      exact activeCount_updateRun_le (f := fun run => { run with status := .ok }) (fun _ => rfl)
        (fun _ _ _ => ⟨rfl, fun h => nomatch h⟩) vmId
  | @failBackupRun id error =>
      exact activeCount_updateRun_le (f := fun run => { run with status := .failed, error := some error })
        (fun _ => rfl) (fun _ _ _ => ⟨rfl, fun h => nomatch h⟩) vmId
  | prune hstart =>
      obtain ⟨upid, -, -, -, rfl⟩ := hstart
      exact Nat.le_refl _
  | backup hstart =>
      obtain ⟨upid, -, -, -, rfl⟩ := hstart
      exact Nat.le_refl _
  | _ => exact Nat.le_refl _

/-! ## Runs -/

def HasRoom (w : World) (vmId : VmId) : Prop := w.activeCount vmId < maxActiveBackupRuns

def OneAtATime (P : TickerPool) : Role → Call → Prop
  | _, .insertRun _ input =>
      P.threads.countP (fun t => decide ((t.prog.pending?.bind Call.insertsFor) = some input.vmId)) ≤ 1
  | _, _ => True

theorem hasRoom_of_counted {vmId : VmId} (hserve : Serves c w r w') (hcounted : counted c r = some vmId) :
    HasRoom w' vmId := by
  cases c with
  | countActive vmId' =>
      match r with
      | .ok n =>
          obtain ⟨hn, rfl⟩ := hserve
          simp only [counted] at hcounted
          split at hcounted
          · cases hcounted
          · next hroom =>
              cases hcounted
              rw [hn] at hroom
              exact Nat.not_le.mp hroom
      | .error e => cases hcounted
  | _ => cases hcounted

theorem hasRoom_beside {before after : List TickerThread} {next : Except String c.Reply → Task role.Result}
    (hadmits : OneAtATime ⟨w, before ++ ⟨role, .call c next⟩ :: after⟩ role c) (hserve : Serves c w r w')
    {t : TickerThread} (ht : t ∈ before ++ after) {c' : Call} {vmId : VmId}
    (hpending : t.prog.pending? = some c') (hneeds : c'.insertsFor = some vmId) (hroom : HasRoom w vmId) :
    HasRoom w' vmId := by
  refine Nat.lt_of_le_of_lt (activeCount_le_of_serves hserve vmId fun hinserts => ?_) hroom
  cases c with
  | insertRun due input =>
      obtain rfl : input.vmId = vmId := Option.some.inj hinserts
      have hcount : (before ++ ⟨role, .call (.insertRun due input) next⟩ :: after).countP
          (fun t => decide ((t.prog.pending?.bind Call.insertsFor) = some input.vmId)) ≤ 1 := hadmits
      rw [List.countP_append, List.countP_cons_of_pos (by exact decide_eq_true rfl)] at hcount
      have hpos : 0 < (before ++ after).countP
          (fun t => decide ((t.prog.pending?.bind Call.insertsFor) = some input.vmId)) := by
        refine List.countP_pos_iff.mpr ⟨t, ht, decide_eq_true ?_⟩
        rw [hpending, Option.bind_some, hneeds]
      rw [List.countP_append] at hpos
      omega
  | _ => cases hinserts

def Capped (w : World) : Prop := ∀ vmId, w.activeCount vmId ≤ maxActiveBackupRuns

theorem capped_call (hserve : Serves c w r w') (hroom : ∀ vmId, c.insertsFor = some vmId → HasRoom w vmId)
    (hcapped : Capped w) : Capped w' := by
  intro vmId
  by_cases hinserts : c.insertsFor = some vmId
  · have hroom := hroom vmId hinserts
    unfold HasRoom at hroom
    cases change_of_serves hserve with
    | insertRun hinsert =>
        rw [activeCount_insertsRun hinsert vmId, if_pos (Option.some.inj hinserts)]
        omega
    | same => exact hcapped vmId
    | _ => cases hinserts
  · exact Nat.le_trans (activeCount_le_of_serves hserve vmId hinserts) (hcapped vmId)

theorem Meanwhile.activeCount_le (hmeanwhile : Meanwhile w w') (vmId : VmId) :
    w'.activeCount vmId ≤ w.activeCount vmId := hmeanwhile.runs.countP_le

structure KeptCap (P : TickerPool) : Prop where
  ready : ∀ t ∈ P.threads, Ready (F := calls) counted Call.insertsFor HasRoom P.state t
  capped : Capped P.state

theorem KeptCap.step {loc : Locale} {P P' : TickerPool} (hkept : KeptCap P)
    (hstep : PoolStep (tickerRules loc OneAtATime fun _ _ _ _ => True) P P') : KeptCap P' := by
  constructor
  · refine ready_of_poolStep ?_ ?_ ?_ ?_ hkept.ready hstep
    · exact fun hserve hcounted => hasRoom_of_counted hserve.1 hcounted
    · intro before after role c next s r s' t c' vmId hadmits hserve ht hpending hneeds hroom
      exact hasRoom_beside hadmits hserve.1 ht hpending hneeds hroom
    · rintro role result s s' successor ⟨rfl, rfl⟩
      exact ⟨fun _ h => h, fun t ht => nomatch ht⟩
    · rintro s s' newcomer ⟨hmeanwhile, hnewcomer⟩
      refine ⟨fun vmId hroom => Nat.lt_of_le_of_lt (hmeanwhile.activeCount_le vmId) hroom, fun t ht => ?_⟩
      obtain ⟨role, rfl⟩ := hnewcomer t ht
      exact counts_prog loc role
  · cases hstep with
    | @call before after role c next s s' r hadmits hserve =>
        have hthread := hkept.ready ⟨role, .call c next⟩ (List.mem_append_right before List.mem_cons_self)
        exact capped_call hserve.1 (fun vmId hneeds => hthread.found_of_call hneeds) hkept.capped
    | ends hends =>
        obtain ⟨-, rfl⟩ := hends
        exact hkept.capped
    | turn hturn => exact fun vmId => Nat.le_trans (hturn.1.activeCount_le vmId) (hkept.capped vmId)

end runs

/-- **The cap of active backup runs.**  In every run of ticks and requests in which runs of a VM are inserted
one at a time, no VM has more runs that wait or run than the cap. -/
theorem active_le_of_run (loc : Locale) (w : World) (hcapped : Capped w) (P : TickerPool)
    (hrun : PoolRun (tickerRules loc OneAtATime fun _ _ _ _ => True) ⟨w, []⟩ P) (vmId : VmId) :
    (P.state.runs.rows.filter fun run => decide (run.vmId = vmId) &&
      decide (run.status = .pending ∨ run.status = .running)).length ≤ maxActiveBackupRuns := by
  have hkept : KeptCap P := by
    induction hrun with
    | refl => exact ⟨fun t ht => absurd ht List.not_mem_nil, hcapped⟩
    | tail _ hstep ih => exact ih.step hstep
  rw [← List.countP_eq_length_filter]
  exact hkept.capped vmId

/-! ## Samples -/

def sampleInput : BackupRunInput := ⟨30, none, none, none, some "pbs-store", none, none, some 1⟩

def capStart : World where
  now := 0
  schedules := Table.empty
  backupSchedules := Table.empty
  runs := ⟨[World.newRun 1 sampleInput, World.newRun 2 sampleInput], by decide⟩
  issued := [1, 2]
  tasks := []
  claimed := []
  fired := []

def sampleLocale : Locale := ⟨fun _ => ⟨2026, 1, 1, 0, 0⟩, fun _ => 0, fun _ => none⟩

theorem capped_capStart : Capped capStart := by
  intro vmId
  have hle : capStart.activeCount vmId ≤ 2 := List.countP_le_length
  exact Nat.le_succ_of_le hle

def capEnd : World := (drive sampleAnswer 2 (createBackupRun none sampleInput, capStart)).2

theorem active_le_of_run_sample : (capEnd.runs.rows.filter fun run => decide (run.vmId = 30) &&
    decide (run.status = .pending ∨ run.status = .running)).length ≤ maxActiveBackupRuns := by
  have hadmits : ∀ c next w, (tickerRules sampleLocale OneAtATime fun _ _ _ _ => True).admits
      ⟨w, [⟨.createBackupRun sampleInput, .call c next⟩]⟩ (.createBackupRun sampleInput) c := by
    intro c next w
    cases c with
    | insertRun due input => exact List.countP_le_length
    | _ => exact trivial
  have hrequest := @poolRun_drive_beside _ _ _ _ _ (tickerRules sampleLocale OneAtATime fun _ _ _ _ => True)
    sampleAnswer (.createBackupRun sampleInput) [] hadmits
      (fun c w r w' h => ⟨serves_sampleAnswer c w r w' h, trivial⟩) 2 (createBackupRun none sampleInput) capStart
  exact active_le_of_run sampleLocale capStart capped_capStart _
    (.head (role_arrives sampleLocale OneAtATime _ (.createBackupRun sampleInput) capStart []) hrequest) 30

/-- A second request counts the runs before the first has inserted one. -/
theorem cap_exceeded : ¬ ∀ (loc : Locale) (w : World), Capped w →
    ∀ P, PoolRun (tickerRules loc (fun _ _ _ => True) fun _ _ _ _ => True) ⟨w, []⟩ P → ∀ vmId,
      (P.state.runs.rows.filter fun run => decide (run.vmId = vmId) &&
        decide (run.status = .pending ∨ run.status = .running)).length ≤ maxActiveBackupRuns := by
  intro hlaw
  have hserve : ∀ c w r w', sampleAnswer c w = some (r, w') → Serves c w r w' ∧ True :=
    fun c w r w' h => ⟨serves_sampleAnswer c w r w' h, trivial⟩
  have hruns := fun (others : List TickerThread) =>
    @poolRun_drive_beside _ _ _ _ _ (tickerRules sampleLocale (fun _ _ _ => True) fun _ _ _ _ => True) sampleAnswer
      (.createBackupRun sampleInput) others (fun _ _ _ => trivial) hserve
  -- The first request has counted two runs.
  let first : Task BackupRun := (drive sampleAnswer 1 (createBackupRun none sampleInput, capStart)).1
  have hcounts : drive sampleAnswer 1 (createBackupRun none sampleInput, capStart) = (first, capStart) := by rfl
  have hfirst := hruns [] 1 (createBackupRun none sampleInput) capStart
  rw [hcounts] at hfirst
  -- The second inserts one and ends, and the first goes on.
  have hsecond : PoolRun (tickerRules sampleLocale (fun _ _ _ => True) fun _ _ _ _ => True)
      ⟨capStart, [⟨.createBackupRun sampleInput, createBackupRun none sampleInput⟩,
        ⟨.createBackupRun sampleInput, first⟩]⟩ ⟨capEnd, [⟨.createBackupRun sampleInput, first⟩]⟩ :=
    @poolRun_to_end _ _ _ _ _ (tickerRules sampleLocale (fun _ _ _ => True) fun _ _ _ _ => True) sampleAnswer
      (fun _ _ _ => trivial) hserve 3 (.createBackupRun sampleInput) (createBackupRun none sampleInput) capStart
        [⟨.createBackupRun sampleInput, first⟩] (.ok (World.newRun 3 sampleInput)) none capEnd rfl ⟨rfl, rfl⟩
  have hthird := hruns [] 1 first capEnd
  have harrives := role_arrives sampleLocale (fun _ _ _ => True) (fun _ _ _ _ => True) (.createBackupRun sampleInput)
    capStart
  have hrun := (Relation.ReflTransGen.head (harrives []) hfirst).trans <|
    (Relation.ReflTransGen.head (harrives _) hsecond).trans hthird
  exact absurd (hlaw sampleLocale capStart capped_capStart _ hrun 30) (by decide +kernel)

end ProxVM.Ticker
