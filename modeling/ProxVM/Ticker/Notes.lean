import ProxVM.Lib.Solo
import ProxVM.Ticker.Passes

/-!
# What a pass knows of its runs

A pass that executes runs claims a run, starts its task and stores the task's id; a pass that finalizes runs
reads the ids that are stored and asks for the status of the tasks.  A `Note` keeps what the replies have told:
which run the pass has claimed, and what is known of tasks.
-/

namespace ProxVM.Ticker

open Tables Interaction Context

/-! ## Notes -/

inductive Fact
  | task (upid : String) (run : RunId)
  | ended (upid : String) (well : Bool)

inductive Stage
  | idle
  | owning (run : RunId)
  | started (run : RunId) (upid : String)

structure Note where
  stage : Stage
  facts : List Fact

def taskFact (run : BackupRun) : Option Fact := run.upid.map fun upid => .task upid run.id

def endedFacts (upid : String) (st : TaskStatus) : List Fact :=
  ((verdict st).map fun v => Fact.ended upid v.1).toList

def nextNote : (c : Call) → Except String c.Reply → Note → Note
  | .claimPendingBackupRun _, .ok (some run), n => { n with stage := .owning run.id }
  | .pruneSnapshots run _ _ _, .ok upid, n => { n with stage := .started run upid }
  | .createBackup run _ _ _ _, .ok upid, n => { n with stage := .started run upid }
  | .storeUpid _ _, _, n => { n with stage := .idle }
  | .failBackupRun _ _, _, n => { n with stage := .idle }
  | .selectRunning, .ok rows, n => { n with facts := rows.filterMap taskFact ++ n.facts }
  | .pbsTaskStatus upid, .ok st, n => { n with facts := endedFacts upid st ++ n.facts }
  | .taskStatus _ upid, .ok st, n => { n with facts := endedFacts upid st ++ n.facts }
  | _, _, n => n

def Note.Ended (n : Note) (run : RunId) (well : Bool) : Prop :=
  ∃ upid, Fact.task upid run ∈ n.facts ∧ Fact.ended upid well ∈ n.facts

def NoteOwes : Call → Note → Prop
  | .pruneSnapshots run _ _ _, n => n.stage = .owning run
  | .createBackup run _ _ _ _, n => n.stage = .owning run
  | .storeUpid run upid, n => n.stage = .started run upid
  | .completeBackupRun run, n => n.Ended run true
  | .failBackupRun run _, n => n.stage = .owning run ∨ n.Ended run false
  | _, _ => True

/-- The phase that finalizes runs gets its answers, no running run is listed without a task id, a task that is
started has an id, and the task id and the end of a run are stored. -/
def Plausible : (c : Call) → Except String c.Reply → Prop
  | .requireVm .finalize _, .error _ => False
  | .getProxmoxClient .finalize, .error _ => False
  | .getPbsClient .finalize, r => r = .ok true
  | .pbsTaskStatus _, .error _ => False
  | .taskStatus _ _, .error _ => False
  | .selectRunning, .ok rows => ∀ run ∈ rows, run.upid.getD "" ≠ ""
  | .pruneSnapshots _ _ _ _, .ok upid => upid ≠ ""
  | .createBackup _ _ _ _ _, .ok upid => upid ≠ ""
  | .storeUpid _ _, .error _ => False
  | .completeBackupRun _, .error _ => False
  | _, _ => True

abbrev tracking : Context calls String Note :=
  aloneOwing (fun c n r n' => Plausible c r ∧ n' = nextNote c r n) NoteOwes

def Tracks {α : Type} (p : Task α) : Prop := ∀ n, tracking.holds p (fun _ _ => True) n

section rules

variable {α β : Type} {n : Note}

variable {p : Task α} {f : α → Task β} {c : Call} {fact : Fact}

theorem Tracks.bind (hp : Tracks p) (hf : ∀ a, Tracks (f a)) : Tracks (p >>= f) :=
  fun n => Context.holds_bind_of (hp n) (fun a n' _ => hf a n') fun _ _ _ => trivial

theorem tracks_pure (a : α) : Tracks (pure a) := fun _ => trivial

theorem Tracks.tryCatch {h : String → Task α} (hp : Tracks p) (hh : ∀ e, Tracks (h e)) :
    Tracks (p.tryCatch h) := by
  intro n
  refine Context.holds_tryCatch.mpr (Context.holds_mono (hp n) fun r n' _ => ?_)
  cases r with
  | ok a => trivial
  | error e => exact hh e n'

theorem Tracks.foldlM {f : β → α → Task β} (hf : ∀ b a, Tracks (f b a)) (xs : List α) (b : β) :
    Tracks (xs.foldlM f b) := by
  intro n
  refine Context.holds_foldlM (I := fun _ _ => True) (fun b x _ n' _ => ?_) (fun _ _ _ => trivial) trivial
  refine Context.holds_mono (hf b x n') fun r _ _ => ?_
  cases r with
  | ok b' => trivial
  | error e => trivial

theorem tracks_phase (hp : Tracks p) : Tracks (phase p) :=
  (hp.bind fun _ => tracks_pure ()).tryCatch fun _ => tracks_pure ()

abbrev Call.Unowed (c : Call) : Prop := ∀ n, NoteOwes c n

theorem tracks_of_unowed (hp : Only (F := calls) Call.Unowed p) : Tracks p := by
  intro n
  refine Context.holds_of_only (C := tracking) (I := fun _ => True) ?_ ?_ ?_ hp trivial
  · exact fun _ _ _ _ => trivial
  · exact fun c n' hc _ => hc n'
  · exact fun _ _ _ _ _ _ _ => trivial

theorem Quiet.unowed {p : Task α} (hp : Quiet p) : Only (F := calls) Call.Unowed p := by
  refine hp.mono fun c hc n => ?_
  cases c with
  | pruneSnapshots _ _ _ _ => exact hc.elim
  | createBackup _ _ _ _ _ => exact hc.elim
  | storeUpid _ _ => exact hc.elim
  | completeBackupRun _ => exact hc.elim
  | failBackupRun _ _ => exact hc.elim
  | _ => trivial

theorem nextNote_of_silent (hc : c.Silent) (r : Except String c.Reply) (n : Note) : nextNote c r n = n := by
  cases c with
  | claimPendingBackupRun _ => exact hc.elim
  | pruneSnapshots _ _ _ _ => exact hc.elim
  | createBackup _ _ _ _ _ => exact hc.elim
  | storeUpid _ _ => exact hc.elim
  | failBackupRun _ _ => exact hc.elim
  | selectRunning => exact hc.elim
  | pbsTaskStatus _ => exact hc.elim
  | taskStatus _ _ => exact hc.elim
  | _ => rfl

theorem holds_of_quiet {p : Task α} (hp : Quiet p) : tracking.holds p (fun _ n' => n' = n) n := by
  refine Context.holds_of_only (C := tracking) ?_ ?_ ?_ hp rfl
  · rintro n₁ _ rfl rfl
    rfl
  · exact fun c n₁ hc _ => Quiet.unowed (p := ask c) (only_perform.mpr hc) |>.1 n₁
  · rintro c n₁ r _ hc rfl ⟨-, rfl⟩
    exact nextNote_of_silent hc r n₁

def Calm (p : Task α) : Prop := ∀ n, tracking.holds p (fun r n' => (∃ a, r = .ok a) ∧ n' = n) n

theorem Calm.bind (hp : Calm p) (hf : ∀ a, Calm (f a)) : Calm (p >>= f) := by
  intro n
  refine Context.holds_bind.mpr (Context.holds_mono (hp n) ?_)
  rintro _ _ ⟨⟨a, rfl⟩, rfl⟩
  exact hf a _

theorem Calm.holds_bind {Q : Except String β → Note → Prop} (hp : Calm p)
    (hf : ∀ a, tracking.holds (f a) Q n) : tracking.holds (p >>= f) Q n := by
  refine Context.holds_bind.mpr (Context.holds_mono (hp n) ?_)
  rintro _ _ ⟨⟨a, rfl⟩, rfl⟩
  exact hf a

theorem calm_tryCatch (hp : Quiet p) (a : α) : Calm (p.tryCatch fun _ => pure a) := by
  intro n
  refine Context.holds_tryCatch.mpr (Context.holds_mono (holds_of_quiet hp) fun r n' hsame => ?_)
  cases r with
  | ok a' => exact ⟨⟨a', rfl⟩, hsame⟩
  | error e => exact ⟨⟨a, rfl⟩, hsame⟩

theorem calm_quietly (hc : c.Silent) : Calm (quietly c) := by
  refine calm_tryCatch (Only.bind (only_perform.mpr hc) fun _ => ?_) ()
  trivial

theorem calm_actorUsername (userId : Option UserId) : Calm (actorUsername userId) := by
  cases userId with
  | none => exact fun n => ⟨⟨none, rfl⟩, rfl⟩
  | some userId =>
      refine calm_tryCatch (Only.bind (only_perform.mpr ?_) fun _ => ?_) none
      · trivial
      · trivial

theorem calm_auditQuietly (event : String) (createdBy : Option UserId) (vmId : VmId)
    (detail : List (String × String)) : Calm (auditQuietly event createdBy vmId detail) :=
  (calm_actorUsername createdBy).bind fun _ => calm_quietly trivial

theorem mem_facts_nextNote {r : Except String c.Reply} (hmem : fact ∈ n.facts) :
    fact ∈ (nextNote c r n).facts := by
  unfold nextNote
  split
  all_goals first
    | exact hmem
    | exact List.mem_append_right _ hmem

theorem holds_keeping_fact {Q : Except String α → Note → Prop}
    (hp : tracking.holds p Q n) (hmem : fact ∈ n.facts) :
    tracking.holds p (fun r n' => Q r n' ∧ fact ∈ n'.facts) n := by
  refine holds_aloneOwing_keeping (I := fun n' => fact ∈ n'.facts) ?_ hp hmem
  rintro c n₁ r _ hmem ⟨-, rfl⟩
  exact mem_facts_nextNote hmem

end rules

/-! ## Runs that are executed -/

section execute

variable {run : BackupRun} {n : Note}

abbrev StillOwned {α : Type} (run : BackupRun) (r : Except String α) (n : Note) : Prop :=
  ∀ e, r = .error e → n.stage = .owning run.id

theorem stillOwned_ok {α : Type} (a : α) : StillOwned run (.ok a) n := fun _ h => nomatch h

theorem holds_silent_bind {α : Type} {c : Call} (hc : c.Silent) {f : c.Reply → Task α} (howned : n.stage = .owning run.id)
    (hf : ∀ a, tracking.holds (f a) (StillOwned run) n) : tracking.holds (ask c >>= f) (StillOwned run) n := by
  refine Context.holds_bind_of (holds_of_quiet (p := ask c) (only_perform.mpr hc)) ?_ ?_
  · rintro a _ rfl
    exact hf a
  · rintro e _ rfl _ _
    exact howned

theorem holds_storeUpid {upid : String} (hstarted : n.stage = .started run.id upid) :
    tracking.holds (ask (.storeUpid run.id upid)) (StillOwned run) n := by
  refine holds_aloneOwing_perform.mpr ⟨hstarted, ?_⟩
  rintro (e | a) _ ⟨hreply, rfl⟩
  · exact hreply.elim
  · exact stillOwned_ok a

theorem holds_startPrune (vm : VmAddress) (howned : n.stage = .owning run.id) :
    tracking.holds (startPrune run vm) (StillOwned run) n := by
  have hraise : ∀ e, tracking.holds (.raise e : Task Unit) (StillOwned run) n := fun _ _ _ => howned
  refine holds_silent_bind (c := .getPbsClient .execute) trivial howned fun pbs => Context.holds_ite.mpr ⟨fun _ => hraise _, fun _ => ?_⟩
  have hdatastore : Quiet (pruneDatastore run) := by
    unfold pruneDatastore
    split
    · trivial
    · exact only_perform.mpr trivial
  refine Context.holds_bind_of (holds_of_quiet hdatastore) ?_ ?_
  · rintro found _ rfl
    refine Context.holds_orRaise_bind.mpr ⟨fun datastore _ => ?_, fun _ => hraise _⟩
    refine Context.holds_orRaise_bind.mpr ⟨fun keepLast _ => ?_, fun _ => hraise _⟩
    refine holds_silent_bind (c := .listBackupGroups datastore) trivial howned fun groups => ?_
    refine Context.holds_orRaise_bind.mpr ⟨fun backupId _ => ?_, fun _ => hraise _⟩
    refine holds_aloneOwing_bind.mpr ⟨howned, ?_, ?_⟩
    · rintro upid _ ⟨-, rfl⟩
      exact holds_storeUpid rfl
    · rintro e _ ⟨-, rfl⟩ _ _
      exact howned
  · rintro e _ rfl _ _
    exact howned

theorem holds_startBackup (vm : VmAddress) (howned : n.stage = .owning run.id) :
    tracking.holds (startBackup run vm) (StillOwned run) n := by
  refine holds_silent_bind (c := .getProxmoxClient .execute) trivial howned fun _ => ?_
  refine holds_aloneOwing_bind.mpr ⟨howned, ?_, ?_⟩
  · rintro upid _ ⟨hreply, rfl⟩
    exact Context.holds_ite.mpr ⟨fun hempty => absurd hempty hreply, fun _ => holds_storeUpid rfl⟩
  · rintro e _ ⟨-, rfl⟩ _ _
    exact howned

theorem holds_startRun (howned : n.stage = .owning run.id) : tracking.holds (startRun run) (StillOwned run) n := by
  refine Context.holds_bind_of (holds_of_quiet (quiet_creatorMayRunBackups run.createdBy)) ?_ ?_
  · rintro may _ rfl
    refine Context.holds_ite.mpr ⟨fun _ _ _ => howned, fun _ => ?_⟩
    refine holds_silent_bind (c := .requireVm .execute run.vmId) trivial howned fun vm => ?_
    exact Context.holds_ite.mpr ⟨fun _ => holds_startPrune vm howned, fun _ => holds_startBackup vm howned⟩
  · rintro e _ rfl _ _
    exact howned

theorem holds_executeRun (counts : RunCounts) (howned : n.stage = .owning run.id) :
    tracking.holds (executeRun run counts) (fun _ _ => True) n := by
  refine Context.holds_tryCatch.mpr (Context.holds_bind.mpr (Context.holds_mono (holds_startRun howned) ?_))
  intro r n' hstart
  cases r with
  | ok a => exact (calm_auditQuietly _ _ _ _).holds_bind fun _ => trivial
  | error message =>
      refine holds_aloneOwing_bind.mpr ⟨.inl (hstart message rfl), ?_, fun _ _ _ => trivial⟩
      rintro _ n'' -
      exact (calm_auditQuietly _ _ _ _).holds_bind fun _ => trivial

theorem tracks_executePendingBackups : Tracks executePendingBackups := by
  refine Tracks.bind (tracks_of_unowed (only_perform.mpr fun _ => trivial)) fun pending => ?_
  refine Tracks.foldlM (fun counts id n => ?_) _ _
  refine holds_aloneOwing_bind.mpr ⟨trivial, ?_, fun _ _ _ => trivial⟩
  rintro claimed _ ⟨-, rfl⟩
  cases claimed with
  | none => trivial
  | some run => exact holds_executeRun counts rfl

end execute

/-! ## Runs that are finalized -/

section finalize

variable {run : BackupRun} {n : Note} {upid : String}

abbrev Polled (upid : String) (r : Except String (Option (Bool × String))) (n : Note) : Prop :=
  ∃ v, r = .ok v ∧ ∀ well detail, v = some (well, detail) → Fact.ended upid well ∈ n.facts

theorem polled_verdict {st : TaskStatus} :
    Polled upid (.ok (verdict st)) { n with facts := endedFacts upid st ++ n.facts } := by
  refine ⟨_, rfl, fun well detail hended => List.mem_append_left _ ?_⟩
  unfold endedFacts
  rw [hended]
  exact List.mem_singleton.mpr rfl

theorem holds_pollRun (run : BackupRun) : tracking.holds (pollRun run upid) (Polled upid) n := by
  refine Context.holds_ite.mpr ⟨fun _ => ?_, fun _ => ?_⟩
  · refine holds_aloneOwing_bind.mpr ⟨trivial, ?_, ?_⟩
    · rintro pbs _ ⟨hreply, rfl⟩
      obtain rfl : pbs = true := Except.ok.inj hreply
      refine holds_aloneOwing_bind.mpr ⟨trivial, ?_, ?_⟩
      · rintro st _ ⟨-, rfl⟩
        exact polled_verdict
      · exact fun _ _ hserve => hserve.1.elim
    · exact fun _ _ hserve => nomatch hserve.1
  · refine holds_aloneOwing_bind.mpr ⟨trivial, ?_, fun _ _ hserve => hserve.1.elim⟩
    rintro vm n₁ -
    refine holds_aloneOwing_bind.mpr ⟨trivial, ?_, fun _ _ hserve => hserve.1.elim⟩
    rintro _ n₂ -
    refine holds_aloneOwing_bind.mpr ⟨trivial, ?_, fun _ _ hserve => hserve.1.elim⟩
    rintro st _ ⟨-, rfl⟩
    exact polled_verdict

theorem unowed_createBackupRun (due : Option Firing) (input : BackupRunInput) :
    Only (F := calls) Call.Unowed (createBackupRun due input) := by
  refine Only.bind (only_perform.mpr fun _ => trivial) fun count => Only.ite trivial ?_
  refine Only.bind (only_perform.mpr fun _ => trivial) fun id => ?_
  exact Only.bind (only_perform.mpr fun _ => trivial) fun created => only_orRaise

theorem holds_chainRetention (run : BackupRun) :
    tracking.holds (chainRetention run) (fun r _ => ∃ a, r = .ok a) n := by
  refine Context.holds_ite.mpr ⟨fun _ => ?_, fun _ => ⟨(), rfl⟩⟩
  have hcreate : Tracks (createBackupRun none (retentionInput run) >>= fun _ => pure ()) :=
    (tracks_of_unowed (unowed_createBackupRun _ _)).bind fun _ => tracks_pure ()
  refine Context.holds_tryCatch.mpr (Context.holds_mono (hcreate n) fun r n' _ => ?_)
  cases r with
  | ok a => exact ⟨a, rfl⟩
  | error e => exact ⟨(), rfl⟩

theorem holds_finishRun (detail : String) (hended : n.Ended run.id true) :
    tracking.holds (finishRun run detail) (fun r _ => ∃ a, r = .ok a) n := by
  refine holds_aloneOwing_bind.mpr ⟨hended, ?_, fun _ _ hserve => hserve.1.elim⟩
  rintro _ n' -
  exact (calm_auditQuietly _ _ _ _).holds_bind fun _ => holds_chainRetention run

def Note.Knows (n : Note) (run : BackupRun) : Prop :=
  ∃ upid, run.upid = some upid ∧ upid ≠ "" ∧ Fact.task upid run.id ∈ n.facts

theorem holds_settleRun (hknows : n.Knows run) :
    tracking.holds (settleRun run) (fun r n' => ∀ e, r = .error e → n'.Ended run.id false) n := by
  obtain ⟨upid, hupid, hne, htask⟩ := hknows
  have hfilter : (run.upid.filter fun u => decide (u ≠ "")) = some upid := by
    rw [hupid, Option.filter_some, if_pos (decide_eq_true hne)]
  refine Context.holds_orRaise_bind.mpr ⟨fun found hfound => ?_, fun hnone => absurd (hfilter.symm.trans hnone) nofun⟩
  obtain rfl : upid = found := Option.some.inj (hfilter.symm.trans hfound)
  refine Context.holds_bind.mpr (Context.holds_mono (holds_keeping_fact (holds_pollRun run) htask) ?_)
  rintro _ n' ⟨⟨v, rfl, hended⟩, htask'⟩
  match v with
  | none => exact fun _ h => nomatch h
  | some (true, detail) =>
      have hfinish : tracking.holds (finishRun run detail) (fun r _ => ∃ a, r = .ok a) n' :=
        holds_finishRun detail ⟨upid, htask', hended true detail rfl⟩
      refine Context.holds_bind.mpr (Context.holds_mono hfinish ?_)
      rintro _ n'' ⟨a, rfl⟩ _ h
      cases h
  | some (false, detail) => exact fun _ _ => ⟨upid, htask', hended false detail rfl⟩

theorem tracks_giveUp (message : String) (hended : n.Ended run.id false) :
    tracking.holds (giveUp run message) (fun _ _ => True) n := by
  refine holds_aloneOwing_bind.mpr ⟨.inr hended, ?_, fun _ _ _ => trivial⟩
  rintro _ n' -
  refine (calm_auditQuietly _ _ _ _).holds_bind fun _ => Calm.holds_bind (calm_quietly ?_) fun _ => ?_
  · trivial
  · refine Context.holds_mono (calm_quietly ?_ n') fun _ _ _ => trivial
    trivial

theorem holds_finalizeRun (counts : RunCounts) (hknows : n.Knows run) :
    tracking.holds (finalizeRun counts run) (fun _ _ => True) n := by
  refine Context.holds_tryCatch.mpr (Context.holds_bind.mpr (Context.holds_mono (holds_settleRun hknows) ?_))
  intro r n' hsettled
  cases r with
  | ok finished => trivial
  | error message =>
      exact Context.holds_bind_of (tracks_giveUp message (hsettled message rfl)) (fun _ _ _ => trivial) fun _ _ _ => trivial

theorem knows_of_selectRunning {rows : List BackupRun} (hreply : ∀ run ∈ rows, run.upid.getD "" ≠ "")
    (hrun : run ∈ rows) : (nextNote .selectRunning (.ok rows) n).Knows run := by
  have hstored := hreply run hrun
  cases hupid : run.upid with
  | none =>
      rw [hupid] at hstored
      exact absurd rfl hstored
  | some upid =>
      rw [hupid] at hstored
      refine ⟨upid, hupid, hstored, List.mem_append_left _ (List.mem_filterMap.mpr ⟨run, hrun, ?_⟩)⟩
      unfold taskFact
      rw [hupid]
      rfl

theorem tracks_finalizeBackupRuns : Tracks finalizeBackupRuns := by
  intro n
  refine holds_aloneOwing_bind.mpr ⟨trivial, ?_, fun _ _ _ => trivial⟩
  rintro running _ ⟨hreply, rfl⟩
  -- What is known of the rows stays known from round to round.
  refine Context.holds_foldlM (I := fun _ n' => ∀ run ∈ running, n'.Knows run) ?_ (fun _ _ _ => trivial) fun run hrun =>
    knows_of_selectRunning hreply hrun
  intro counts run hrun n' hknows
  have hkept := holds_aloneOwing_keeping (I := fun n' => ∀ run ∈ running, n'.Knows run) ?_
    (holds_finalizeRun counts (hknows run hrun)) hknows
  · refine Context.holds_mono hkept fun r n'' h => ?_
    cases r with
    | ok counts' => exact h.2
    | error e => trivial
  · rintro c n₁ r _ hall ⟨-, rfl⟩ run' hrun'
    obtain ⟨upid, hupid, hne, htask⟩ := hall run' hrun'
    exact ⟨upid, hupid, hne, mem_facts_nextNote htask⟩

end finalize

/-! ## Whole programs -/

theorem unowed_runDueSchedules (loc : Locale) (now : Int) : Only (F := calls) Call.Unowed (runDueSchedules loc now) := by
  refine Only.bind (only_perform.mpr fun _ => trivial) fun schedules => Only.foldlM fun counts s => ?_
  unfold considerSchedule
  split
  · trivial
  · trivial
  · refine Only.bind (only_perform.mpr fun _ => trivial) fun _ => Only.tryCatch (Only.bind ?_ fun _ => trivial) fun _ => ?_
    · refine Only.bind (only_perform.mpr fun _ => trivial) fun vm => Only.bind (only_perform.mpr fun _ => trivial) fun _ => ?_
      refine Only.bind (only_perform.mpr fun _ => trivial) fun upid => ?_
      exact (Quiet.unowed (quiet_awaitTask vm.node upid)).bind fun _ => only_perform.mpr fun _ => trivial
    · exact Only.bind (Quiet.unowed (quiet_quietly trivial)) fun _ => trivial

theorem unowed_runDueBackupSchedules (loc : Locale) (now : Int) :
    Only (F := calls) Call.Unowed (runDueBackupSchedules loc now) := by
  refine Only.bind (only_perform.mpr fun _ => trivial) fun schedules => Only.foldlM fun counts s => ?_
  unfold considerBackupSchedule
  split
  · trivial
  · trivial
  · refine Only.bind (only_perform.mpr fun _ => trivial) fun _ => ?_
    refine Only.bind (Quiet.unowed (quiet_creatorMayRunBackups s.createdBy)) fun may => Only.ite ?_ ?_
    · exact Only.bind (Quiet.unowed (quiet_auditQuietly _ _ _ _)) fun _ => trivial
    · refine Only.bind (only_perform.mpr fun _ => trivial) fun busy => Only.ite trivial ?_
      exact Only.tryCatch (Only.bind (unowed_createBackupRun _ _) fun _ => trivial) fun _ => trivial

/-- **Every program knows what it does.** -/
theorem tracks_prog (loc : Locale) (role : Role) : Tracks (role.prog loc) := by
  cases role with
  | runSchedules now later =>
      refine (tracks_phase (tracks_of_unowed (unowed_runDueSchedules loc now))).bind fun _ => tracks_phase ?_
      refine (tracks_phase (tracks_of_unowed (unowed_runDueBackupSchedules loc later))).bind fun _ => ?_
      exact (tracks_phase tracks_executePendingBackups).bind fun _ => tracks_phase tracks_finalizeBackupRuns
  | createBackupRun input => exact tracks_of_unowed (unowed_createBackupRun none input)

end ProxVM.Ticker
