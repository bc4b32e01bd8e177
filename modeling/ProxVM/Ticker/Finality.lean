import ProxVM.Ticker.Notes

/-!
# The status of a backup run

A run is OK or FAILED for good, it is OK only if its task has ended well, and FAILED only if no task was
started for it or its task has ended badly.
-/

namespace ProxVM.Ticker

open Tables Interaction Context

/-! ## Tasks and runs -/

def BackupTask.Ended (t : BackupTask) (well : Bool) : Prop :=
  ∃ e, t.exit = some e ∧ well = decide (e = none ∨ e = some "" ∨ e = some "OK")

/-- A run that is OK has a task that has ended well, and a run that is FAILED has none, or one that has ended
badly. -/
def Truthful (w : World) : Prop :=
  ∀ run ∈ w.runs, (run.status = .ok → ∃ t ∈ w.tasks, t.run = run.id ∧ t.Ended true) ∧
    (run.status = .failed → (∀ t ∈ w.tasks, t.run ≠ run.id) ∨ ∃ t ∈ w.tasks, t.run = run.id ∧ t.Ended false)

def Final (w w' : World) : Prop :=
  ∀ run ∈ w.runs, run.status = .ok ∨ run.status = .failed → ∀ run' ∈ w'.runs, run'.id = run.id →
    run'.status = run.status

structure RowSound (w : World) (run : BackupRun) : Prop where
  issued : run.id ∈ w.issued
  pending : run.status = .pending → ∀ t ∈ w.tasks, t.run ≠ run.id
  stored : ∀ upid, run.upid = some upid → ∃ t ∈ w.tasks, t.upid = upid ∧ t.run = run.id
  ok : run.status = .ok → ∃ t ∈ w.tasks, t.run = run.id ∧ t.Ended true
  failed : run.status = .failed → (∀ t ∈ w.tasks, t.run ≠ run.id) ∨ ∃ t ∈ w.tasks, t.run = run.id ∧ t.Ended false

structure Sound (w : World) : Prop where
  upids : (w.tasks.map BackupTask.upid).Nodup
  owners : (w.tasks.map BackupTask.run).Nodup
  issued : ∀ t ∈ w.tasks, t.run ∈ w.issued
  rows : ∀ run ∈ w.runs, RowSound w run

theorem Sound.truthful {w : World} (hsound : Sound w) : Truthful w := fun run hrun =>
  ⟨(hsound.rows run hrun).ok, (hsound.rows run hrun).failed⟩

def Fact.Holds (w : World) : Fact → Prop
  | .task upid run => ∃ t ∈ w.tasks, t.upid = upid ∧ t.run = run
  | .ended upid well => ∃ t ∈ w.tasks, t.upid = upid ∧ t.Ended well

def Stage.Holds (w : World) : Stage → Prop
  | .idle => True
  | .owning id => id ∈ w.issued ∧ (∀ t ∈ w.tasks, t.run ≠ id) ∧ ∀ run ∈ w.runs, run.id = id → run.status = .running
  | .started id upid => (∃ t ∈ w.tasks, t.upid = upid ∧ t.run = id) ∧
      ∀ run ∈ w.runs, run.id = id → run.status ≠ .pending

structure Note.Holds (w : World) (n : Note) : Prop where
  stage : n.stage.Holds w
  facts : ∀ fact ∈ n.facts, fact.Holds w

section tasks

variable {w w' : World} {t t' : BackupTask}

theorem BackupTask.Ended.unique {well well' : Bool} (h : t.Ended well) (h' : t.Ended well') : well = well' := by
  obtain ⟨e, he, rfl⟩ := h
  obtain ⟨e', he', rfl⟩ := h'
  rw [he] at he'
  rw [Option.some.inj he']

theorem Sound.eq_of_upid (hsound : Sound w) (ht : t ∈ w.tasks) (ht' : t' ∈ w.tasks) (h : t.upid = t'.upid) : t = t' :=
  List.inj_on_of_nodup_map hsound.upids ht ht' h

theorem Sound.eq_of_run (hsound : Sound w) (ht : t ∈ w.tasks) (ht' : t' ∈ w.tasks) (h : t.run = t'.run) : t = t' :=
  List.inj_on_of_nodup_map hsound.owners ht ht' h

theorem Sound.ended {n : Note} {run : RunId} {well : Bool} (hsound : Sound w) (hn : n.Holds w)
    (hended : n.Ended run well) : ∃ t ∈ w.tasks, t.run = run ∧ t.Ended well := by
  obtain ⟨upid, htask, hend⟩ := hended
  obtain ⟨t, ht, hupid, hrun⟩ := hn.facts _ htask
  obtain ⟨t', ht', hupid', hwell⟩ := hn.facts _ hend
  obtain rfl := hsound.eq_of_upid ht ht' (hupid.trans hupid'.symm)
  exact ⟨t, ht, hrun, hwell⟩

def TasksGoOn (w w' : World) : Prop :=
  ∀ t ∈ w.tasks, ∃ t' ∈ w'.tasks, t'.upid = t.upid ∧ t'.run = t.run ∧ ∀ well, t.Ended well → t'.Ended well

theorem TasksGoOn.of_subset (hsubset : ∀ t ∈ w.tasks, t ∈ w'.tasks) : TasksGoOn w w' := fun t ht =>
  ⟨t, hsubset t ht, rfl, rfl, fun _ h => h⟩

theorem Meanwhile.tasksGoOn (hmeanwhile : Meanwhile w w') : TasksGoOn w w' := by
  intro t ht
  obtain ⟨i, hi, rfl⟩ := List.mem_iff_getElem.mp ht
  have hlength := hmeanwhile.tasks.length_eq
  have hi' : i < w'.tasks.length := hlength ▸ hi
  obtain ⟨hupid, hrun, hexit⟩ := hmeanwhile.tasks.get hi hi'
  refine ⟨w'.tasks[i], List.getElem_mem hi', hupid, hrun, ?_⟩
  rintro well ⟨e, he, hwell⟩
  have hsome : (w.tasks[i]).exit ≠ none := by
    rw [he]
    exact nofun
  exact ⟨e, (hexit hsome).trans he, hwell⟩

theorem Fact.Holds.goOn {fact : Fact} (hfact : fact.Holds w) (hgoOn : TasksGoOn w w') : fact.Holds w' := by
  cases fact with
  | task upid run =>
      obtain ⟨t, ht, hupid, hrun⟩ := hfact
      obtain ⟨t', ht', hupid', hrun', -⟩ := hgoOn t ht
      exact ⟨t', ht', hupid'.trans hupid, hrun'.trans hrun⟩
  | ended upid well =>
      obtain ⟨t, ht, hupid, hwell⟩ := hfact
      obtain ⟨t', ht', hupid', -, hended⟩ := hgoOn t ht
      exact ⟨t', ht', hupid'.trans hupid, hended well hwell⟩

theorem ended_goOn {id : RunId} {well : Bool} (hgoOn : TasksGoOn w w')
    (hended : ∃ t ∈ w.tasks, t.run = id ∧ t.Ended well) : ∃ t ∈ w'.tasks, t.run = id ∧ t.Ended well := by
  obtain ⟨t, ht, hrun, hwell⟩ := hended
  obtain ⟨t', ht', -, hrun', hkept⟩ := hgoOn t ht
  exact ⟨t', ht', hrun'.trans hrun, hkept well hwell⟩

theorem tasksGoOn_of_change {c : Call} (hchange : Change w c w') : TasksGoOn w w' := by
  refine .of_subset fun t ht => ?_
  cases hchange with
  | insertRun hinsert =>
      obtain ⟨-, runs, -, rfl⟩ := hinsert
      exact ht
  | prune hstart =>
      obtain ⟨upid, -, -, -, rfl⟩ := hstart
      exact List.mem_cons_of_mem _ ht
  | backup hstart =>
      obtain ⟨upid, -, -, -, rfl⟩ := hstart
      exact List.mem_cons_of_mem _ ht
  | _ => exact ht

end tasks

/-! ## The books -/

section books

variable {w w' : World} {n : Note} {c : Call} {r : Except String c.Reply} {run : BackupRun}

theorem RowSound.goOn (hrow : RowSound w run) (hgoOn : TasksGoOn w w')
    (hissued : ∀ id ∈ w.issued, id ∈ w'.issued)
    (hnew : run.status ≠ .running → (∀ t ∈ w.tasks, t.run ≠ run.id) → ∀ t ∈ w'.tasks, t.run ≠ run.id) :
    RowSound w' run := by
  constructor
  · exact hissued _ hrow.issued
  · intro hpending
    refine hnew ?_ (hrow.pending hpending)
    rw [hpending]
    exact nofun
  · intro upid hupid
    obtain ⟨t, ht, htask, hrun⟩ := hrow.stored upid hupid
    obtain ⟨t', ht', hsame, hrun', -⟩ := hgoOn t ht
    exact ⟨t', ht', hsame.trans htask, hrun'.trans hrun⟩
  · exact fun hok => ended_goOn hgoOn (hrow.ok hok)
  · intro hfailed
    obtain hnone | hended := hrow.failed hfailed
    · refine .inl (hnew ?_ hnone)
      rw [hfailed]
      exact nofun
    · exact .inr (ended_goOn hgoOn hended)

theorem Sound.updateRun {id : RunId} {f : BackupRun → BackupRun} {hf : ∀ run, (f run).id = run.id}
    (hsound : Sound w) (hrow : ∀ run ∈ w.runs, run.id = id → RowSound w run → RowSound w (f run)) :
    Sound (w.updateRun id f hf) := by
  refine ⟨hsound.upids, hsound.owners, hsound.issued, fun run hrun => ?_⟩
  have hkept : RowSound w run := by
    obtain ⟨run₀, hrun₀, rfl⟩ := mem_updateRun.mp hrun
    split
    · next hid => exact hrow run₀ hrun₀ hid (hsound.rows run₀ hrun₀)
    · exact hsound.rows run₀ hrun₀
  exact ⟨hkept.issued, hkept.pending, hkept.stored, hkept.ok, hkept.failed⟩

theorem Sound.startsTask {id : RunId} {reply : String} (hsound : Sound w) (howning : Stage.Holds w (.owning id))
    (hstart : w.StartsTask id reply w') : Sound w' := by
  obtain ⟨upid, -, hfresh, -, rfl⟩ := hstart
  obtain ⟨hissued, hnone, hrunning⟩ := howning
  constructor
  · refine List.nodup_cons.mpr ⟨fun hmem => ?_, hsound.upids⟩
    obtain ⟨t, ht, hupid⟩ := List.mem_map.mp hmem
    exact hfresh t ht hupid
  · refine List.nodup_cons.mpr ⟨fun hmem => ?_, hsound.owners⟩
    obtain ⟨t, ht, hrun⟩ := List.mem_map.mp hmem
    exact hnone t ht hrun
  · exact List.forall_mem_cons.mpr ⟨hissued, hsound.issued⟩
  · intro run hrun
    refine (hsound.rows run hrun).goOn (.of_subset fun _ => List.mem_cons_of_mem _) (fun _ h => h) ?_
    -- The run that gets the task runs.
    exact fun hother hnotask => List.forall_mem_cons.mpr ⟨fun hid => hother (hrunning run hrun hid.symm), hnotask⟩

theorem Sound.insertsRun {due : Option Firing} {input : BackupRunInput} {id : RunId} (hsound : Sound w)
    (hinsert : w.InsertsRun due input id w') : Sound w' := by
  obtain ⟨hfresh, runs, hins, rfl⟩ := hinsert
  refine ⟨hsound.upids, hsound.owners, fun t ht => List.mem_cons_of_mem _ (hsound.issued t ht), fun run hrun => ?_⟩
  obtain hold | rfl := ((Table.insert?_eq_some hins).2 run).mp hrun
  · exact (hsound.rows run hold).goOn (.of_subset fun _ h => h) (fun _ => List.mem_cons_of_mem _) fun _ h => h
  · refine ⟨List.mem_cons_self, fun _ t ht hid => hfresh ?_, nofun, nofun, nofun⟩
    rw [show id = t.run from hid.symm]
    exact hsound.issued t ht

/-- **The books after a call.** -/
theorem Sound.call (hsound : Sound w) (hn : n.Holds w) (howes : NoteOwes c n) (hchange : Change w c w') : Sound w' := by
  cases hchange with
  | same => exact hsound
  | claimSchedule => exact ⟨hsound.upids, hsound.owners, hsound.issued, fun run hrun =>
      (hsound.rows run hrun).goOn (.of_subset fun _ h => h) (fun _ h => h) fun _ h => h⟩
  | claimBackupSchedule => exact ⟨hsound.upids, hsound.owners, hsound.issued, fun run hrun =>
      (hsound.rows run hrun).goOn (.of_subset fun _ h => h) (fun _ h => h) fun _ h => h⟩
  | power => exact ⟨hsound.upids, hsound.owners, hsound.issued, fun run hrun =>
      (hsound.rows run hrun).goOn (.of_subset fun _ h => h) (fun _ h => h) fun _ h => h⟩
  | insertRun hinsert => exact hsound.insertsRun hinsert
  | claimRun => exact hsound.updateRun fun run _ _ hrow => ⟨hrow.issued, nofun, hrow.stored, nofun, nofun⟩
  | @storeUpid id upid =>
      refine hsound.updateRun fun run _ hid hrow => ⟨hrow.issued, hrow.pending, ?_, hrow.ok, hrow.failed⟩
      rintro _ ⟨⟩
      have hstarted : Stage.Holds w (.started id upid) := howes ▸ hn.stage
      obtain ⟨t, ht, hupid, hrun⟩ := hstarted.1
      exact ⟨t, ht, hupid, hrun.trans hid.symm⟩
  | completeBackupRun =>
      refine hsound.updateRun fun run _ hid hrow => ⟨hrow.issued, nofun, hrow.stored, fun _ => ?_, nofun⟩
      obtain ⟨t, ht, hrun, hwell⟩ := hsound.ended hn howes
      exact ⟨t, ht, hrun.trans hid.symm, hwell⟩
  | @failBackupRun id error =>
      refine hsound.updateRun fun run _ hid hrow => ⟨hrow.issued, nofun, hrow.stored, nofun, fun _ => ?_⟩
      show (∀ t ∈ w.tasks, t.run ≠ run.id) ∨ ∃ t ∈ w.tasks, t.run = run.id ∧ t.Ended false
      rw [hid]
      obtain howning | hended := howes
      · have hclaimed : Stage.Holds w (.owning id) := howning ▸ hn.stage
        exact .inl hclaimed.2.1
      · exact .inr (hsound.ended hn hended)
  | prune hstart =>
      have howning : n.stage = .owning _ := howes
      exact hsound.startsTask (howning ▸ hn.stage) hstart
  | backup hstart =>
      have howning : n.stage = .owning _ := howes
      exact hsound.startsTask (howning ▸ hn.stage) hstart

theorem Meanwhile.map_tasks (hmeanwhile : Meanwhile w w') :
    w'.tasks.map BackupTask.upid = w.tasks.map BackupTask.upid ∧
      w'.tasks.map BackupTask.run = w.tasks.map BackupTask.run := by
  have hmap : ∀ {κ : Type} (f : BackupTask → κ), (∀ t t', t'.upid = t.upid ∧ t'.run = t.run ∧
      (t.exit ≠ none → t'.exit = t.exit) → f t = f t') → w'.tasks.map f = w.tasks.map f := by
    intro κ f hf
    have hrel : List.Forall₂ Eq (w.tasks.map f) (w'.tasks.map f) :=
      List.rel_map (fun t t' h => hf t t' h) hmeanwhile.tasks
    rw [List.forall₂_eq_eq_eq] at hrel
    exact hrel.symm
  exact ⟨hmap _ fun t t' h => h.1.symm, hmap _ fun t t' h => h.2.1.symm⟩

theorem Sound.meanwhile (hsound : Sound w) (hmeanwhile : Meanwhile w w') : Sound w' := by
  obtain ⟨hupids, hruns⟩ := hmeanwhile.map_tasks
  have hmem : ∀ t' ∈ w'.tasks, ∃ t ∈ w.tasks, t.run = t'.run := by
    intro t' ht'
    have hrun := List.mem_map_of_mem (f := BackupTask.run) ht'
    rw [hruns] at hrun
    exact List.mem_map.mp hrun
  constructor
  · rw [hupids]
    exact hsound.upids
  · rw [hruns]
    exact hsound.owners
  · intro t' ht'
    obtain ⟨t, ht, hsame⟩ := hmem t' ht'
    rw [hmeanwhile.issued, ← hsame]
    exact hsound.issued t ht
  · intro run hrun
    refine (hsound.rows run (hmeanwhile.runs.subset hrun)).goOn hmeanwhile.tasksGoOn ?_ ?_
    · rw [hmeanwhile.issued]
      exact fun _ h => h
    · intro _ hnone t' ht' hid
      obtain ⟨t, ht, hsame⟩ := hmem t' ht'
      exact hnone t ht (hsame.trans hid)

end books

/-! ## What the programs hold -/

def Call.Acts : Call → Prop
  | .pruneSnapshots _ _ _ _ => True
  | .createBackup _ _ _ _ _ => True
  | .failBackupRun _ _ => True
  | _ => False

def Undisturbed (c : Call) (w : World) (r : Except String c.Reply) (w' : World) : Prop :=
  Plausible c r ∧ ((∃ e, r = .error e) → w'.tasks = w.tasks)

section stages

variable {w w' : World} {n : Note} {stage : Stage} {c : Call} {r : Except String c.Reply} {run : BackupRun}

theorem Stage.Holds.updateRun {id : RunId} {f : BackupRun → BackupRun} {hf : ∀ run, (f run).id = run.id}
    (hstage : stage.Holds w)
    (howning : ∀ run ∈ w.runs, run.id = id → stage = .owning id → run.status = .running → (f run).status = .running)
    (hstarted : ∀ run ∈ w.runs, run.id = id → run.status ≠ .pending → (f run).status ≠ .pending) :
    stage.Holds (w.updateRun id f hf) := by
  cases stage with
  | idle => trivial
  | owning id' =>
      refine ⟨hstage.1, hstage.2.1, fun run hrun hid => ?_⟩
      obtain ⟨run₀, hrun₀, rfl⟩ := mem_updateRun.mp hrun
      by_cases hsame : run₀.id = id
      · rw [if_pos hsame] at hid ⊢
        rw [hf] at hid
        exact howning run₀ hrun₀ hsame (congrArg Stage.owning (hid.symm.trans hsame)) (hstage.2.2 run₀ hrun₀ hid)
      · rw [if_neg hsame] at hid ⊢
        exact hstage.2.2 run₀ hrun₀ hid
  | started id' upid =>
      refine ⟨hstage.1, fun run hrun hid => ?_⟩
      obtain ⟨run₀, hrun₀, rfl⟩ := mem_updateRun.mp hrun
      by_cases hsame : run₀.id = id
      · rw [if_pos hsame] at hid ⊢
        rw [hf] at hid
        exact hstarted run₀ hrun₀ hsame (hstage.2 run₀ hrun₀ hid)
      · rw [if_neg hsame] at hid ⊢
        exact hstage.2 run₀ hrun₀ hid

theorem Stage.Holds.startsTask {id : RunId} {reply : String} (hstage : stage.Holds w) (hother : stage ≠ .owning id)
    (hstart : w.StartsTask id reply w') : stage.Holds w' := by
  obtain ⟨upid, -, -, -, rfl⟩ := hstart
  cases stage with
  | idle => trivial
  | owning id' =>
      exact ⟨hstage.1, List.forall_mem_cons.mpr ⟨fun hsame => hother (congrArg Stage.owning hsame.symm), hstage.2.1⟩,
        hstage.2.2⟩
  | started id' upid' =>
      obtain ⟨t, ht, htask⟩ := hstage.1
      exact ⟨⟨t, List.mem_cons_of_mem _ ht, htask⟩, hstage.2⟩

theorem Stage.Holds.insertsRun {due : Option Firing} {input : BackupRunInput} {id : RunId} (hsound : Sound w)
    (hstage : stage.Holds w) (hinsert : w.InsertsRun due input id w') : stage.Holds w' := by
  obtain ⟨hfresh, runs, hins, rfl⟩ := hinsert
  have hrows := (Table.insert?_eq_some hins).2
  cases stage with
  | idle => trivial
  | owning id' =>
      refine ⟨List.mem_cons_of_mem _ hstage.1, hstage.2.1, fun run hrun hid => ?_⟩
      obtain hold | rfl := (hrows run).mp hrun
      · exact hstage.2.2 run hold hid
      · refine absurd hstage.1 ?_
        rw [← hid]
        exact hfresh
  | started id' upid =>
      refine ⟨hstage.1, fun run hrun hid => ?_⟩
      obtain hold | rfl := (hrows run).mp hrun
      · exact hstage.2 run hold hid
      · obtain ⟨t, ht, -, hrun⟩ := hstage.1
        refine absurd (hsound.issued t ht) ?_
        rw [hrun, ← hid]
        exact hfresh

/-- **A stage after a call**, if the call is not made for the run that it owns. -/
theorem Stage.Holds.call (hsound : Sound w) (hn : n.Holds w) (howes : NoteOwes c n) (hstage : stage.Holds w)
    (hfree : ∀ id, stage = .owning id → n.stage = .owning id → ¬ c.Acts) (hchange : Change w c w') :
    stage.Holds w' := by
  cases hchange with
  | same => exact hstage
  | claimSchedule => cases stage <;> exact hstage
  | claimBackupSchedule => cases stage <;> exact hstage
  | power => cases stage <;> exact hstage
  | insertRun hinsert => exact hstage.insertsRun hsound hinsert
  | claimRun => exact hstage.updateRun (fun _ _ _ _ _ => rfl) fun _ _ _ _ => nofun
  | storeUpid => exact hstage.updateRun (fun _ _ _ _ h => h) fun _ _ _ h => h
  | completeBackupRun =>
      refine hstage.updateRun (fun run _ _ howning _ => ?_) fun _ _ _ _ => nofun
      -- A run that is owned has no task.
      obtain ⟨t, ht, hrun, -⟩ := hsound.ended hn howes
      subst howning
      exact absurd hrun (hstage.2.1 t ht)
  | failBackupRun =>
      refine hstage.updateRun (fun run _ _ howning _ => ?_) fun _ _ _ _ => nofun
      obtain hown | hended := howes
      · exact absurd trivial (hfree _ howning hown)
      · obtain ⟨t, ht, hrun, -⟩ := hsound.ended hn hended
        subst howning
        exact absurd hrun (hstage.2.1 t ht)
  | prune hstart => exact hstage.startsTask (fun howning => hfree _ howning howes trivial) hstart
  | backup hstart => exact hstage.startsTask (fun howning => hfree _ howning howes trivial) hstart

theorem Stage.Holds.meanwhile (hstage : stage.Holds w) (hmeanwhile : Meanwhile w w') : stage.Holds w' := by
  cases stage with
  | idle => trivial
  | owning id =>
      obtain ⟨hissued, hnone, hrunning⟩ := hstage
      refine ⟨?_, fun t' ht' hid => ?_, fun run hrun => hrunning run (hmeanwhile.runs.subset hrun)⟩
      · rw [hmeanwhile.issued]
        exact hissued
      · have hrun := List.mem_map_of_mem (f := BackupTask.run) ht'
        rw [hmeanwhile.map_tasks.2] at hrun
        obtain ⟨t, ht, hsame⟩ := List.mem_map.mp hrun
        exact hnone t ht (hsame.trans hid)
  | started id upid =>
      obtain ⟨⟨t, ht, hupid, hrun⟩, hstatus⟩ := hstage
      obtain ⟨t', ht', hupid', hrun', -⟩ := hmeanwhile.tasksGoOn t ht
      exact ⟨⟨t', ht', hupid'.trans hupid, hrun'.trans hrun⟩,
        fun run hrun => hstatus run (hmeanwhile.runs.subset hrun)⟩

theorem Note.Holds.call {other : Note} (hsound : Sound w) (hn : n.Holds w) (howes : NoteOwes c n)
    (hother : other.Holds w) (hapart : ∀ id, n.stage = .owning id → other.stage ≠ .owning id)
    (hchange : Change w c w') : other.Holds w' :=
  ⟨hother.stage.call hsound hn howes (fun id hid howning => absurd hid (hapart id howning)) hchange,
    fun fact hfact => (hother.facts fact hfact).goOn (tasksGoOn_of_change hchange)⟩

theorem Note.Holds.meanwhile (hn : n.Holds w) (hmeanwhile : Meanwhile w w') : n.Holds w' :=
  ⟨hn.stage.meanwhile hmeanwhile, fun fact hfact => (hn.facts fact hfact).goOn hmeanwhile.tasksGoOn⟩

theorem facts_of_reports {upid : String} {st : TaskStatus} (hreports : w.Reports upid st) :
    ∀ fact ∈ endedFacts upid st, fact.Holds w := by
  intro fact hfact
  obtain ⟨v, hv, rfl⟩ := Option.map_eq_some_iff.mp (Option.mem_toList.mp hfact)
  unfold verdict at hv
  split at hv
  · next hstopped =>
      cases hv
      obtain ⟨t, ht, hupid, hstate⟩ := hreports
      cases hexit : t.exit with
      | none =>
          rw [hexit] at hstate
          exact absurd hstopped hstate
      | some e =>
          rw [hexit] at hstate
          refine ⟨t, ht, hupid, e, hexit, ?_⟩
          rw [hstate.2]
  · cases hv

theorem facts_of_rows (hsound : Sound w) {rows : List BackupRun} (hrows : ∀ run ∈ rows, run ∈ w.runs) :
    ∀ fact ∈ rows.filterMap taskFact, fact.Holds w := by
  intro fact hfact
  obtain ⟨run, hrun, hfact⟩ := List.mem_filterMap.mp hfact
  obtain ⟨upid, hupid, rfl⟩ := Option.map_eq_some_iff.mp hfact
  exact (hsound.rows run (hrows run hrun)).stored upid hupid

theorem Note.Holds.kept (hsound : Sound w) (hn : n.Holds w) (howes : NoteOwes c n) (hacts : ¬ c.Acts)
    (hchange : Change w c w') : n.Holds w' :=
  ⟨hn.stage.call hsound hn howes (fun _ _ _ => hacts) hchange,
    fun fact hfact => (hn.facts fact hfact).goOn (tasksGoOn_of_change hchange)⟩

theorem Note.Holds.started {id : RunId} {reply : String} (hn : n.Holds w) (howning : n.stage = .owning id)
    (hreply : reply ≠ "") (hstart : w.StartsTask id reply w') :
    Note.Holds w' { n with stage := .started id reply } := by
  have hclaimed : Stage.Holds w (.owning id) := howning ▸ hn.stage
  obtain ⟨upid, -, -, hsame, rfl⟩ := hstart
  obtain rfl : reply = upid := hsame.resolve_right hreply
  refine ⟨⟨⟨_, List.mem_cons_self, rfl, rfl⟩, fun run hrun hid => ?_⟩, fun fact hfact => ?_⟩
  · rw [hclaimed.2.2 run hrun hid]
    exact nofun
  · exact (hn.facts fact hfact).goOn (.of_subset fun _ => List.mem_cons_of_mem _)

theorem Note.Holds.notStarted {id : RunId} (hn : n.Holds w) (htasks : w'.tasks = w.tasks)
    (hserve : w' = w ∨ ∃ reply, w.StartsTask id reply w') : n.Holds w' := by
  obtain rfl | ⟨reply, upid, -, -, -, rfl⟩ := hserve
  · exact hn
  · exact absurd (congrArg List.length htasks) (Nat.succ_ne_self _)

/-- **The note of the program that makes a call.** -/
theorem Note.Holds.next (hsound : Sound w) (hn : n.Holds w) (howes : NoteOwes c n) (hserve : Serves c w r w')
    (hundisturbed : Undisturbed c w r w') : (nextNote c r n).Holds w' := by
  have hchange := change_of_serves hserve
  cases c with
  | claimPendingBackupRun id =>
      have hkept : n.Holds w' := hn.kept hsound howes nofun hchange
      match r with
      | .error e => exact hkept
      | .ok none => exact hkept
      | .ok (some run) =>
          have hclaim : (some run, w') = w.claimPendingBackupRun id := hserve
          obtain hnone | ⟨run₀, hrun₀, hid, hpending, hsome⟩ := claimPendingBackupRun_cases w id
          · cases hclaim.trans hnone
          · cases hclaim.trans hsome
            refine ⟨⟨(hsound.rows run₀ hrun₀).issued, (hsound.rows run₀ hrun₀).pending hpending, ?_⟩, hkept.facts⟩
            intro run hrun hsame
            obtain ⟨run₁, hrun₁, rfl⟩ := mem_updateRun.mp hrun
            by_cases hid₁ : run₁.id = id
            · rw [if_pos hid₁]
            · rw [if_neg hid₁] at hsame
              exact absurd (hsame.trans hid) hid₁
  | pruneSnapshots id datastore backupId keepLast =>
      cases r with
      | ok upid => exact hn.started howes hundisturbed.1 hserve
      | error e => exact hn.notStarted (hundisturbed.2 ⟨e, rfl⟩) hserve
  | createBackup id node vmid storage mode =>
      cases r with
      | ok upid => exact hn.started howes hundisturbed.1 hserve
      | error e => exact hn.notStarted (hundisturbed.2 ⟨e, rfl⟩) hserve
  | storeUpid id upid => exact ⟨trivial, (hn.kept hsound howes nofun hchange).facts⟩
  | failBackupRun id error =>
      exact ⟨trivial, fun fact hfact => (hn.facts fact hfact).goOn (tasksGoOn_of_change hchange)⟩
  | selectRunning =>
      cases r with
      | error e => exact hn.kept hsound howes nofun hchange
      | ok rows =>
          obtain ⟨⟨-, hrows⟩, rfl⟩ := hserve
          exact ⟨hn.stage, List.forall_mem_append.mpr
            ⟨facts_of_rows hsound fun run hrun => (hrows run hrun).1, hn.facts⟩⟩
  | pbsTaskStatus upid =>
      cases r with
      | error e => exact hn.kept hsound howes nofun hchange
      | ok st =>
          obtain ⟨hreports, rfl⟩ := hserve
          exact ⟨hn.stage, List.forall_mem_append.mpr ⟨facts_of_reports hreports, hn.facts⟩⟩
  | taskStatus node upid =>
      cases r with
      | error e => exact hn.kept hsound howes nofun hchange
      | ok st =>
          obtain ⟨hreports, rfl⟩ := hserve
          exact ⟨hn.stage, List.forall_mem_append.mpr ⟨facts_of_reports hreports, hn.facts⟩⟩
  | _ => exact hn.kept hsound howes nofun hchange

theorem apart_nextNote {other : Note} (hother : other.Holds w)
    (hapart : ∀ id, n.stage = .owning id → other.stage ≠ .owning id) (hserve : Serves c w r w') :
    ∀ id, (nextNote c r n).stage = .owning id → other.stage ≠ .owning id := by
  intro id hid howning
  have hown : Stage.Holds w (.owning id) := howning ▸ hother.stage
  cases c with
  | claimPendingBackupRun id' =>
      match r with
      | .error e => exact hapart id hid howning
      | .ok none => exact hapart id hid howning
      | .ok (some run) =>
          have hclaim : (some run, w') = w.claimPendingBackupRun id' := hserve
          obtain hnone | ⟨run₀, hrun₀, hid₀, hpending, hsome⟩ := claimPendingBackupRun_cases w id'
          · cases hclaim.trans hnone
          · cases hclaim.trans hsome
            -- A run that waits is not one that another program owns.
            have hrunning := hown.2.2 run₀ hrun₀ (Stage.owning.inj hid)
            rw [hpending] at hrunning
            cases hrunning
  | pruneSnapshots _ _ _ _ =>
      cases r with
      | ok upid => cases hid
      | error e => exact hapart id hid howning
  | createBackup _ _ _ _ _ =>
      cases r with
      | ok upid => cases hid
      | error e => exact hapart id hid howning
  | storeUpid _ _ => cases hid
  | failBackupRun _ _ => cases hid
  | selectRunning =>
      cases r with
      | ok rows => exact hapart id hid howning
      | error e => exact hapart id hid howning
  | pbsTaskStatus _ =>
      cases r with
      | ok st => exact hapart id hid howning
      | error e => exact hapart id hid howning
  | taskStatus _ _ =>
      cases r with
      | ok st => exact hapart id hid howning
      | error e => exact hapart id hid howning
  | _ => exact hapart id hid howning

end stages

/-! ## Runs -/

section runs

variable {loc : Locale} {w w' : World} {n : Note} {c : Call} {r : Except String c.Reply} {id : RunId}
  {status : BackupStatus}

abbrev undisturbedRules (loc : Locale) : Rules calls String World Role.Result :=
  tickerRules loc (fun _ _ _ => True) Undisturbed

def Knower (w : World) (n : Note) (t : TickerThread) : Prop :=
  tracking.holds t.prog (fun _ _ => True) n ∧ n.Holds w

def Disowned (n n' : Note) : Prop := ∀ id, n.stage = .owning id → n'.stage ≠ .owning id

structure KeptStatus (P : TickerPool) : Prop where
  held : Held Knower Disowned P
  sound : Sound P.state

variable {P P' : TickerPool}

theorem KeptStatus.owes (hkept : KeptStatus P) {role : Role} {c : Call}
    {next : Except String c.Reply → Task role.Result} (hmem : ⟨role, .call c next⟩ ∈ P.threads) :
    ∃ n : Note, NoteOwes c n ∧ n.Holds P.state := by
  obtain ⟨n, hholds, hn⟩ := hkept.held.of_mem hmem
  exact ⟨n, (holds_aloneOwing_call.mp hholds).1, hn⟩

theorem KeptStatus.step {P P' : TickerPool} (hkept : KeptStatus P) (hstep : PoolStep (undisturbedRules loc) P P') :
    KeptStatus P' := by
  constructor
  · refine held_of_poolStep (I := Sound) hkept.sound ?_ ?_ ?_ ?_ hkept.held hstep
    · exact fun n n' happart id hid hid' => happart id hid' hid
    · rintro before after role c next w r w' n hsound - ⟨hserve, hundisturbed⟩ ⟨hholds, hn⟩
      obtain ⟨howes, hnext⟩ := holds_aloneOwing_call.mp hholds
      refine ⟨nextNote c r n, ⟨hnext r _ ⟨hundisturbed.1, rfl⟩, hn.next hsound howes hserve hundisturbed⟩, ?_⟩
      intro other t happart hother
      exact ⟨⟨hother.1, hn.call hsound howes hother.2 happart (change_of_serves hserve)⟩,
        apart_nextNote hother.2 happart hserve⟩
    · rintro role result w w' successor n ⟨rfl, rfl⟩ hknower
      exact ⟨fun _ _ _ hother => hother, fun t ht => nomatch ht⟩
    · rintro w w' newcomer ⟨hmeanwhile, hnewcomer⟩
      refine ⟨fun n t hknower => ⟨hknower.1, hknower.2.meanwhile hmeanwhile⟩, fun t ht => ?_⟩
      obtain ⟨role, rfl⟩ := hnewcomer t ht
      refine ⟨⟨.idle, []⟩, ⟨tracks_prog loc role _, trivial, fun fact hfact => absurd hfact List.not_mem_nil⟩, ?_⟩
      exact fun n id hid => nomatch hid
  · cases hstep with
    | @call before after role c next w w' r hadmits hserve =>
        obtain ⟨n, howes, hn⟩ := hkept.owes (List.mem_append_right before List.mem_cons_self)
        exact hkept.sound.call hn howes (change_of_serves hserve.1)
    | ends hends =>
        obtain ⟨-, rfl⟩ := hends
        exact hkept.sound
    | turn hturn => exact hkept.sound.meanwhile hturn.1

/-! ## Finality -/

def Settled (w : World) (id : RunId) (status : BackupStatus) : Prop :=
  id ∈ w.issued ∧ ∀ run ∈ w.runs, run.id = id → run.status = status

theorem Settled.updateRun {id' : RunId} {f : BackupRun → BackupRun} {hf : ∀ run, (f run).id = run.id}
    (hsettled : Settled w id status)
    (hsame : ∀ run ∈ w.runs, run.id = id' → run.status = status → id' = id → (f run).status = status) :
    Settled (w.updateRun id' f hf) id status := by
  refine ⟨hsettled.1, fun run hrun hid => ?_⟩
  obtain ⟨run₀, hrun₀, rfl⟩ := mem_updateRun.mp hrun
  by_cases hupdated : run₀.id = id'
  · rw [if_pos hupdated] at hid ⊢
    rw [hf] at hid
    exact hsame run₀ hrun₀ hupdated (hsettled.2 run₀ hrun₀ hid) (hupdated.symm.trans hid)
  · rw [if_neg hupdated] at hid ⊢
    exact hsettled.2 run₀ hrun₀ hid

/-- **A run that is OK or FAILED is left so by every call.** -/
theorem Settled.call (hsound : Sound w) (hn : n.Holds w) (howes : NoteOwes c n)
    (hstatus : status = .ok ∨ status = .failed) (hsettled : Settled w id status) (hchange : Change w c w') :
    Settled w' id status := by
  cases hchange with
  | insertRun hinsert =>
      obtain ⟨hfresh, runs, hins, rfl⟩ := hinsert
      refine ⟨List.mem_cons_of_mem _ hsettled.1, fun run hrun hid => ?_⟩
      obtain hold | rfl := ((Table.insert?_eq_some hins).2 run).mp hrun
      · exact hsettled.2 run hold hid
      · refine absurd hsettled.1 ?_
        rw [← hid]
        exact hfresh
  | claimRun hrun hid hpending =>
      refine hsettled.updateRun fun run hrun' hid' hsame _ => ?_
      rw [Table.eq_of_key_eq hrun' hrun (hid'.trans hid.symm), hpending] at hsame
      obtain rfl | rfl := hstatus
      · cases hsame
      · cases hsame
  | storeUpid => exact hsettled.updateRun fun run _ _ hsame _ => hsame
  | completeBackupRun =>
      refine hsettled.updateRun fun run hrun hid hsame _ => ?_
      obtain ⟨t, ht, htask, hwell⟩ := hsound.ended hn howes
      obtain rfl | rfl := hstatus
      · rfl
      · -- A run that is FAILED has no task that has ended well.
        obtain hnone | ⟨t', ht', htask', hbad⟩ := (hsound.rows run hrun).failed hsame
        · exact absurd (htask.trans hid.symm) (hnone t ht)
        · obtain rfl := hsound.eq_of_run ht' ht (htask'.trans (hid.trans htask.symm))
          cases hwell.unique hbad
  | failBackupRun =>
      refine hsettled.updateRun fun run hrun hid hsame _ => ?_
      obtain rfl | rfl := hstatus
      · -- A run that is OK has a task that has ended well.
        obtain ⟨t, ht, htask, hwell⟩ := (hsound.rows run hrun).ok hsame
        obtain howning | hended := howes
        · have hclaimed : Stage.Holds w (.owning _) := howning ▸ hn.stage
          exact absurd (htask.trans hid) (hclaimed.2.1 t ht)
        · obtain ⟨t', ht', htask', hbad⟩ := hsound.ended hn hended
          obtain rfl := hsound.eq_of_run ht' ht (htask'.trans (hid.symm.trans htask.symm))
          cases hwell.unique hbad
      · rfl
  | prune hstart =>
      obtain ⟨upid, -, -, -, rfl⟩ := hstart
      exact hsettled
  | backup hstart =>
      obtain ⟨upid, -, -, -, rfl⟩ := hstart
      exact hsettled
  | _ => exact hsettled

theorem settled_step (hstatus : status = .ok ∨ status = .failed) (hkept : KeptStatus P)
    (hsettled : Settled P.state id status) (hstep : PoolStep (undisturbedRules loc) P P') :
    Settled P'.state id status := by
  cases hstep with
  | @call before after role c next w w' r hadmits hserve =>
      obtain ⟨n, howes, hn⟩ := hkept.owes (List.mem_append_right before List.mem_cons_self)
      exact hsettled.call hkept.sound hn howes hstatus (change_of_serves hserve.1)
  | ends hends =>
      obtain ⟨-, rfl⟩ := hends
      exact hsettled
  | turn hturn =>
      refine ⟨?_, fun run hrun => hsettled.2 run (hturn.1.runs.subset hrun)⟩
      rw [hturn.1.issued]
      exact hsettled.1

theorem KeptStatus.run (hkept : KeptStatus P) (hrun : PoolRun (undisturbedRules loc) P P') :
    KeptStatus P' := by
  induction hrun with
  | refl => exact hkept
  | tail _ hstep ih => exact ih.step hstep

theorem KeptStatus.final (hkept : KeptStatus P) (hrun : PoolRun (undisturbedRules loc) P P') :
    Final P.state P'.state := by
  intro run hmem hstatus
  have hstart : Settled P.state run.id run.status := by
    refine ⟨(hkept.sound.rows run hmem).issued, fun run' hrun' hid => ?_⟩
    rw [Table.eq_of_key_eq hrun' hmem hid]
  have hsettled : Settled P'.state run.id run.status := by
    induction hrun with
    | refl => exact hstart
    | tail hbefore hstep ih => exact settled_step hstatus (hkept.run hbefore) ih hstep
  exact hsettled.2

end runs

/-- **Truthful and final.**  In every run of passes and requests with undisturbed replies, a run is OK only if
its task has ended well, FAILED only if it has no task or its task has ended badly, and remains so. -/
theorem truthful_of_run (loc : Locale) (w : World) (hruns : w.runs.rows = []) (htasks : w.tasks = []) (P : TickerPool)
    (hrun : PoolRun (tickerRules loc (fun _ _ _ => True) Undisturbed) ⟨w, []⟩ P) : Truthful P.state ∧
      ∀ P', PoolRun (tickerRules loc (fun _ _ _ => True) Undisturbed) P P' → Final P.state P'.state := by
  have hsound : Sound w := by
    refine ⟨?_, ?_, ?_, fun run hmem => ?_⟩
    · rw [htasks]
      exact List.nodup_nil
    · rw [htasks]
      exact List.nodup_nil
    · rw [htasks]
      exact fun t ht => absurd ht List.not_mem_nil
    · have hmem' : run ∈ w.runs.rows := hmem
      rw [hruns] at hmem'
      exact absurd hmem' List.not_mem_nil
  have hstart : KeptStatus ⟨w, []⟩ := ⟨⟨[], rfl, fun p hp => absurd hp List.not_mem_nil, .nil⟩, hsound⟩
  have hkept := hstart.run hrun
  exact ⟨hkept.sound.truthful, fun P' hlater => hkept.final hlater⟩

/-! ## Samples -/

def finalityStart : World where
  now := 0
  schedules := Table.empty
  backupSchedules := Table.empty
  runs := Table.empty
  issued := []
  tasks := []
  claimed := []
  fired := []

abbrev backupRequest : Role := .createBackupRun ⟨30, none, none, none, some "pbs-store", none, none, some 1⟩

abbrev backupTick : Role := .runSchedules 0 0

def stillLocale : Locale := ⟨fun _ => ⟨2026, 1, 1, 0, 0⟩, fun _ => 0, fun _ => none⟩

def plainAnswer : (c : Call) → World → Option (Except String c.Reply × World)
  | .selectRunning, w =>
      if w.runs.rows.all fun run => decide (run.status = .running → run.upid.getD "" ≠ "") then
        sampleAnswer .selectRunning w
      else none
  | c, w => sampleAnswer c w

theorem tasks_of_answered {α : Type} {reply : α} {w w' : World} :
    (∃ e, (Except.ok reply : Except String α) = .error e) → w'.tasks = w.tasks := by
  rintro ⟨e, he⟩
  cases he

theorem plainAnswer_spec (c : Call) (w : World) (r : Except String c.Reply) (w' : World)
    (hanswer : plainAnswer c w = some (r, w')) : Serves c w r w' ∧ Undisturbed c w r w' := by
  cases c with
  | selectRunning =>
      simp only [plainAnswer] at hanswer
      split at hanswer
      · next hstored =>
          refine ⟨serves_sampleAnswer _ w r w' hanswer, ?_⟩
          cases hanswer
          refine ⟨fun run hrun => ?_, tasks_of_answered⟩
          obtain ⟨hmem, hrunning⟩ := List.mem_filter.mp (List.mem_of_mem_take hrun)
          exact of_decide_eq_true (List.all_eq_true.mp hstored run hmem) (of_decide_eq_true hrunning)
      · cases hanswer
  | insertRun due input =>
      refine ⟨serves_sampleAnswer _ w r w' hanswer, ?_⟩
      simp only [plainAnswer, sampleAnswer] at hanswer
      split at hanswer
      · cases hanswer
      · obtain ⟨runs, -, heq⟩ := Option.map_eq_some_iff.mp hanswer
        cases heq
        exact ⟨trivial, tasks_of_answered⟩
  | pruneSnapshots run _ _ _ =>
      refine ⟨serves_sampleAnswer _ w r w' hanswer, ?_⟩
      obtain ⟨upid, rfl, hne, -⟩ := startsTask_startSample hanswer
      exact ⟨hne, tasks_of_answered⟩
  | createBackup run _ _ _ _ =>
      refine ⟨serves_sampleAnswer _ w r w' hanswer, ?_⟩
      obtain ⟨upid, rfl, hne, -⟩ := startsTask_startSample hanswer
      exact ⟨hne, tasks_of_answered⟩
  | pbsTaskStatus upid =>
      refine ⟨serves_sampleAnswer _ w r w' hanswer, ?_⟩
      obtain ⟨st, rfl, -⟩ := reports_find hanswer
      exact ⟨trivial, tasks_of_answered⟩
  | taskStatus node upid =>
      refine ⟨serves_sampleAnswer _ w r w' hanswer, ?_⟩
      obtain ⟨st, rfl, -⟩ := reports_find hanswer
      exact ⟨trivial, tasks_of_answered⟩
  | requireVm phase vmId =>
      refine ⟨serves_sampleAnswer _ w r w' hanswer, ?_⟩
      cases hanswer
      exact ⟨by cases phase <;> trivial, tasks_of_answered⟩
  | getProxmoxClient phase =>
      refine ⟨serves_sampleAnswer _ w r w' hanswer, ?_⟩
      cases hanswer
      exact ⟨by cases phase <;> trivial, tasks_of_answered⟩
  | getPbsClient phase =>
      refine ⟨serves_sampleAnswer _ w r w' hanswer, ?_⟩
      cases hanswer
      exact ⟨by cases phase <;> trivial, tasks_of_answered⟩
  | _ =>
      refine ⟨serves_sampleAnswer _ w r w' hanswer, ?_⟩
      cases hanswer
      exact ⟨trivial, tasks_of_answered⟩

theorem run_alone {u : (c : Call) → World → Except String c.Reply → World → Prop}
    {answer : (c : Call) → World → Option (Except String c.Reply × World)}
    (hserve : ∀ c w r w', answer c w = some (r, w') → Serves c w r w' ∧ u c w r w') (n : Nat) (role : Role)
    {x : Except String role.Result} (w : World)
    (hresult : (drive answer n (role.prog stillLocale, w)).1.result? = some x) :
    PoolRun (tickerRules stillLocale (fun _ _ _ => True) u) ⟨w, []⟩
      ⟨(drive answer n (role.prog stillLocale, w)).2, []⟩ := by
  refine .head (role_arrives stillLocale _ _ role w []) ?_
  exact @poolRun_to_end _ _ _ _ _ (tickerRules stillLocale (fun _ _ _ => True) u) answer
    (fun _ _ _ => trivial) hserve n role (role.prog stillLocale) w [] x none _ hresult ⟨rfl, rfl⟩

def startedBackup : World :=
  (drive plainAnswer 30 (backupTick.prog stillLocale,
    (drive plainAnswer 3 (backupRequest.prog stillLocale, finalityStart)).2)).2

def endedBackup : World :=
  { startedBackup with tasks := startedBackup.tasks.map fun t => { t with exit := some (some "OK") } }

def finishedBackup : World := (drive plainAnswer 30 (backupTick.prog stillLocale, endedBackup)).2

theorem truthful_of_run_sample : finishedBackup.runs.rows.map BackupRun.status = [.ok] ∧ Truthful finishedBackup := by
  refine ⟨by decide +kernel, ?_⟩
  have hrequest := run_alone (u := Undisturbed) plainAnswer_spec 3 backupRequest
    (x := .ok (World.newRun 1 ⟨30, none, none, none, some "pbs-store", none, none, some 1⟩)) finalityStart rfl
  have htick := run_alone (u := Undisturbed) plainAnswer_spec 30 backupTick (x := .ok ())
    (drive plainAnswer 3 (backupRequest.prog stillLocale, finalityStart)).2 rfl
  have hends : Meanwhile startedBackup endedBackup := by
    refine ⟨Int.le_refl _, fun s hs => .inl ⟨s, hs, rfl⟩, fun s hs => .inl ⟨s, hs, rfl⟩, .refl _, rfl, ?_, rfl, rfl⟩
    have hstarted : startedBackup.tasks = [⟨"UPID:", 1, none⟩] := by decide +kernel
    have hended : endedBackup.tasks = [⟨"UPID:", 1, some (some "OK")⟩] := by decide +kernel
    rw [hstarted, hended]
    exact .cons ⟨rfl, rfl, fun h => absurd rfl h⟩ .nil
  have hlast := run_alone (u := Undisturbed) plainAnswer_spec 30 backupTick (x := .ok ()) endedBackup rfl
  have hturn : PoolStep (tickerRules stillLocale (fun _ _ _ => True) Undisturbed) ⟨startedBackup, []⟩ ⟨endedBackup, []⟩ :=
    @PoolStep.turn _ _ _ _ _ (tickerRules stillLocale (fun _ _ _ => True) Undisturbed) [] _ _ none
      ⟨hends, fun t ht => nomatch ht⟩
  exact (truthful_of_run stillLocale finalityStart rfl rfl _
    (((hrequest.trans htick).tail hturn).trans hlast)).1

def flakyAnswer : (c : Call) → World → Option (Except String c.Reply × World)
  | .taskStatus _ _, w => some (.error "connect ETIMEDOUT", w)
  | c, w => sampleAnswer c w

theorem flakyAnswer_spec (c : Call) (w : World) (r : Except String c.Reply) (w' : World)
    (hanswer : flakyAnswer c w = some (r, w')) : Serves c w r w' ∧ True := by
  refine ⟨?_, trivial⟩
  cases c with
  | taskStatus node upid =>
      cases hanswer
      exact .inl rfl
  | _ => exact serves_sampleAnswer _ w r w' hanswer

def failedBackup : World :=
  (drive flakyAnswer 30 (backupTick.prog stillLocale,
    (drive flakyAnswer 3 (backupRequest.prog stillLocale, finalityStart)).2)).2

/-- The run is FAILED while its task goes on. -/
theorem poll_failure_is_final : ¬ ∀ (loc : Locale) (w : World), w.runs.rows = [] → w.tasks = [] → ∀ P,
    PoolRun (tickerRules loc (fun _ _ _ => True) fun _ _ _ _ => True) ⟨w, []⟩ P →
      Truthful P.state ∧ ∀ P', PoolRun (tickerRules loc (fun _ _ _ => True) fun _ _ _ _ => True) P P' →
        Final P.state P'.state := by
  intro hlaw
  have hrequest := run_alone (u := fun _ _ _ _ => True) flakyAnswer_spec 3 backupRequest
    (x := .ok (World.newRun 1 ⟨30, none, none, none, some "pbs-store", none, none, some 1⟩)) finalityStart rfl
  have htick := run_alone (u := fun _ _ _ _ => True) flakyAnswer_spec 30 backupTick (x := .ok ())
    (drive flakyAnswer 3 (backupRequest.prog stillLocale, finalityStart)).2 rfl
  obtain ⟨htruthful, -⟩ := hlaw stillLocale finalityStart rfl rfl _ (hrequest.trans htick)
  have hruns : ∃ run ∈ failedBackup.runs, run.status = .failed ∧ ∃ t ∈ failedBackup.tasks, t.run = run.id := by
    decide +kernel
  have htasks : ∀ t ∈ failedBackup.tasks, t.exit = none := by decide +kernel
  obtain ⟨run, hrun, hfailed, t, ht, htask⟩ := hruns
  obtain hnone | ⟨t', ht', -, e, he, -⟩ := (htruthful run hrun).2 hfailed
  · exact hnone t ht htask
  · rw [htasks t' ht'] at he
    cases he

end ProxVM.Ticker
