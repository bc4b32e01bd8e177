import ProxVM.Drift.Footprint
import ProxVM.Drift.Reopening
import ProxVM.Drift.Verification
import ProxVM.Routes.Vms

/-!
# Which deletions a pass reports

A pass reads the cluster first and the records second.  A guest that comes into being
together with its record in between is missing in the first and present in the second.
-/

namespace ProxVM

open Tables Interaction

def IsRecorded (w : DriftWorld) (vm : VmRow) : Prop := vm ∈ w.base.db.vms ∧ vm.deletedAt = none

def ListsAll (raw : List ProxmoxQemuResource) (w : DriftWorld) : Prop :=
  ∀ g ∈ w.base.guests, hasVmid (allQemuResources raw) g.vmid = true

def IsMissing (w : DriftWorld) (v : VmId) : Prop :=
  ∃ vm, IsRecorded w vm ∧ vm.id = v ∧ ∀ g ∈ w.base.guests, g.vmid ≠ vm.vmid

def WasKnown (raw : List ProxmoxQemuResource) (w : DriftWorld) (vm : VmRow) : Prop :=
  (∃ old, IsRecorded w old ∧ old.id = vm.id ∧ old.vmid = vm.vmid) ∨
    hasVmid (allQemuResources raw) vm.vmid = true

variable {raw : List ProxmoxQemuResource} {vm : VmRow} {c : DriftCall}

theorem WasKnown.missing {w : DriftWorld} (h : WasKnown raw w vm) (hall : ListsAll raw w)
    (habsent : hasVmid (allQemuResources raw) vm.vmid = false) : IsMissing w vm.id := by
  obtain ⟨old, hold, hid, hvmid⟩ | hlisted := h
  · refine ⟨old, hold, hid, fun g hg heq => ?_⟩
    have hlisted := hall g hg
    rw [heq, hvmid, habsent] at hlisted
    cases hlisted
  · rw [habsent] at hlisted
    cases hlisted

theorem WasKnown.trans {w₁ w₂ : DriftWorld}
    (h : WasKnown raw w₂ vm) (hbefore : ∀ old, IsRecorded w₂ old → WasKnown raw w₁ old) :
    WasKnown raw w₁ vm := by
  obtain ⟨old, hold, hid, hvmid⟩ | hlisted := h
  · obtain ⟨older, holder, hid', hvmid'⟩ | hlisted := hbefore old hold
    · exact .inl ⟨older, holder, hid'.trans hid, hvmid'.trans hvmid⟩
    · exact .inr (hvmid ▸ hlisted)
  · exact .inr hlisted

/-! ## The calls -/

theorem served_clusterResources {w w' : DriftWorld} {r : Except Failure (List ProxmoxQemuResource)}
    (hserved : DriftServed .clusterResources w r w') : w' = w := by
  obtain ⟨e, -, rfl⟩ | ⟨given, hanswer⟩ := hserved.cases rfl
  · rfl
  · cases hanswer
    rfl

def DriftCall.sparesVms : DriftCall → Bool
  | .base c => !c.writesVms
  | .vmsUpdateName _ _ => false
  | .vmsUpdateNode _ _ => false
  | _ => true

theorem DriftServed.vms {w w' : DriftWorld} {r : Except Failure c.Reply}
    (hserved : DriftServed c w r w') (hc : c.sparesVms = true) : w'.base.db.vms = w.base.db.vms := by
  cases hwrites : c.writesBase with
  | false => rw [hserved.frame.base hwrites]
  | true =>
      cases c with
      | base b => exact hserved.base.1.frame.vms (by simpa [DriftCall.sparesVms] using hc)
      | vmsDeleteDirectAccess id =>
          obtain ⟨e, -, rfl⟩ | ⟨given, hanswer⟩ := hserved.cases rfl
          · rfl
          · cases hanswer
            rfl
      | vmsDeleteGroupAccess id =>
          obtain ⟨e, -, rfl⟩ | ⟨given, hanswer⟩ := hserved.cases rfl
          · rfl
          · cases hanswer
            rfl
      | vmsUpdateName id name => cases hc
      | vmsUpdateNode id node => cases hc
      | _ => cases hwrites

/-! ## A pass leaves the records alone -/

abbrev Sparing (c : DriftCall) : Prop := c.sparesVms = true

theorem PassCall.sparing (hc : PassCall c) : Sparing c := by
  obtain hframe | ⟨vm, hcheck⟩ := hc
  · cases c with
    | base b => cases b <;> first | rfl | exact hframe.elim
    | _ => first | rfl | exact hframe.elim
  · cases c with
    | base b => cases b <;> first | rfl | exact hcheck.elim
    | _ => first | rfl | exact hcheck.elim

theorem sparing_runDriftPass (now : Time) : Only Sparing (runDriftPass now) :=
  (only_runDriftPass now).mono fun _ hc => hc.sparing

theorem sparing_of_run {w : DriftWorld} {s : DriftSystem} (hrun : DriftRun (.idle w) s) {next : Except Failure c.Reply → DriftTask DriftPassResult}
    (hpass : s.pass = some (.call c next)) : c.sparesVms = true := by
  have hspares : ∀ now, (aloneOwing record fun c _ => Sparing c).holds (runDriftPass now)
      (fun _ _ => True) [] := fun now =>
    Context.holds_of_only (I := fun _ => True) (fun _ _ _ _ => trivial) (fun _ _ hc _ => hc)
      (fun _ _ _ _ _ _ _ => trivial) (sparing_runDriftPass now) trivial
  exact (holds_aloneOwing_call.mp (owes_of_run hspares hrun hpass)).1

/-! ## Runs -/

def DriftCall.emitted? : DriftCall → Option Detected
  | .insertFinding _ d => some d
  | .refreshFinding d _ => some d
  | _ => none

def DriftWorld.sampleCloning : DriftWorld :=
  { DriftWorld.sample with
    base := { DriftWorld.sample.base with guests := [⟨500, "pve1", "UPID:web"⟩] } }

namespace DriftSystem

/-- A step by which the others add no record between the first two reads of the pass, unless
its guest is in the listing. -/
def SteadyStep (s s' : DriftSystem) : Prop :=
  DriftStep s s' ∧ (s.pass.isSome = true → s'.log = s.log →
    ∀ raw, listing s.log = some raw → records s.log = none →
      ∀ vm, IsRecorded s'.world vm → WasKnown raw s.world vm)

def CompleteListing (s : DriftSystem) : Prop :=
  ∀ raw w, (⟨.clusterResources, .ok raw⟩, w) ∈ s.log.zip s.scenes → ListsAll raw w

def Emits (s : DriftSystem) (d : Detected) : Prop :=
  (∃ id next, s.pass = some (.call (.insertFinding id d) next)) ∨
    ∃ now next, s.pass = some (.call (.refreshFinding d now) next)

def Known (s : DriftSystem) (vm : VmRow) : Prop :=
  match records s.log with
  | some recorded => vm ∈ recorded
  | none => IsRecorded s.world vm

structure Recalls (s : DriftSystem) : Prop where
  now : s.world ∈ s.moments
  known : ∀ raw, listing s.log = some raw → ∃ w ∈ s.moments,
    (⟨.clusterResources, .ok raw⟩, w) ∈ s.log.zip s.scenes ∧ ∀ vm, s.Known vm → WasKnown raw w vm

variable {w : DriftWorld} {s : DriftSystem}

theorem run_of_steady (hrun : Relation.ReflTransGen SteadyStep (.idle w) s) : DriftRun (.idle w) s :=
  Relation.ReflTransGen.mono (fun _ _ h => h.1) _ _ hrun

theorem Recalls.move {s' : DriftSystem} (h : s.Recalls) (hlog : s'.log = s.log)
    (hscenes : s'.scenes = s.scenes) (hmoments : s'.moments = s'.world :: s.moments)
    (hsteady : ∀ raw, listing s.log = some raw → records s.log = none →
      ∀ vm, IsRecorded s'.world vm → WasKnown raw s.world vm) : s'.Recalls := by
  refine ⟨by rw [hmoments]; exact List.mem_cons_self, fun raw hraw => ?_⟩
  rw [hlog] at hraw
  obtain ⟨w₁, hw₁, hentry, hknown⟩ := h.known raw hraw
  refine ⟨w₁, by rw [hmoments]; exact List.mem_cons_of_mem _ hw₁, by rwa [hlog, hscenes], ?_⟩
  intro vm hvm
  unfold Known at hvm hknown
  rw [hlog] at hvm
  cases hrecords : records s.log with
  | some recorded =>
      rw [hrecords] at hvm hknown
      exact hknown vm hvm
  | none =>
      rw [hrecords] at hvm hknown
      exact (hsteady raw hraw hrecords vm hvm).trans hknown

theorem Recalls.observe {c : DriftCall} {r : Except Failure c.Reply} {w' : DriftWorld}
    {p : DriftTask DriftPassResult} (h : s.Recalls) (hserved : DriftServed c s.world r w')
    (howes : PassOwes c s.log) (hled : Led s.log)
    (hsteady : ∀ raw, listing s.log = some raw → records s.log = none →
      ∀ vm, IsRecorded w' vm → WasKnown raw s.world vm) : Recalls { s with
      world := w', pass := some p, log := ⟨c, r⟩ :: s.log, scenes := s.world :: s.scenes
      moments := w' :: s.moments } := by
  refine ⟨List.mem_cons_self, fun raw hraw => ?_⟩
  by_cases hcluster : c = .clusterResources
  · subst hcluster
    have hunread : listing s.log = none := howes
    have hrecords : records s.log = none := records_of_preliminary (hled.preliminary hunread)
    cases r with
    | error e => cases hunread.symm.trans hraw
    | ok given =>
        cases hraw
        refine ⟨s.world, List.mem_cons_of_mem _ h.now, List.mem_cons_self, fun vm hvm => ?_⟩
        have hsame : records (⟨.clusterResources, .ok raw⟩ :: s.log) = none := hrecords
        unfold Known at hvm
        rw [hsame, served_clusterResources hserved] at hvm
        exact .inl ⟨vm, hvm, rfl, rfl⟩
  · have hlisting : listing (⟨c, r⟩ :: s.log) = listing s.log := by
      cases c <;> first | rfl | exact absurd rfl hcluster
    rw [hlisting] at hraw
    obtain ⟨w₁, hw₁, hentry, hknown⟩ := h.known raw hraw
    refine ⟨w₁, List.mem_cons_of_mem _ hw₁, List.mem_cons_of_mem _ hentry, fun vm hvm => ?_⟩
    -- a record that is there after the call, if the records have not been read
    have hmoved : records s.log = none → IsRecorded w' vm → WasKnown raw w₁ vm := by
      intro hrecords hvm
      unfold Known at hknown
      rw [hrecords] at hknown
      exact (hsteady raw hraw hrecords vm hvm).trans hknown
    by_cases hread : c = .vmsList
    · subst hread
      have hunread : records s.log = none := howes.2
      cases r with
      | error e =>
          have hsame : records (⟨.vmsList, .error e⟩ :: s.log) = none := hunread
          unfold Known at hvm
          rw [hsame] at hvm
          exact hmoved hunread hvm
      | ok recorded =>
          have hvm' : vm ∈ recorded := hvm
          rw [served_vmsList hserved, Db.mem_listVms] at hvm'
          unfold Known at hknown
          rw [hunread] at hknown
          exact hknown vm hvm'
    · have hsame : records (⟨c, r⟩ :: s.log) = records s.log := by
        cases c <;> first | rfl | exact absurd rfl hread
      unfold Known at hvm
      rw [hsame] at hvm
      cases hrecords : records s.log with
      | none =>
          rw [hrecords] at hvm
          exact hmoved hrecords hvm
      | some recorded =>
          rw [hrecords] at hvm
          unfold Known at hknown
          rw [hrecords] at hknown
          exact hknown vm hvm

theorem recalls_of_run (hrun : Relation.ReflTransGen SteadyStep (.idle w) s)
    (hpass : s.pass.isSome = true) : s.Recalls := by
  induction hrun with
  | refl => cases hpass
  | tail hbefore hstep ih =>
      obtain ⟨hstep, hsteady⟩ := hstep
      have hrun := run_of_steady hbefore
      cases hstep with
      | begin now hidle => exact ⟨List.mem_cons_self, nofun⟩
      | observe hcall hserved =>
          have hspares := hserved.vms (sparing_of_run hrun hcall)
          refine (ih (Option.isSome_of_eq_some hcall)).observe hserved (passOwes_of_run hrun hcall)
            (led_of_run hrun) fun _ _ _ vm hvm => ?_
          refine .inl ⟨vm, ⟨?_, hvm.2⟩, rfl, rfl⟩
          rw [← hspares]
          exact hvm.1
      | finish hover => cases hpass
      | request hrequest => exact ⟨(ih hpass).now, (ih hpass).known⟩
      | act htasks hserved => exact (ih hpass).move rfl rfl rfl (hsteady hpass rfl)
      | others hfindings => exact (ih hpass).move rfl rfl rfl (hsteady hpass rfl)

/-- **No false deletion.**  In every run in which no record appears between the first two reads
of a pass, unless its guest is in the listing, a VM that a pass reports as deleted had a record
and no guest at some moment of that pass, if the listing was complete when it was read. -/
theorem no_false_deletion (hrun : Relation.ReflTransGen SteadyStep (.idle w) s)
    (hcomplete : s.CompleteListing) {d : Detected} (hemits : s.Emits d)
    (hdeleted : d.dimension = .deleted) {v : VmId} (hv : d.vmId = some v) :
    ∃ w' ∈ s.moments, IsMissing w' v := by
  have hrun' := run_of_steady hrun
  have hsupported : Supported s.log d ∧ s.pass.isSome = true := by
    obtain ⟨id, next, hpass⟩ | ⟨now, next, hpass⟩ := hemits
    · exact ⟨(passOwes_of_run hrun' hpass).1, by rw [hpass]; rfl⟩
    · exact ⟨(passOwes_of_run hrun' hpass).1, by rw [hpass]; rfl⟩
  obtain ⟨⟨vm, dim, findings, hran, hd⟩, hpass⟩ := hsupported
  obtain ⟨f, -, -, hdim, howner⟩ := hran.shaped hd
  rw [hdeleted] at hdim
  subst hdim
  obtain ⟨hguac, -⟩ | ⟨-, hvm⟩ := howner
  · cases hguac
  · cases hv.symm.trans hvm
    cases hran with
    | listed hvm hraw hlisted => cases hd
    | missing hvms hvm hraw hwhole habsent =>
        obtain ⟨w₁, hw₁, hentry, hknown⟩ := (recalls_of_run hrun hpass).known _ hraw
        refine ⟨w₁, hw₁, (hknown vm ?_).missing (hcomplete _ w₁ hentry) habsent⟩
        unfold tracked at hvms
        unfold Known
        split at hvms
        · next recorded exemptIds hrecords hexempt =>
            cases hvms
            rw [hrecords]
            exact (List.mem_filter.mp hvm).1
        · cases hvms

/-! ### Sample runs -/

theorem emits_of_pending {d : Detected}
    (hpending : (s.pass.bind Prog.pending?).bind DriftCall.emitted? = some d) : s.Emits d := by
  obtain ⟨c, hc, hd⟩ := Option.bind_eq_some_iff.mp hpending
  obtain ⟨next, hpass⟩ := pass_of_pending hc
  cases c with
  | insertFinding id d' =>
      cases hd
      exact .inl ⟨id, next, hpass⟩
  | refreshFinding d' now =>
      cases hd
      exact .inr ⟨now, next, hpass⟩
  | _ => cases hd

def listsCompletely (s : DriftSystem) : Bool :=
  (s.log.zip s.scenes).all fun entry =>
    match entry.1 with
    | ⟨.clusterResources, .ok raw⟩ =>
        entry.2.base.guests.all fun g => hasVmid (allQemuResources raw) g.vmid
    | _ => true

theorem completeListing_of_listsCompletely (h : s.listsCompletely = true) : s.CompleteListing := by
  intro raw w₁ hentry g hg
  exact List.all_eq_true.mp (List.all_eq_true.mp h _ hentry) g hg

def lacksGuest (v : VmId) (w : DriftWorld) : Bool :=
  w.base.db.vms.rows.any fun vm => decide (vm.id = v ∧ vm.deletedAt = none) &&
    w.base.guests.all fun g => decide (g.vmid ≠ vm.vmid)

theorem lacksGuest_of_isMissing {v : VmId} (h : IsMissing w v) : lacksGuest v w = true := by
  obtain ⟨vm, ⟨hvm, hlive⟩, hid, habsent⟩ := h
  refine List.any_eq_true.mpr ⟨vm, hvm, ?_⟩
  rw [Bool.and_eq_true, List.all_eq_true]
  exact ⟨decide_eq_true ⟨hid, hlive⟩, fun g hg => decide_eq_true (habsent g hg)⟩

def sampleReports : DriftSystem := ((idle .sample).begin 2000).passRun (.listing []) 8

theorem no_false_deletion_sample : ∃ w' ∈ sampleReports.moments, IsMissing w' 30 := by
  have hsteady : ∀ s s', ByPass s s' → SteadyStep s s' := fun s s' h => by
    refine ⟨h.step, fun _ hlog _ _ _ vm hvm => .inl ⟨vm, ?_, rfl, rfl⟩⟩
    rwa [h.moved.resolve_right fun hne => hne hlog] at hvm
  have hrun : Relation.ReflTransGen SteadyStep (.idle .sample) sampleReports :=
    run_passRun hsteady (.listing []) 8 (run_begin hsteady 2000 .refl rfl)
  exact no_false_deletion hrun (completeListing_of_listsCompletely (by decide +kernel))
    (emits_of_pending (d := deletedFinding .web) (by decide +kernel)) rfl rfl

def cloneRequest : Task Unit := do
  let _ : VmRow ← postClone 10 30 (.ok { name := "web-2", target := none, storage := none })
  pure ()

def sampleCloned : DriftSystem :=
  ((((idle .sampleCloning).begin 2000).passRun .plain 3).taskRun .plain 40
    (ofTask cloneRequest)).passRun .plain 12

theorem sampleCloned_run : DriftRun (.idle .sampleCloning) sampleCloned := by
  have hstep : ∀ s s', ByPass s s' → DriftStep s s' := fun _ _ h => h.step
  have hlisted := run_passRun hstep .plain 3
    (run_begin hstep 2000 (s := .idle .sampleCloning) .refl rfl)
  exact run_passRun hstep .plain 12
    (run_taskRun (fun _ _ h => h.step) .plain 40 hlisted (.elsewhere cloneRequest))

/-- The copy is reported as deleted although it has had a guest ever since it has a record. -/
theorem false_deletion : ¬ ∀ (w : DriftWorld) (s : DriftSystem), DriftRun (.idle w) s → s.CompleteListing →
      ∀ d, s.Emits d → d.dimension = .deleted → ∀ v, d.vmId = some v → ∃ w' ∈ s.moments, IsMissing w' v := by
  intro hclaim
  have hpending : ((sampleCloned.pass.bind Prog.pending?).bind DriftCall.emitted?).map
      (fun d => (d.dimension, d.vmId)) = some (.deleted, some 31) := by decide +kernel
  obtain ⟨d, hd, hshape⟩ := Option.map_eq_some_iff.mp hpending
  obtain ⟨hdimension, hvmId⟩ := Prod.mk.inj hshape
  obtain ⟨w', hw', hmissing⟩ := hclaim _ _ sampleCloned_run
    (completeListing_of_listsCompletely (by decide +kernel)) d (emits_of_pending hd) hdimension 31
    hvmId
  have hnever : (sampleCloned.moments.any fun w => lacksGuest 31 w) = false := by decide +kernel
  rw [List.any_eq_false] at hnever
  exact hnever w' hw' (lacksGuest_of_isMissing hmissing)

end DriftSystem

end ProxVM
