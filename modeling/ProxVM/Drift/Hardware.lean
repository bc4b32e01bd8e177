import ProxVM.Drift.Baseline

/-!
# Hardware drift over time

The hardware of one VM changes out-of-band, is edited through ProxVM, is adopted and is
looked at by drift passes, in any order.  A `HardwareState` keeps, besides the world and
the live hardware, the counts at the first sighting or at the latest edit or adoption
that has been recorded (`reference`).
-/

namespace ProxVM

open Tables Interaction

/-! ## One pass -/

section pass

variable {v : VmId} {vmid : Nat} {hw : UsableHardware} {now : Time} {base : Option (Int × Int)}
  {s s' : DriftWorld × PassLog}

theorem FrameCall.skips {c : DriftCall} (hc : FrameCall c) : c.SkipsBaseline v := by
  cases c <;> trivial

theorem vms_of_ends {α : Type} {p : DriftTask α} {r : Except Failure α}
    (hends : Ends (watching vmid hw) p s r s') (hp : Only FrameCall p) :
    s'.1.base.db.vms = s.1.base.db.vms := by
  refine hends.keeps (I := fun s' => s'.1.base.db.vms = s.1.base.db.vms) hp ?_ rfl
  intro c s₁ r₁ s₂ hc hsame hserve
  rw [hserve.1.1.vms (PassCall.sparing (.inl hc)), hsame]

theorem mem_log_of_ask {c : DriftCall} {r : Except Failure c.Reply}
    (hends : Ends (watching vmid hw) (askDrift c) s r s') : ⟨c, r⟩ ∈ s'.2 := by
  rw [(ends_perform.mp hends).2]
  exact List.mem_cons_self

def WellShaped (t : Findings) : Prop :=
  ∀ row ∈ t, ShapedAs row.fingerprint row.dimension row.vmId

theorem wellShaped_of_pass {w : DriftWorld} {r : Except Failure DriftPassResult}
    (hshaped : WellShaped w.findings)
    (hends : Ends (watching vmid hw) (runDriftPass now) (w, []) r s') : WellShaped s'.1.findings := by
  refine hends.keeps_owing (I := fun w => WellShaped w.findings) (pass_owes now) ?_ hshaped
  intro c w₁ log r₁ w₂ howes hshaped₁ hserve
  refine hserve.1.carries.shaped hshaped₁ ?_
  rintro id d rfl
  exact howes.1.shaped

theorem ShapedAs.hardware {field : HardwareField} {dimension : DriftDimension}
    {vmId : Option VmId} (h : ShapedAs (field.fingerprint v) dimension vmId) :
    dimension = .hw ∧ vmId = some v := by
  obtain ⟨f, hf, hdimension, howner⟩ := h
  have hsame : Fingerprint.hw v field.name = f := Fingerprint.text_injective hf
  subst hsame
  exact ⟨hdimension, howner v rfl⟩

/-! ### The checks before the loop -/

variable {recorded : List VmRow} {exemptIds : List VmId} {raw : List ProxmoxQemuResource}

theorem initialPass_detected (active : List VmRow) (raw : List ProxmoxQemuResource) :
    ∀ d ∈ (initialPass active raw).detected, ∀ field : HardwareField,
      d.fingerprint ≠ field.fingerprint v := by
  have hconfig : ∀ d ∈ detectConfigDrift active (findableResources raw), ∀ field : HardwareField,
      d.fingerprint ≠ field.fingerprint v := by
    intro d hd field
    obtain ⟨vm, -, hd⟩ := List.mem_flatMap.mp hd
    obtain ⟨lr, rfl | rfl⟩ := mem_configDriftOf hd
    · rw [nameFinding_fingerprint]
      exact fingerprint_ne_of_ne fun heq => by cases heq
    · rw [nodeFinding_fingerprint]
      exact fingerprint_ne_of_ne fun heq => by cases heq
  simp only [initialPass]
  split
  · exact hconfig
  · intro d hd field
    obtain hd | hd := List.mem_append.mp hd
    · exact hconfig d hd field
    · obtain ⟨vm, -, -, rfl⟩ := mem_detectDeletedVms.mp hd
      exact fingerprint_ne_of_ne (f := .deleted vm.id) fun heq => by cases heq

theorem degraded_of_mark {active : List VmRow} {dim : DriftDimension}
    (hmark : dim ∈ (initialPass active raw).unrefined v) :
    clusterViewLooksDegraded active.length (detectDeletedVms active (allQemuResources raw)).length =
      true := by
  simp only [initialPass] at hmark
  split at hmark
  · next hdegraded => exact hdegraded
  · exact absurd hmark List.not_mem_nil

theorem loopJudged_start (vmid : Nat) (live : Int × Int) (hunread : Unread v base s)
    (hraw : ⟨.clusterResources, .ok raw⟩ ∈ s.2) (hrecorded : ⟨.vmsList, .ok recorded⟩ ∈ s.2)
    (hexempt : ⟨.jobsActiveJobVmIds, .ok exemptIds⟩ ∈ s.2) :
    LoopJudged v vmid base live exemptIds (activeVms recorded exemptIds)
      (initialPass (activeVms recorded exemptIds) raw) s := by
  have hview : .hw ∈ (initialPass (activeVms recorded exemptIds) raw).unrefined v →
      PartialView s.2 := fun hmark =>
    ⟨raw, recorded, exemptIds, hraw, hrecorded, hexempt, degraded_of_mark hmark⟩
  exact
    { advanced := hunread.advanced
      reported := fun hread => absurd hread hunread.unread
      found := fun d hd field hfp => absurd hfp (initialPass_detected _ raw d hd field)
      marks := fun hmark => .inl (hview hmark)
      checked := fun hread => absurd hread hunread.unread
      unread := fun _ _ _ => ⟨hunread, hview⟩ }

/-! ### The end -/

structure PassJudged (v : VmId) (vmid : Nat) (base : Option (Int × Int)) (live : Int × Int)
    (s : DriftWorld × PassLog) : Prop where
  reported : ∀ field : HardwareField, field.Differs base live →
    s.1.findings.IsActive (field.fingerprint v)
  resolved : WellShaped s.1.findings → ¬ PartialView s.2 → ¬ Fails v vmid s.2 →
    ∀ field : HardwareField, s.1.findings.IsActive (field.fingerprint v) → field.Differs base live

theorem judged_of_finishPass {st : PassState} {r : Except Failure DriftPassResult}
    (h : LoopJudged v vmid base hw.counts exemptIds [] st s)
    (hends : Ends (watching vmid hw) (finishPass now recorded exemptIds st) s r s') :
    Advanced v base hw.counts s' ∧
      ∀ result, r = .ok result → Compared v s'.2 → PassJudged v vmid base hw.counts s' := by
  have hlog : s.2 ⊆ s'.2 := hends.subset_log
  have hskips : Only (DriftCall.SkipsBaseline v) (finishPass now recorded exemptIds st) :=
    (only_finishPass now recorded exemptIds st).mono fun _ hc => hc.skips
  refine ⟨?_, ?_⟩
  · obtain ⟨hbase, hrebased⟩ := baseline_of_ends (v := v) hends (hskips.mono fun _ hc => hc.spares)
    rw [Advanced, hbase, hrebased]
    exact h.advanced
  · rintro result rfl hread
    have hread₀ : Compared v s.2 := compared_of_ends hends hskips hread
    obtain ⟨connections, s₁, -, hends⟩ := hends.of_bind_ok
    obtain ⟨counts, s₂, happly, hends⟩ := hends.of_bind_ok
    obtain ⟨_, s₃, hlast, hends⟩ := hends.of_bind_ok
    obtain ⟨-, rfl⟩ := hends.of_pure_ok
    have hsame : s'.1.findings = s₂.1.findings := findings_of_ends hlast (only_perform.mpr rfl)
    have happly' := happly.map Prod.fst fun _ _ _ _ hserve => hserve.1.1
    obtain ⟨hactive, hfresh⟩ := applyFindings_active rfl happly'
    constructor
    · intro field hdiffers
      obtain ⟨d, hd, hfp⟩ := h.reported hread₀ field hdiffers
      rw [hsame, ← hfp]
      exact hactive d (List.mem_append_left _ hd)
    · rintro hshaped hwhole hcomplete field ⟨row, hrow, hfp, hopen⟩
      have hshape := hshaped row hrow
      rw [hfp] at hshape
      obtain ⟨hdimension, hvmId⟩ := hshape.hardware
      rw [hsame] at hrow
      have hkept := hfresh row hrow hopen
      by_contra hsilent
      refine Bool.eq_false_iff.mp hkept (isStale_eq_true.mpr ⟨fun hmem => ?_, fun vmId hid => ?_⟩)
      · obtain ⟨d, hd, hdfp⟩ := List.mem_map.mp hmem
        obtain hd | hd := List.mem_append.mp hd
        · exact hsilent (h.found d hd field (hdfp.trans hfp))
        · obtain ⟨conn, -, -, rfl⟩ := mem_detectOrphanGuac.mp hd
          exact fingerprint_ne_of_ne (f := .guac conn.id) (fun heq => by cases heq) (hdfp.trans hfp)
      · rw [hvmId] at hid
        cases hid
        refine ⟨h.checked hread₀, fun hmark => ?_⟩
        rw [hdimension] at hmark
        obtain hview | hfails | hunread := h.marks hmark
        · exact hwhole (hview.mono hlog)
        · exact hcomplete (hfails.mono hlog)
        · exact hunread hread₀

theorem Unread.passJudged {α : Type} {r : Except Failure α} (h : Unread v base s) :
    Advanced v base hw.counts s ∧
      ∀ result, r = .ok result → Compared v s.2 → PassJudged v vmid base hw.counts s :=
  ⟨h.advanced, fun _ _ hread => absurd hread h.unread⟩

theorem mem_log_of_readCluster (hends : Ends (watching vmid hw) (attempt readCluster) s (.ok (.ok raw)) s') :
    ⟨.clusterResources, .ok raw⟩ ∈ s'.2 := by
  obtain ⟨a, ha, hends⟩ | ⟨e, s₁, -, hends⟩ := Ends.of_tryCatch hends
  · cases ha
    obtain ⟨a, s₁, hread, hends⟩ := hends.of_bind_ok
    obtain ⟨heq, rfl⟩ := hends.of_pure_ok
    cases heq
    obtain ⟨_, s₂, -, hread⟩ := hread.of_bind_ok
    exact mem_log_of_ask hread
  · obtain ⟨heq, -⟩ := hends.of_pure_ok
    cases heq

theorem listVms_spec {db : Db} (exemptIds : List VmId) (hrows : ∀ vm ∈ db.vms, vm.id = v → vm.vmid = vmid) :
    ((activeVms db.listVms exemptIds).map VmRow.id).Nodup ∧
      ∀ vm ∈ activeVms db.listVms exemptIds, vm.id = v → vm.vmid = vmid ∧ v ∉ exemptIds := by
  constructor
  · have hsublist : (activeVms db.listVms exemptIds).Sublist db.vms.rows.reverse :=
      List.filter_sublist.trans List.filter_sublist
    have hnodup : (db.vms.rows.reverse.map VmRow.id).Nodup := by
      rw [List.map_reverse, List.nodup_reverse]
      exact db.vms.nodup
    exact hnodup.sublist (hsublist.map VmRow.id)
  · intro vm hvm hid
    obtain ⟨hlisted, hactive⟩ := List.mem_filter.mp hvm
    refine ⟨hrows vm (Db.mem_listVms.mp hlisted).1 hid, ?_⟩
    rw [← hid]
    exact of_decide_eq_true hactive

/-- **One pass.**  Its baseline write is silent, and after a success the two fields of a
compared VM are judged. -/
theorem pass_judged {w : DriftWorld} {r : Except Failure DriftPassResult}
    (hrows : ∀ vm ∈ w.base.db.vms, vm.id = v → vm.vmid = vmid)
    (hends : Ends (watching vmid hw) (runDriftPass now) (w, []) r s') :
    Advanced v (w.baseline v) hw.counts s' ∧ ∀ result, r = .ok result → Compared v s'.2 →
        PassJudged v vmid (w.baseline v) hw.counts s' := by
  have hstart : Unread v (w.baseline v) (w, []) := ⟨rfl, rfl, fun ⟨_, h⟩ => absurd h List.not_mem_nil⟩
  have hskip : ∀ {α : Type} {p : DriftTask α} {r : Except Failure α} {s s'},
      Unread v (w.baseline v) s → Ends (watching vmid hw) p s r s' → Only FrameCall p →
        Unread v (w.baseline v) s' :=
    fun hunread hends hp => hunread.after hends (hp.mono fun _ hc => hc.skips)
  obtain ⟨setting, s₁, hsetting, hends⟩ | ⟨e, rfl, hsetting⟩ := hends.of_bind
  · have hunread₁ := hskip hstart hsetting (only_perform.mpr trivial)
    have hvms₁ := vms_of_ends hsetting (only_perform.mpr trivial)
    split at hends
    · obtain ⟨listing, s₂, hlisting, hends⟩ | ⟨e, rfl, hlisting⟩ := hends.of_bind
      · have hunread₂ := hskip hunread₁ hlisting only_readCluster
        have hvms₂ := (vms_of_ends hlisting only_readCluster).trans hvms₁
        cases listing with
        | error e => exact (hskip hunread₂ hends (only_skipPass now _)).passJudged
        | ok raw =>
            have hraw := mem_log_of_readCluster hlisting
            obtain ⟨recorded, s₃, hrecorded, hends⟩ | ⟨e, rfl, hrecorded⟩ := hends.of_bind
            · have hunread₃ := hskip hunread₂ hrecorded (only_perform.mpr trivial)
              obtain rfl := served_vmsList (ends_perform.mp hrecorded).1.1
              obtain ⟨exemptIds, s₄, hexempt, hends⟩ | ⟨e, rfl, hexempt⟩ := hends.of_bind
              · have hunread₄ := hskip hunread₃ hexempt (only_perform.mpr trivial)
                have hlog₃ := hrecorded.subset_log
                have hlog₄ := hexempt.subset_log
                have hloop := loopJudged_start vmid hw.counts hunread₄
                  (hlog₄ (hlog₃ hraw)) (hlog₄ (mem_log_of_ask hrecorded)) (mem_log_of_ask hexempt)
                rw [← hvms₂] at hrows
                obtain ⟨honce, hown⟩ := listVms_spec exemptIds hrows
                obtain ⟨st, s₅, hchecks, hends⟩ | ⟨e, -, hchecks⟩ := hends.of_bind
                · obtain ⟨st', heq, hjudged⟩ := checkVms_judged hloop honce hown hchecks
                  cases heq
                  exact judged_of_finishPass hjudged hends
                · obtain ⟨st', heq, -⟩ := checkVms_judged hloop honce hown hchecks
                  cases heq
              · exact (hskip hunread₃ hexempt (only_perform.mpr trivial)).passJudged
            · exact (hskip hunread₂ hrecorded (only_perform.mpr trivial)).passJudged
      · exact (hskip hunread₁ hlisting only_readCluster).passJudged
    · exact (hskip hunread₁ hends (only_skipPass now _)).passJudged
  · exact (hskip hstart hsetting (only_perform.mpr trivial)).passJudged

end pass

/-! ## Edits and adoptions -/

/-- What follows an edit of `PUT /vms/:id` that Proxmox has accepted: the new
configuration becomes the baseline, if it can be read. -/
def refreshHardwareSnapshot (vm : VmRow) (now : Time) : DriftTask Unit :=
  Prog.tryCatch (do
    let live : HardwareConfig ← askDrift (.qemuConfig vm.node vm.vmid)
    let _wrote : Bool ← bumpHardwareSnapshot vm.id live now) fun _ => pure ()

abbrev Lookup (c : DriftCall) : Prop := c.isLookup = true

def RecordCall : DriftCall → Prop
  | .base (.auditRecord _) => True
  | .vmsUpdateName _ _ => True
  | .vmsUpdateNode _ _ => True
  | .upsertVmState _ patch => patch.IsPositive
  | .resolveFinding _ _ _ => True
  | c => Lookup c

theorem Lookup.record {c : DriftCall} (hc : Lookup c) : RecordCall c := by
  cases c with
  | base b => cases b <;> trivial
  | _ => trivial

theorem only_bumpHardwareSnapshot (vmId : VmId) (hw : HardwareConfig) (time : Time) :
    Only RecordCall (bumpHardwareSnapshot vmId hw time) := by
  unfold bumpHardwareSnapshot
  split
  · exact only_pure
  · next cores memory husable =>
      have hpositive := VmStatePatch.isPositive_hardware husable (canonNet hw.net) time
      exact Only.bind (only_perform.mpr hpositive) fun _ => only_pure

theorem only_refreshHardwareSnapshot (vm : VmRow) (now : Time) :
    Only RecordCall (refreshHardwareSnapshot vm now) := by
  refine Only.tryCatch (Only.bind (only_perform.mpr rfl) fun live => ?_) fun _ => only_pure
  exact (only_bumpHardwareSnapshot _ _ _).bind fun _ => only_pure

theorem only_adoptLive (finding : DriftFindingRow) (vm : VmRow) (lr : DriftLiveResource)
    (time : Time) : Only RecordCall (adoptLive finding vm lr time) := by
  refine Only.ite (Only.ite ?_ (Only.ite ?_ only_raise)) ?_
  · unfold adoptName
    split
    · exact only_raise
    · exact Only.ite (only_perform.mpr trivial) only_pure
  · exact Only.ite (only_perform.mpr trivial) only_pure
  · refine Only.bind (only_perform.mpr rfl) fun cfg => ?_
    exact (only_bumpHardwareSnapshot _ _ _).bind fun wrote => Only.ite only_pure only_raise

theorem only_activeFinding (id : FindingId) : Only Lookup (activeFinding id) := by
  refine Only.bind (only_perform.mpr rfl) fun found => ?_
  cases found with
  | none => exact only_raise
  | some row => exact Only.ite only_raise only_pure

theorem only_requireVm (id : VmId) (refusal : String) : Only Lookup (requireVm id refusal) :=
  Only.bind (only_perform.mpr rfl) fun _ => only_orRaise

theorem only_assertNoActiveJob (vmId : VmId) : Only Lookup (assertNoActiveJob vmId) :=
  Only.bind (only_perform.mpr rfl) fun _ => Only.ite only_pure only_raise

theorem only_requireLive (vm : VmRow) : Only Lookup (requireLive vm) :=
  Only.bind (only_perform.mpr rfl) fun _ => Only.bind (only_perform.mpr rfl) fun _ => only_orRaise

theorem only_settleFinding (finding : DriftFindingRow) (actor : DriftActor) (now : Time) :
    Only RecordCall (settleFinding finding actor now) :=
  Only.bind (only_perform.mpr trivial) fun _ => only_perform.mpr trivial

theorem only_adoptDriftFinding (id : FindingId) (actor : DriftActor) (now : Time) :
    Only RecordCall (adoptDriftFinding id actor now) := by
  have hlook : ∀ {β : Type} {q : DriftTask β}, Only Lookup q → Only RecordCall q :=
    fun hq => hq.mono fun _ hc => hc.record
  refine (hlook (only_activeFinding id)).bind fun finding => only_orRaise.bind fun vmId => ?_
  refine Only.ite only_raise ((hlook (only_requireVm _ _)).bind fun vm => ?_)
  refine (hlook (only_assertNoActiveJob _)).bind fun _ => (hlook (only_requireLive vm)).bind fun lr => ?_
  exact (only_adoptLive finding vm lr now).bind fun _ => only_settleFinding finding actor now

section record

variable {v : VmId} {vmid : Nat} {hw : UsableHardware} {vm : VmRow} {now : Time}
  {base : Option (Int × Int)} {s s' : DriftWorld × PassLog} {α : Type} {p : DriftTask α}
  {r : Except Failure α}

structure Still (v : VmId) (base : Option (Int × Int)) (s : DriftWorld × PassLog) : Prop where
  baseline : s.1.baseline v = base
  unwritten : rebased v s.2 = false

def Recorded (v : VmId) (base : Option (Int × Int)) (live : Int × Int)
    (s : DriftWorld × PassLog) : Prop :=
  Still v base s ∨ s.1.baseline v = some live ∧ rebased v s.2 = true

theorem Still.after (h : Still v base s) (hends : Ends (watching vmid hw) p s r s')
    (hp : Only (DriftCall.SparesBaseline v) p) : Still v base s' := by
  obtain ⟨hbase, hrebased⟩ := baseline_of_ends hends hp
  exact ⟨hbase.trans h.baseline, hrebased.trans h.unwritten⟩

theorem Recorded.after {live : Int × Int} (h : Recorded v base live s)
    (hends : Ends (watching vmid hw) p s r s') (hp : Only (DriftCall.SparesBaseline v) p) :
    Recorded v base live s' := by
  obtain hstill | ⟨hlive, hwritten⟩ := h
  · exact .inl (hstill.after hends hp)
  · obtain ⟨hbase, hrebased⟩ := baseline_of_ends hends hp
    exact .inr ⟨hbase.trans hlive, hrebased.trans hwritten⟩

theorem world_of_ends (hends : Ends (watching vmid hw) p s r s') (hp : Only Lookup p) : s'.1 = s.1 := by
  refine hends.keeps (I := fun s' => s'.1 = s.1) hp ?_ rfl
  intro c s₁ r₁ s₂ hc hsame hserve
  rw [hserve.1.1.eq_of_isLookup hc, hsame]

theorem Lookup.spares {c : DriftCall} (hc : Lookup c) : c.SparesBaseline v := by
  cases c with
  | upsertVmState vmId patch => cases hc
  | _ => trivial

theorem recorded_of_bump {vmId : VmId} {cfg : HardwareConfig} {r : Except Failure Bool}
    (hlive : vmId = v → cfg = hw.config) (hstill : Still v base s)
    (hends : Ends (watching vmid hw) (bumpHardwareSnapshot vmId cfg now) s r s') :
    Recorded v base hw.counts s' := by
  unfold bumpHardwareSnapshot at hends
  split at hends
  · obtain ⟨-, rfl⟩ := ends_pure.mp hends
    exact .inl hstill
  · next cores memory husable =>
      by_cases hid : vmId = v
      · subst hid
        cases hlive rfl
        have hcounts : (cores, memory) = hw.counts :=
          Option.some.inj (husable.symm.trans hw.usable)
        obtain ⟨_, s₁, hwrite, hends⟩ | ⟨e, -, hwrite⟩ := hends.of_bind
        · obtain ⟨-, rfl⟩ := ends_pure.mp hends
          obtain ⟨⟨hserved, -⟩, hlog⟩ := ends_perform.mp hwrite
          refine .inr ⟨(baseline_of_upsert hserved).trans (congrArg some hcounts), ?_⟩
          rw [hlog]
          simp [rebased, DriftCall.storesHardware, VmStatePatch.hardware]
        · obtain ⟨⟨hserved, -⟩, hlog⟩ := ends_perform.mp hwrite
          obtain ⟨_, -, hsame⟩ | ⟨hr, -⟩ := served_upsertVmState hserved
          · refine .inl ⟨by rw [hsame, hstill.baseline], ?_⟩
            rw [hlog]
            exact hstill.unwritten
          · cases hr
      · refine .inl (hstill.after hends ?_)
        exact Only.bind (only_perform.mpr fun heq => absurd heq hid) fun _ => only_pure

theorem recorded_of_refresh {r : Except Failure Unit} (hvmid : vm.id = v → vm.vmid = vmid)
    (hstill : Still v base s) (hends : Ends (watching vmid hw) (refreshHardwareSnapshot vm now) s r s') :
    Recorded v base hw.counts s' := by
  have hblock : ∀ {r : Except Failure Unit} {s' : DriftWorld × PassLog},
      Ends (watching vmid hw) (do
        let live : HardwareConfig ← askDrift (.qemuConfig vm.node vm.vmid)
        let _wrote : Bool ← bumpHardwareSnapshot vm.id live now) s r s' →
      Recorded v base hw.counts s' := by
    intro r s' hends
    obtain ⟨cfg, s₁, hcfg, hends⟩ | ⟨e, -, hcfg⟩ := hends.of_bind
    · have hstill₁ := hstill.after hcfg (only_perform.mpr trivial)
      have hlive : vm.id = v → cfg = hw.config := fun hid =>
        (ends_perform.mp hcfg).1.2 (hvmid hid) cfg rfl
      obtain ⟨wrote, s₂, hbump, hends⟩ | ⟨e, -, hbump⟩ := hends.of_bind
      · obtain ⟨-, rfl⟩ := ends_pure.mp hends
        exact recorded_of_bump hlive hstill₁ hbump
      · exact recorded_of_bump hlive hstill₁ hbump
    · exact .inl (hstill.after hcfg (only_perform.mpr trivial))
  obtain ⟨a, -, hends⟩ | ⟨e, s₁, hends, hcaught⟩ := Ends.of_tryCatch hends
  · exact hblock hends
  · obtain ⟨-, rfl⟩ := ends_pure.mp hcaught
    exact hblock hends

theorem recorded_of_adoptLive {finding : DriftFindingRow} {lr : DriftLiveResource}
    {r : Except Failure Unit} (hvmid : vm.id = v → vm.vmid = vmid) (hstill : Still v base s)
    (hends : Ends (watching vmid hw) (adoptLive finding vm lr now) s r s') :
    Recorded v base hw.counts s' := by
  unfold adoptLive at hends
  split at hends
  · refine .inl (hstill.after hends ?_)
    refine Only.ite ?_ (Only.ite (Only.ite (only_perform.mpr trivial) only_pure) only_raise)
    unfold adoptName
    split
    · exact only_raise
    · exact Only.ite (only_perform.mpr trivial) only_pure
  · obtain ⟨cfg, s₁, hcfg, hends⟩ | ⟨e, -, hcfg⟩ := hends.of_bind
    · have hstill₁ := hstill.after hcfg (only_perform.mpr trivial)
      have hlive : vm.id = v → cfg = hw.config := fun hid =>
        (ends_perform.mp hcfg).1.2 (hvmid hid) cfg rfl
      obtain ⟨wrote, s₂, hbump, hends⟩ | ⟨e, -, hbump⟩ := hends.of_bind
      · exact (recorded_of_bump hlive hstill₁ hbump).after hends (Only.ite only_pure only_raise)
      · exact recorded_of_bump hlive hstill₁ hbump
    · exact .inl (hstill.after hcfg (only_perform.mpr trivial))

theorem mem_of_requireVm {id : VmId} {refusal : String}
    (hends : Ends (watching vmid hw) (requireVm id refusal) s (.ok vm) s') : vm ∈ s.1.base.db.vms := by
  obtain ⟨found, s₁, hfind, hends⟩ := hends.of_bind_ok
  have hsame : s₁.1 = s.1 := world_of_ends hfind (only_perform.mpr rfl)
  have hserved := (ends_perform.mp hfind).1.1
  rw [hsame] at hserved
  cases hfound : found with
  | none =>
      rw [hfound] at hends
      obtain ⟨he, -⟩ := ends_raise.mp hends
      cases he
  | some row =>
      rw [hfound] at hends
      obtain ⟨rfl, -⟩ := hends.of_pure_ok
      rw [hfound] at hserved
      have hrow := (served_vmsFindById hserved).symm
      unfold findVmById at hrow
      exact Table.mem_of_find? (Option.filter_eq_some_iff.mp hrow).1

theorem recorded_of_adopt {id : FindingId} {actor : DriftActor} {r : Except Failure Unit}
    (hrows : ∀ vm ∈ s.1.base.db.vms, vm.id = v → vm.vmid = vmid) (hstill : Still v base s)
    (hends : Ends (watching vmid hw) (adoptDriftFinding id actor now) s r s') :
    Recorded v base hw.counts s' := by
  have hlook : ∀ {β : Type} {q : DriftTask β} {r : Except Failure β} {s₁ s₂},
      s₁.1 = s.1 ∧ Still v base s₁ → Ends (watching vmid hw) q s₁ r s₂ → Only Lookup q →
        s₂.1 = s.1 ∧ Still v base s₂ := by
    rintro β q r s₁ s₂ ⟨hsame, hstill⟩ hends hq
    exact ⟨(world_of_ends hends hq).trans hsame, hstill.after hends (hq.mono fun _ hc => hc.spares)⟩
  have hstart : s.1 = s.1 ∧ Still v base s := ⟨rfl, hstill⟩
  obtain ⟨finding, s₁, hfinding, hends⟩ | ⟨e, -, hfinding⟩ := hends.of_bind
  · have h₁ := hlook hstart hfinding (only_activeFinding id)
    obtain ⟨vmId, s₂, htarget, hends⟩ | ⟨e, -, htarget⟩ := hends.of_bind
    · have h₂ := hlook h₁ htarget only_orRaise
      split at hends
      · exact .inl (hlook h₂ hends only_raise).2
      · obtain ⟨vm, s₃, hvm, hends⟩ | ⟨e, -, hvm⟩ := hends.of_bind
        · have h₃ := hlook h₂ hvm (only_requireVm _ _)
          have hvmid : vm.id = v → vm.vmid = vmid := by
            refine hrows vm ?_
            rw [← h₂.1]
            exact mem_of_requireVm hvm
          obtain ⟨_, s₄, hidle, hends⟩ | ⟨e, -, hidle⟩ := hends.of_bind
          · have h₄ := hlook h₃ hidle (only_assertNoActiveJob _)
            obtain ⟨lr, s₅, hlr, hends⟩ | ⟨e, -, hlr⟩ := hends.of_bind
            · have h₅ := hlook h₄ hlr (only_requireLive _)
              have hspares : Only (DriftCall.SparesBaseline v) (settleFinding finding actor now) :=
                Only.bind (only_perform.mpr trivial) fun _ => only_perform.mpr trivial
              obtain ⟨_, s₆, hadopt, hends⟩ | ⟨e, -, hadopt⟩ := hends.of_bind
              · exact (recorded_of_adoptLive hvmid h₅.2 hadopt).after hends hspares
              · exact recorded_of_adoptLive hvmid h₅.2 hadopt
            · exact .inl (hlook h₄ hlr (only_requireLive _)).2
          · exact .inl (hlook h₃ hidle (only_assertNoActiveJob _)).2
        · exact .inl (hlook h₂ hvm (only_requireVm _ _)).2
    · exact .inl (hlook h₁ htarget only_orRaise).2
  · exact .inl (hlook hstart hfinding (only_activeFinding id)).2

end record

/-! ## What every event keeps -/

def PositiveBaseline (v : VmId) (w : DriftWorld) : Prop :=
  ∀ row, w.vmState.find? v = some row →
    (∀ n, row.cores = some n → 0 < n) ∧ ∀ n, row.memoryMb = some n → 0 < n

def NamesGuest (v : VmId) (vmid : Nat) (w : DriftWorld) : Prop :=
  ∀ vm ∈ w.base.db.vms, vm.id = v → vm.vmid = vmid

section served

variable {v : VmId} {vmid : Nat} {c : DriftCall} {w w' : DriftWorld} {r : Except Failure c.Reply}

theorem PositiveBaseline.served (h : PositiveBaseline v w) (hserved : DriftServed c w r w')
    (hc : ∀ vmId patch, c = .upsertVmState vmId patch → patch.IsPositive) : PositiveBaseline v w' := by
  cases hwrites : c.writesVmState with
  | false =>
      rw [PositiveBaseline, hserved.frame.vmState hwrites]
      exact h
  | true =>
      cases c with
      | upsertVmState vmId patch =>
          obtain ⟨e, -, rfl⟩ | ⟨-, hstate⟩ := served_upsertVmState hserved
          · exact h
          · rw [PositiveBaseline, hstate]
            by_cases hid : vmId = v
            · subst hid
              obtain ⟨hcores, hmemory⟩ := hc vmId patch rfl
              rw [VmStates.find?_upsert_self]
              rintro _ ⟨⟩
              -- a column is the one of the patch or, without one, that of the old row
              have hold : (∀ n, ((w.vmState.find? vmId).getD (.blank vmId)).cores = some n → 0 < n) ∧
                  ∀ n, ((w.vmState.find? vmId).getD (.blank vmId)).memoryMb = some n → 0 < n := by
                cases hfind : w.vmState.find? vmId with
                | none => exact ⟨nofun, nofun⟩
                | some row => exact h row hfind
              constructor
              · intro n hn
                cases hpatch : patch.cores with
                | none => exact hold.1 n (by simpa [VmStateRow.patched, hpatch] using hn)
                | some value =>
                    obtain ⟨m, rfl, hpos⟩ := hcores value hpatch
                    have hsame : m = n := by simpa [VmStateRow.patched, hpatch] using hn
                    omega
              · intro n hn
                cases hpatch : patch.memoryMb with
                | none => exact hold.2 n (by simpa [VmStateRow.patched, hpatch] using hn)
                | some value =>
                    obtain ⟨m, rfl, hpos⟩ := hmemory value hpatch
                    have hsame : m = n := by simpa [VmStateRow.patched, hpatch] using hn
                    omega
            · rw [VmStates.find?_upsert_of_ne _ _ hid]
              exact h
      | _ => cases hwrites

theorem PassCall.positive (hc : PassCall c) :
    ∀ vmId patch, c = .upsertVmState vmId patch → patch.IsPositive := by
  rintro vmId patch rfl
  obtain hframe | ⟨vm, hcheck⟩ := hc
  · exact hframe.elim
  · exact hcheck.2

theorem RecordCall.positive (hc : RecordCall c) :
    ∀ vmId patch, c = .upsertVmState vmId patch → patch.IsPositive := by
  rintro vmId patch rfl
  exact hc

theorem NamesGuest.served (h : NamesGuest v vmid w) (hserved : DriftServed c w r w')
    (hc : RecordCall c) : NamesGuest v vmid w' := by
  cases hspares : c.sparesVms with
  | true =>
      rw [NamesGuest, hserved.vms hspares]
      exact h
  | false =>
      have hupdate : ∀ (id : VmId) (f : VmRow → VmRow) (hkey : ∀ vm, (f vm).id = vm.id),
          (∀ vm, (f vm).vmid = vm.vmid) →
          NamesGuest v vmid (w.withDb (w.base.db.updateVm id f hkey)) := by
        intro id f hkey hvmid vm hvm hid
        have hmem : vm ∈ w.base.db.vms.updateWhere (fun vm => decide (vm.id = id)) f hkey := hvm
        obtain ⟨old, hold, rfl⟩ := Table.mem_updateWhere.mp hmem
        split at hid
        · next hchosen =>
            rw [if_pos hchosen, hvmid]
            exact h old hold ((hkey old).symm.trans hid)
        · next hspared =>
            rw [if_neg hspared]
            exact h old hold hid
      cases c with
      | base b => cases b <;> first | (cases hc; done) | cases hspares
      | vmsUpdateName id name =>
          obtain ⟨e, -, rfl⟩ | ⟨given, hanswer⟩ := hserved.cases rfl
          · exact h
          · cases hanswer
            exact hupdate id _ _ fun _ => rfl
      | vmsUpdateNode id node =>
          obtain ⟨e, -, rfl⟩ | ⟨given, hanswer⟩ := hserved.cases rfl
          · exact h
          · change DriftWorld.updateVmNode _ _ _ = _ at hanswer
            unfold DriftWorld.updateVmNode at hanswer
            split at hanswer
            · next db hdb =>
                cases hanswer
                obtain ⟨-, heq⟩ := Option.ite_none_left_eq_some.mp hdb
                cases heq
                exact hupdate id _ _ fun _ => rfl
            · cases hanswer
              exact h
      | _ => cases hspares

end served

/-! ## Runs -/

/-- The installation, the live hardware of the VM, and its counts at the first sighting or
at the latest edit or adoption that has been recorded. -/
structure HardwareState where
  world : DriftWorld
  live : UsableHardware
  reference : Option (Int × Int)

def rereferenced (v : VmId) (log : PassLog) (live : Int × Int) (reference : Option (Int × Int)) :
    Option (Int × Int) :=
  if rebased v log then some live else reference

/-- One event about the hardware of the VM `v`, whose guest is `vmid`. -/
inductive HardwareStep (v : VmId) (vmid : Nat) : HardwareState → HardwareState → Prop
  /-- A drift pass, successful or not.  The first one to record the hardware sights it. -/
  | pass {s : HardwareState} (now : Time) {r : Except Failure DriftPassResult} {w' : DriftWorld}
      {log : PassLog} (hends : Ends (watching vmid s.live) (runDriftPass now) (s.world, []) r (w', log)) :
      HardwareStep v vmid s
        { s with
          world := w'
          reference :=
            if s.reference = none then rereferenced v log s.live.counts none else s.reference }
  /-- The hardware changes out-of-band. -/
  | change {s : HardwareState} (live : UsableHardware) : HardwareStep v vmid s { s with live }
  /-- The hardware is edited through ProxVM. -/
  | edit {s : HardwareState} (live : UsableHardware) (vm : VmRow) (now : Time) (hid : vm.id = v)
      (hvmid : vm.vmid = vmid) {r : Except Failure Unit} {w' : DriftWorld} {log : PassLog}
      (hends : Ends (watching vmid live) (refreshHardwareSnapshot vm now) (s.world, []) r (w', log)) :
      HardwareStep v vmid s
        { world := w', live, reference := rereferenced v log live.counts s.reference }
  /-- A finding, of this VM or another, is adopted. -/
  | adopt {s : HardwareState} (id : FindingId) (actor : DriftActor) (now : Time)
      {r : Except Failure Unit} {w' : DriftWorld} {log : PassLog}
      (hends : Ends (watching vmid s.live) (adoptDriftFinding id actor now) (s.world, []) r (w', log)) :
      HardwareStep v vmid s
        { s with world := w', reference := rereferenced v log s.live.counts s.reference }
  /-- Something else happens that does not touch the stored state of the VM or the guest of
  its record and does not add findings. -/
  | elsewhere {s : HardwareState} {w' : DriftWorld}
      (hstate : w'.vmState.find? v = s.world.vmState.find? v) (hguest : NamesGuest v vmid w')
      (hfindings : ∀ row' ∈ w'.findings, ∃ row ∈ s.world.findings, row.Same row') :
      HardwareStep v vmid s { s with world := w' }

abbrev HardwareRun (v : VmId) (vmid : Nat) : HardwareState → HardwareState → Prop :=
  Relation.ReflTransGen (HardwareStep v vmid)

structure HardwareState.Fresh (v : VmId) (vmid : Nat) (s : HardwareState) : Prop where
  findings : s.world.findings = Table.empty
  vmState : s.world.vmState.find? v = none
  reference : s.reference = none
  guest : NamesGuest v vmid s.world

structure HardwareState.Inv (v : VmId) (vmid : Nat) (s : HardwareState) : Prop where
  baseline : s.world.baseline v = s.reference
  positive : PositiveBaseline v s.world
  shaped : WellShaped s.world.findings
  guest : NamesGuest v vmid s.world

variable {v : VmId} {vmid : Nat} {s s' : HardwareState}

theorem HardwareState.Fresh.inv (h : s.Fresh v vmid) : s.Inv v vmid where
  baseline := by
    rw [DriftWorld.baseline, h.vmState, h.reference]
    rfl
  positive := by
    intro row hrow
    rw [h.vmState] at hrow
    cases hrow
  shaped := by
    intro row hrow
    rw [h.findings] at hrow
    exact absurd hrow (Table.not_mem_empty row)
  guest := h.guest

variable {live : Int × Int} {log : PassLog}

theorem Recorded.baseline_eq {base : Option (Int × Int)} {w : DriftWorld} (h : Recorded v base live (w, log)) :
    w.baseline v = rereferenced v log live base := by
  obtain ⟨hbase, hunwritten⟩ | ⟨hbase, hwritten⟩ := h
  · rw [rereferenced, hunwritten]
    exact hbase
  · rw [rereferenced, hwritten]
    exact hbase

theorem Advanced.baseline_eq {base : Option (Int × Int)} {w : DriftWorld} (h : Advanced v base live (w, log)) :
    w.baseline v = if base = none then rereferenced v log live none else base := by
  obtain ⟨hbase, hunwritten⟩ | ⟨hsilent, hbase, hwritten⟩ := h
  · have hnone : rereferenced v log live none = none := by rw [rereferenced, hunwritten]; rfl
    rw [hnone]
    split
    · next h => exact hbase.trans h
    · exact hbase
  · have hsome : rereferenced v log live none = some live := by rw [rereferenced, hwritten]; rfl
    rw [hsome]
    split
    · exact hbase
    · next h => exact hbase.trans (hsilent.resolve_left h).symm

theorem HardwareState.Inv.record {hw : UsableHardware} {p : DriftTask Unit}
    {r : Except Failure Unit} {w' : DriftWorld} (h : s.Inv v vmid)
    (hends : Ends (watching vmid hw) p (s.world, []) r (w', log)) (hp : Only RecordCall p) :
    PositiveBaseline v w' ∧ WellShaped w'.findings ∧ NamesGuest v vmid w' := by
  refine hends.keeps (I := fun s : DriftWorld × PassLog => PositiveBaseline v s.1 ∧
    WellShaped s.1.findings ∧ NamesGuest v vmid s.1) hp ?_ ⟨h.positive, h.shaped, h.guest⟩
  rintro c s₁ r₁ s₂ hc ⟨hpositive, hshaped, hguest⟩ hserve
  refine ⟨hpositive.served hserve.1.1 hc.positive, hserve.1.1.carries.shaped hshaped ?_,
    hguest.served hserve.1.1 hc⟩
  rintro id d rfl
  cases hc

theorem HardwareState.Inv.step (h : s.Inv v vmid) (hstep : HardwareStep v vmid s s') : s'.Inv v vmid := by
  cases hstep with
  | pass now hends =>
      obtain ⟨hadvanced, -⟩ := pass_judged h.guest hends
      rw [h.baseline] at hadvanced
      refine ⟨hadvanced.baseline_eq, ?_, wellShaped_of_pass h.shaped hends, ?_⟩
      · exact hends.keeps (I := fun s : DriftWorld × PassLog => PositiveBaseline v s.1)
          (only_runDriftPass now)
          (fun _ _ _ _ hc hpositive hserve => hpositive.served hserve.1.1 hc.positive) h.positive
      · refine hends.keeps (I := fun s : DriftWorld × PassLog => NamesGuest v vmid s.1)
          (only_runDriftPass now) (fun c s₁ r₁ s₂ hc hguest hserve => ?_) h.guest
        rw [NamesGuest, hserve.1.1.vms hc.sparing]
        exact hguest
  | change live => exact ⟨h.baseline, h.positive, h.shaped, h.guest⟩
  | edit live vm now hid hvmid hends =>
      obtain ⟨hpositive, hshaped, hguest⟩ := h.record hends (only_refreshHardwareSnapshot vm now)
      have hrecorded := recorded_of_refresh (fun _ => hvmid) ⟨h.baseline, rfl⟩ hends
      exact ⟨hrecorded.baseline_eq, hpositive, hshaped, hguest⟩
  | adopt id actor now hends =>
      obtain ⟨hpositive, hshaped, hguest⟩ := h.record hends (only_adoptDriftFinding id actor now)
      have hrecorded := recorded_of_adopt (s := (_, [])) h.guest ⟨h.baseline, rfl⟩ hends
      exact ⟨hrecorded.baseline_eq, hpositive, hshaped, hguest⟩
  | elsewhere hstate hguest hfindings =>
      refine ⟨?_, ?_, fun row' hrow' => ?_, hguest⟩
      · rw [← h.baseline, DriftWorld.baseline, hstate]
        rfl
      · rw [PositiveBaseline, hstate]
        exact h.positive
      · obtain ⟨row, hrow, hsame⟩ := hfindings row' hrow'
        rw [hsame.fingerprint, hsame.dimension, hsame.vmId]
        exact h.shaped row hrow

theorem HardwareState.inv_of_run (h : s.Fresh v vmid) (hrun : HardwareRun v vmid s s') : s'.Inv v vmid := by
  induction hrun with
  | refl => exact h.inv
  | tail _ hstep ih => exact ih.step hstep

/-- **Hardware drift does not heal by itself.**  In every run the stored baseline is the
reference and never holds a count that is not positive.  After every pass that completes and
has compared the VM, a finding is active for each field whose live value differs from the
reference; and for no other, unless the cluster view was partial or a call that the checks of
the VM depend on has failed. -/
theorem hardware_drift (hfresh : s.Fresh v vmid) (hrun : HardwareRun v vmid s s') :
    s'.world.baseline v = s'.reference ∧ (∀ row, s'.world.vmState.find? v = some row →
      (∀ n, row.cores = some n → 0 < n) ∧ ∀ n, row.memoryMb = some n → 0 < n) ∧ ∀ now result w' log,
      Ends (watching vmid s'.live) (runDriftPass now) (s'.world, []) (.ok result) (w', log) →
      Compared v log → ∀ field : HardwareField,
        (field.Differs s'.reference s'.live.counts → w'.findings.IsActive (field.fingerprint v)) ∧
        (¬ PartialView log → ¬ Fails v vmid log → (w'.findings.IsActive (field.fingerprint v) ↔
            field.Differs s'.reference s'.live.counts)) := by
  have hinv := HardwareState.inv_of_run hfresh hrun
  refine ⟨hinv.baseline, hinv.positive, fun now result w' log hends hread field => ?_⟩
  obtain ⟨-, hjudged⟩ := pass_judged hinv.guest hends
  have hpass := hjudged result rfl hread
  rw [hinv.baseline] at hpass
  have hshaped : WellShaped w'.findings := wellShaped_of_pass hinv.shaped hends
  exact ⟨hpass.reported field, fun hwhole hcomplete =>
    ⟨hpass.resolved hshaped hwhole hcomplete field, hpass.reported field⟩⟩

/-! ## A guest that grows and shrinks again -/

def DriftFates.configured (config : HardwareConfig) : DriftFates
  | .qemuConfig _ _ => .answer config
  | c => .answer c.plainReply

def DriftFates.interrupted (config : HardwareConfig) : DriftFates
  | .qemuConfig _ _ => .answer config
  | .base (.proxmoxGuestIpAddresses _ _) => .refuse (.other "QEMU guest agent is not running")
  | c => .answer c.plainReply

theorem watching_playLogged {hw : UsableHardware} {fates : DriftFates}
    (hfates : ∀ node n, fates (.qemuConfig node n) = .answer hw.config) {c : DriftCall}
    {o o' : DriftWorld × PassLog} {r : Except Failure c.Reply}
    (hplay : DriftWorld.playLogged fates c o = some (r, o')) : watching vmid hw c o r o' := by
  refine ⟨⟨(logging_playLogged hplay).1, ?_⟩, (logging_playLogged hplay).2⟩
  cases c with
  | qemuConfig node n =>
      rintro - cfg rfl
      obtain ⟨out, hout, heq⟩ := Option.map_eq_some_iff.mp hplay
      unfold DriftWorld.play at hout
      rw [hfates] at hout
      cases hout
      cases heq
      rfl
  | _ => trivial

def HardwareState.played (s : HardwareState) (fates : DriftFates) (now : Time) :
    DriftWorld × PassLog :=
  (drive (DriftWorld.playLogged fates) 40 (runDriftPass now, (s.world, []))).2

def HardwareState.afterPass (s : HardwareState) (now : Time) : HardwareState :=
  { s with
    world := (s.played (.configured s.live.config) now).1
    reference :=
      if s.reference = none then
        rereferenced 30 (s.played (.configured s.live.config) now).2 s.live.counts none
      else
        s.reference }

def HardwareState.succeeds (s : HardwareState) (fates : DriftFates) (now : Time) : Bool :=
  (drive (DriftWorld.playLogged fates) 40 (runDriftPass now, (s.world, []))).1.result?.any fun r =>
    r.toOption.isSome

theorem HardwareState.ends_played (s : HardwareState) (vmid : Nat) (fates : DriftFates) (now : Time)
    (hfates : ∀ node n, fates (.qemuConfig node n) = .answer s.live.config)
    (hsucceeds : s.succeeds fates now = true) : ∃ result,
      Ends (watching vmid s.live) (runDriftPass now) (s.world, []) (.ok result) (s.played fates now) := by
  obtain ⟨r, hresult, hok⟩ := (Option.any_eq_true _ _).mp hsucceeds
  cases r with
  | error e => cases hok
  | ok result =>
      exact ⟨result, ends_of_result (fun _ _ _ _ => watching_playLogged hfates) 40 hresult⟩

def readsState (v : VmId) (log : PassLog) : Bool :=
  log.any fun
    | ⟨.getVmState vmId, .ok _⟩ => decide (vmId = v)
    | _ => false

theorem compared_of_readsState (h : readsState v log = true) : Compared v log := by
  obtain ⟨⟨c, r⟩, hmem, hentry⟩ := List.any_eq_true.mp h
  cases c with
  | getVmState vmId =>
      cases r with
      | error e => cases hentry
      | ok state =>
          cases of_decide_eq_true hentry
          exact ⟨state, hmem⟩
  | _ => cases hentry

def UsableHardware.plain : UsableHardware := ⟨⟨some 2, some 2048, none⟩, (2, 2048), rfl⟩

def UsableHardware.grown : UsableHardware := ⟨⟨some 4, some 2048, none⟩, (4, 2048), rfl⟩

namespace HardwareState

def sample : HardwareState := ⟨.sample, .plain, none⟩

theorem sample_fresh : sample.Fresh 30 500 :=
  ⟨rfl, rfl, rfl, by unfold NamesGuest; decide⟩

def sampleGrown : HardwareState := { sample.afterPass 1000 with live := .grown }

def sampleShrunk : HardwareState := { sampleGrown.afterPass 2000 with live := .plain }

theorem sampleGrown_run : HardwareRun 30 500 sample sampleGrown := by
  obtain ⟨result, hends⟩ := ends_played sample 500 (.configured UsableHardware.plain.config) 1000
    (fun _ _ => rfl) (by decide +kernel)
  exact .tail (.tail .refl (.pass 1000 hends)) (.change .grown)

theorem sampleShrunk_run : HardwareRun 30 500 sample sampleShrunk := by
  obtain ⟨result, hends⟩ := ends_played sampleGrown 500 (.configured UsableHardware.grown.config) 2000
    (fun _ _ => rfl) (by decide +kernel)
  exact .tail (.tail sampleGrown_run (.pass 2000 hends)) (.change .plain)

end HardwareState

theorem hardware_drift_sample : HardwareState.sampleGrown.world.baseline 30 = some (2, 2048) ∧
      (HardwareState.sampleGrown.played (.configured UsableHardware.grown.config)
        2000).1.findings.IsActive "hw:30:cores" := by
  obtain ⟨hbase, -, hpass⟩ := hardware_drift HardwareState.sample_fresh HardwareState.sampleGrown_run
  have href : HardwareState.sampleGrown.reference = some (2, 2048) := by decide +kernel
  obtain ⟨result, hends⟩ := HardwareState.ends_played .sampleGrown 500
    (.configured UsableHardware.grown.config) 2000 (fun _ _ => rfl) (by decide +kernel)
  refine ⟨hbase.trans href, ?_⟩
  refine (hpass 2000 result _ _ hends (compared_of_readsState (by decide +kernel)) .cores).1 ?_
  exact ⟨(2, 2048), href, by decide⟩

/-- A third pass compares the guest, which is as at its first sighting again, but the check of
its address throws.  The finding about the cores stays active. -/
theorem hardware_drift_preserved :
    ¬ ∀ (v : VmId) (vmid : Nat) (s s' : HardwareState), s.Fresh v vmid → HardwareRun v vmid s s' →
      ∀ now result w' log,
        Ends (watching vmid s'.live) (runDriftPass now) (s'.world, []) (.ok result) (w', log) →
        Compared v log → ∀ field : HardwareField, (w'.findings.IsActive (field.fingerprint v) ↔
            field.Differs s'.reference s'.live.counts) := by
  intro hclaim
  obtain ⟨result, hends⟩ := HardwareState.ends_played .sampleShrunk 500
    (.interrupted UsableHardware.plain.config) 3000 (fun _ _ => rfl) (by decide +kernel)
  have hiff := hclaim 30 500 _ _ HardwareState.sample_fresh HardwareState.sampleShrunk_run 3000 result
    _ _ hends (compared_of_readsState (by decide +kernel)) .cores
  have hactive : (((HardwareState.sampleShrunk.played (.interrupted UsableHardware.plain.config)
      3000).1.findings.find? "hw:30:cores").any fun row => row.status.isActive) = true := by
    decide +kernel
  obtain ⟨row, hfind, hopen⟩ := (Option.any_eq_true _ _).mp hactive
  obtain ⟨base, hbase, hne⟩ := hiff.mp
    ⟨row, Table.mem_of_find? hfind, Table.key_of_find? hfind, DriftStatus.isActive_iff.mp hopen⟩
  have href : HardwareState.sampleShrunk.reference = some (2, 2048) := by decide +kernel
  rw [href] at hbase
  cases hbase
  exact hne rfl

end ProxVM
