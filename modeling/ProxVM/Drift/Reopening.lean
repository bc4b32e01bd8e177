import ProxVM.Drift.System

/-!
# What a pass opens again

A finding that a remediation resolves while a pass runs may come up in that pass
once more, because the pass has looked before the remediation acted.

- `Supported.recent`: what a pass has read before its cluster listing does not go into
  any detection.
-/

namespace ProxVM

open Tables Interaction

/-! ## The order of the reads -/

def DriftCall.isPreliminary : DriftCall → Bool
  | .settingsDriftEnabled => true
  | .base .getProxmoxClient => true
  | .clusterResources => true
  | .settingsSetLastRun _ => true
  | _ => false

def Leads (c : DriftCall) (log : PassLog) : Prop := c.isPreliminary = true ∨ listing log ≠ none

theorem listing_cons_ne_none {e : (c : DriftCall) × Except Failure c.Reply} {log : PassLog}
    (h : listing log ≠ none) : listing (e :: log) ≠ none := by
  unfold listing at h ⊢
  rw [List.findSome?_cons]
  split
  · exact Option.some_ne_none _
  · exact h

theorem pass_leads (now : Time) :
    (aloneOwing record Leads).holds (runDriftPass now) (fun _ _ => True) [] := by
  have hskip : ∀ reason log,
      (aloneOwing record Leads).holds (skipPass now reason) (fun _ _ => True) log :=
    fun reason log => Context.holds_ite.mpr ⟨fun _ => trivial, fun _ =>
      holds_record_bind (.inl rfl) (fun _ => trivial) fun _ => trivial⟩
  refine holds_record_bind (.inl rfl) (fun setting => ?_) fun _ => trivial
  refine Context.holds_ite.mpr ⟨fun _ => ?_, fun _ => hskip _ _⟩
  rw [Context.holds_bind]
  unfold attempt
  rw [Context.holds_tryCatch, Context.holds_bind]
  refine holds_record_bind (.inl rfl) (fun _ => ?_) fun e => hskip _ _
  refine holds_aloneOwing_perform.mpr ⟨.inl rfl, ?_⟩
  rintro (e | raw) _ rfl
  · exact hskip _ _
  · -- from here on the listing is there
    change (aloneOwing record Leads).holds (checkFleet now raw) (fun _ _ => True) _
    refine Context.holds_mono (holds_aloneOwing_of_stable (I := fun log => listing log ≠ none)
      (fun c log h => .inr h) ?_ (Option.some_ne_none raw)) fun _ _ _ => trivial
    rintro c log r _ h rfl
    exact listing_cons_ne_none h

def Led : PassLog → Prop
  | [] => True
  | ⟨c, _⟩ :: log => Leads c log ∧ (c = .guacListAllConnectionRecords → records log ≠ none) ∧ Led log

theorem led_of_run {w : DriftWorld} {s : DriftSystem} (hrun : DriftRun (.idle w) s) : Led s.log := by
  induction hrun with
  | refl => trivial
  | tail hrun hstep ih =>
      cases hstep with
      | begin now hidle => trivial
      | @observe c next r w' hpass hserved =>
          have hleads := (holds_aloneOwing_call.mp (owes_of_run pass_leads hrun hpass)).1
          refine ⟨hleads, ?_, ih⟩
          rintro rfl
          exact passOwes_of_run hrun hpass
      | finish hpass => exact ih
      | request hrequest => exact ih
      | act htasks hserved => exact ih
      | others hfindings => exact ih

theorem Led.suffix {newer log : PassLog} (h : Led (newer ++ log)) : Led log := by
  induction newer with
  | nil => exact h
  | cons e newer ih => exact ih h.2.2

theorem Led.preliminary {log : PassLog} (h : Led log) (hlisting : listing log = none) :
    ∀ e ∈ log, e.1.isPreliminary = true := by
  induction log with
  | nil => exact fun _ he => absurd he List.not_mem_nil
  | cons e log ih =>
      have hnone : listing log = none :=
        Classical.byContradiction fun hsome => listing_cons_ne_none hsome hlisting
      refine List.forall_mem_cons.mpr ⟨?_, ih h.2.2 hnone⟩
      exact h.1.resolve_right fun hsome => hsome hnone

theorem Led.no_connections {log : PassLog} (h : Led log) (hrecords : records log = none) :
    ∀ e ∈ log, e.1 ≠ .guacListAllConnectionRecords := by
  induction log with
  | nil => exact fun _ he => absurd he List.not_mem_nil
  | cons e log ih =>
      have hnone : records log = none := by
        unfold records at hrecords
        rw [List.findSome?_cons] at hrecords
        split at hrecords
        · cases hrecords
        · exact hrecords
      exact List.forall_mem_cons.mpr ⟨fun hguac => h.2.1 hguac hnone, ih h.2.2 hnone⟩

/-! ## What rests on later observations -/

section recent

variable {newer log : PassLog} {vm : VmRow} {dim : DriftDimension} {findings : List Detected}
  {d : Detected}

theorem records_of_preliminary (h : ∀ e ∈ log, e.1.isPreliminary = true) : records log = none := by
  refine List.findSome?_eq_none_iff.mpr ?_
  rintro ⟨c, r⟩ he
  have hc := h _ he
  cases c <;> first | rfl | cases hc

theorem exempt_of_preliminary (h : ∀ e ∈ log, e.1.isPreliminary = true) : exempt log = none := by
  refine List.findSome?_eq_none_iff.mpr ?_
  rintro ⟨c, r⟩ he
  have hc := h _ he
  cases c <;> first | rfl | cases hc

theorem listing_append (hlisting : listing log = none) : listing (newer ++ log) = listing newer := by
  unfold listing at hlisting ⊢
  rw [List.findSome?_append, hlisting, Option.or_none]

theorem records_append (hrecords : records log = none) : records (newer ++ log) = records newer := by
  unfold records at hrecords ⊢
  rw [List.findSome?_append, hrecords, Option.or_none]

theorem exempt_append (hexempt : exempt log = none) : exempt (newer ++ log) = exempt newer := by
  unfold exempt at hexempt ⊢
  rw [List.findSome?_append, hexempt, Option.or_none]

theorem tracked_append (h : ∀ e ∈ log, e.1.isPreliminary = true) :
    tracked (newer ++ log) = tracked newer := by
  unfold tracked
  rw [records_append (records_of_preliminary h), exempt_append (exempt_of_preliminary h)]

theorem Ran.recent (h : ∀ e ∈ log, e.1.isPreliminary = true) (hlisting : listing log = none)
    (hran : Ran (newer ++ log) vm dim findings) : Ran newer vm dim findings := by
  have hmem : ∀ {c : DriftCall} {r : Except Failure c.Reply}, c.isPreliminary = false →
      ⟨c, r⟩ ∈ newer ++ log → ⟨c, r⟩ ∈ newer := by
    intro c r hc he
    refine (List.mem_append.mp he).resolve_right fun hold => ?_
    rw [h _ hold] at hc
    cases hc
  have htracked : ∀ {vm}, Tracked (newer ++ log) vm → Tracked newer vm := by
    rintro vm ⟨vms, hvms, hvm⟩
    exact ⟨vms, (tracked_append h).symm.trans hvms, hvm⟩
  have hlists : listing newer = listing (newer ++ log) := (listing_append hlisting).symm
  cases hran with
  | listed hvm hraw hlisted => exact .listed (htracked hvm) (hlists.trans hraw) hlisted
  | missing hvms hvm hraw hwhole habsent =>
      exact .missing ((tracked_append h).symm.trans hvms) hvm (hlists.trans hraw) hwhole habsent
  | config hvm hraw hlive => exact .config (htracked hvm) (hlists.trans hraw) hlive
  | hw hvm hraw hlive hcfg hstate husable =>
      exact .hw (htracked hvm) (hlists.trans hraw) hlive (hmem rfl hcfg) (hmem rfl hstate) husable
  | ip hvm hraw hlive hagent husable =>
      exact .ip (htracked hvm) (hlists.trans hraw) hlive (hmem rfl hagent) husable
  | noCredential hvm hraw hlive hrunning hcred =>
      exact .noCredential (htracked hvm) (hlists.trans hraw) hlive hrunning (hmem rfl hcred)
  | accepted hvm hip hprobe hstatus => exact .accepted (htracked hvm) hip (hmem rfl hprobe) hstatus
  | rejected hvm hip hprobe hstatus => exact .rejected (htracked hvm) hip (hmem rfl hprobe) hstatus
  | guac hrecords hconnections =>
      exact .guac ((records_append (records_of_preliminary h)).symm.trans hrecords)
        (hmem rfl hconnections)

theorem Supported.recent (hled : Led log) (hlisting : listing log = none)
    (h : Supported (newer ++ log) d) : Supported newer d := by
  obtain ⟨vm, dim, findings, hran, hd⟩ := h
  exact ⟨vm, dim, findings, hran.recent (hled.preliminary hlisting) hlisting, hd⟩

theorem Supported.recent_orphan (hled : Led log) (hrecords : records log = none) {id : ConnectionId}
    (hfp : d.fingerprint = (Fingerprint.guac id).text) (h : Supported (newer ++ log) d) :
    Supported newer d := by
  obtain ⟨vm, dim, findings, hran, hd⟩ := h
  obtain ⟨f, hf, hdim, -⟩ := hran.shaped hd
  have hsame : f = .guac id := Fingerprint.text_injective (hf.symm.trans hfp)
  rw [hsame] at hdim
  subst hdim
  cases hran with
  | guac hread hconnections =>
      refine ⟨vm, .guac, _, .guac ((records_append hrecords).symm.trans hread) ?_, hd⟩
      exact (List.mem_append.mp hconnections).resolve_right fun hold =>
        hled.no_connections hrecords _ hold rfl

end recent

/-! ## Remediations beside a pass -/

structure Follows (log log' : PassLog) : Prop where
  longer : ∃ newer, log' = newer ++ log
  listing : listing log ≠ none → ProxVM.listing log' = ProxVM.listing log
  records : records log ≠ none → ProxVM.records log' = ProxVM.records log
  exempt : exempt log ≠ none → ProxVM.exempt log' = ProxVM.exempt log

theorem Follows.refl (log : PassLog) : Follows log log :=
  ⟨⟨[], rfl⟩, fun _ => rfl, fun _ => rfl, fun _ => rfl⟩

theorem Follows.cons {c : DriftCall} {log log' : PassLog} (r : Except Failure c.Reply)
    (h : Follows log log') (howes : PassOwes c log') : Follows log (⟨c, r⟩ :: log') := by
  obtain ⟨newer, hnewer⟩ := h.longer
  refine ⟨⟨⟨c, r⟩ :: newer, by rw [hnewer, List.cons_append]⟩, fun hsome => ?_, fun hsome => ?_,
    fun hsome => ?_⟩
  · have hkept := h.listing hsome
    cases c with
    | clusterResources => exact absurd (hkept.symm.trans howes) hsome
    | _ => exact hkept
  · have hkept := h.records hsome
    cases c with
    | vmsList => exact absurd (hkept.symm.trans howes.2) hsome
    | _ => exact hkept
  · have hkept := h.exempt hsome
    cases c with
    | jobsActiveJobVmIds => exact absurd (hkept.symm.trans howes) hsome
    | _ => exact hkept

def MayDetect (log : PassLog) (fingerprint : String) : Prop :=
  ∃ log' d, Follows log log' ∧ d.fingerprint = fingerprint ∧ Supported log' d

/-- A remediation may resolve the finding when the running pass has come this far: it has read
nothing yet that goes into the detection, or has persisted what it has detected, or can no
longer detect the finding. -/
def Harmless (log : PassLog) (fingerprint : String) : Prop :=
  (listing log = none ∨ records log = none ∧ ∃ id, fingerprint = (Fingerprint.guac id).text) ∨
    activeRows log ≠ none ∨ ¬ MayDetect log fingerprint

def CalmStep (s s' : DriftSystem) : Prop :=
  DriftStep s s' ∧ (s.pass.isSome = true → ∀ entry ∈ s'.settled,
    entry ∈ s.settled ∨ Harmless s.log entry.1)

def GuacConnectionRow.orphan : GuacConnectionRow := ⟨5, 99, "old"⟩

def DriftWorld.sampleOrphan : DriftWorld :=
  { DriftWorld.sample with
    base := { DriftWorld.sample.base with db := { DriftWorld.sample.base.db with vms := Table.empty } }
    findings := ⟨[(orphanFinding .orphan).newRow 1 900], by decide⟩ }

def DriftFates.orphaned : DriftFates
  | .guacListAllConnectionRecords => .answer [.orphan]
  | c => DriftFates.listing [] c

namespace DriftSystem

variable {w : DriftWorld} {s : DriftSystem}

def Reopens (s : DriftSystem) (d : Detected) : Prop :=
  (∃ now next, s.pass = some (.call (.refreshFinding d now) next)) ∧
    ∃ row ∈ s.world.findings, row.fingerprint = d.fingerprint ∧ row.status = .resolved

theorem run_of_calm (hrun : Relation.ReflTransGen CalmStep (.idle w) s) : DriftRun (.idle w) s :=
  Relation.ReflTransGen.mono (fun _ _ h => h.1) _ _ hrun

theorem settled_harmless (hrun : Relation.ReflTransGen CalmStep (.idle w) s)
    (hpass : s.pass.isSome = true) : ∀ entry ∈ s.settled,
      Follows entry.2 s.log ∧ Harmless entry.2 entry.1 := by
  induction hrun with
  | refl => cases hpass
  | tail hbefore hcalm ih =>
      obtain ⟨hstep, hharmless⟩ := hcalm
      cases hstep with
      | begin now hidle => exact fun _ h => absurd h List.not_mem_nil
      | @observe c next r w' hcall hserved =>
          have howes := passOwes_of_run (run_of_calm hbefore) hcall
          intro entry hentry
          obtain ⟨hfollows, hsafe⟩ := ih (by rw [hcall]; rfl) entry hentry
          exact ⟨hfollows.cons r howes, hsafe⟩
      | finish hover => cases hpass
      | request hrequest => exact ih hpass
      | @act before after c next r w' htasks hserved =>
          intro entry hentry
          obtain hold | hsafe := hharmless hpass entry hentry
          · exact ih hpass entry hold
          · obtain hnew | hold := List.mem_append.mp hentry
            · obtain ⟨fingerprint, -, rfl⟩ := Option.map_eq_some_iff.mp (Option.mem_toList.mp hnew)
              exact ⟨.refl _, hsafe⟩
            · exact ih hpass entry hold
      | others hfindings => exact ih hpass

/-- **No stale re-opening.**  In every run in which the remediations act when the running pass
is not disturbed by it, whatever a pass opens again after a remediation has resolved it is
supported by what the pass has observed since. -/
theorem no_stale_reopening (hrun : Relation.ReflTransGen CalmStep (.idle w) s) {d : Detected}
    (hreopens : s.Reopens d) {log : PassLog} (hsettled : (d.fingerprint, log) ∈ s.settled) :
    ∃ newer, s.log = newer ++ log ∧ Supported newer d := by
  obtain ⟨⟨now, next, hpass⟩, -⟩ := hreopens
  have hrun' := run_of_calm hrun
  obtain ⟨hsupported, hactive⟩ := passOwes_of_run hrun' hpass
  obtain ⟨hfollows, hsafe⟩ := settled_harmless hrun (by rw [hpass]; rfl) _ hsettled
  obtain ⟨newer, hnewer⟩ := hfollows.longer
  have hled : Led log := (hnewer ▸ led_of_run hrun').suffix
  refine ⟨newer, hnewer, ?_⟩
  obtain (hunread | ⟨hunread, id, hid⟩) | hover | hcannot := hsafe
  · exact (hnewer ▸ hsupported).recent hled hunread
  · exact (hnewer ▸ hsupported).recent_orphan hled hunread hid
  · -- the upserts are over
    refine absurd ?_ hover
    rw [hnewer] at hactive
    unfold activeRows at hactive ⊢
    rw [List.findSome?_append, Option.or_eq_none_iff] at hactive
    exact hactive.2
  · exact absurd ⟨s.log, d, hfollows, rfl, hsupported⟩ hcannot

/-! ### Runs -/

def sampleOrphaned : DriftSystem :=
  ((((idle .sampleOrphan).begin 2000).taskRun .orphaned 20
    (Remediation.deleteOrphan.prog 1 .root 2100)).passRun .orphaned 7)

theorem sampleOrphaned_run : Relation.ReflTransGen CalmStep (.idle .sampleOrphan) sampleOrphaned := by
  have hquiet : ∀ s s', ByPass s s' → CalmStep s s' := fun _ _ h =>
    ⟨h.step, fun _ entry hentry => .inl (h.settled hentry)⟩
  have hbegun := run_begin hquiet 2000 (s := .idle .sampleOrphan) .refl rfl
  refine run_passRun hquiet .orphaned 7 (run_taskRun (fun s₁ s₂ h => ?_) .orphaned 20 hbegun
    (.remediation .deleteOrphan 1 .root 2100))
  refine ⟨h.step, fun _ _ _ => .inr (.inl (.inl ?_))⟩
  rw [h.before]
  rfl

theorem reopens_of_pending {d : Detected} (now : Time)
    (hpending : s.pass.bind Prog.pending? = some (.refreshFinding d now))
    (hresolved : (s.world.findings.find? d.fingerprint).map DriftFindingRow.status = some .resolved) :
    s.Reopens d := by
  obtain ⟨next, hpass⟩ := pass_of_pending hpending
  obtain ⟨row, hfind, hstatus⟩ := Option.map_eq_some_iff.mp hresolved
  exact ⟨⟨now, next, hpass⟩, row, Table.mem_of_find? hfind, Table.key_of_find? hfind, hstatus⟩

theorem no_stale_reopening_sample :
    ∃ newer, sampleOrphaned.log = newer ++ [] ∧ Supported newer (orphanFinding .orphan) :=
  no_stale_reopening sampleOrphaned_run
    (reopens_of_pending 2000 rfl (by decide +kernel)) List.mem_cons_self

def sampleLooked : DriftSystem := ((idle .sampleMissing).begin 2000).passRun (.listing []) 5

def sampleReopened : DriftSystem :=
  (sampleLooked.taskRun (.listing []) 20 (Remediation.decommission.prog 1 .root 2100)).passRun
    (.listing []) 2

theorem sampleReopened_run : DriftRun (.idle .sampleMissing) sampleReopened := by
  have hstep : ∀ s s', ByPass s s' → DriftStep s s' := fun _ _ h => h.step
  have hlooked := run_passRun hstep (.listing []) 5
    (run_begin hstep 2000 (s := .idle .sampleMissing) .refl rfl)
  exact run_passRun hstep (.listing []) 2 (run_taskRun (fun _ _ h => h.step) (.listing []) 20 hlooked
    (.remediation .decommission 1 .root 2100))

/-- The finding about the missing guest is opened again by a pass that had looked at the
cluster and at the records before the VM was decommissioned. -/
theorem reopened_stale : ¬ ∀ (w : DriftWorld) (s : DriftSystem), DriftRun (.idle w) s →
      ∀ (d : Detected) (log : PassLog), s.Reopens d → (d.fingerprint, log) ∈ s.settled →
        ∃ newer, s.log = newer ++ log ∧ Supported newer d := by
  intro hclaim
  have hreopens : sampleReopened.Reopens (deletedFinding .web) :=
    reopens_of_pending 2000 rfl (by decide +kernel)
  obtain ⟨newer, hlog, hsupported⟩ := hclaim _ _ sampleReopened_run (deletedFinding .web)
    sampleLooked.log hreopens List.mem_cons_self
  have hnewer : newer = sampleReopened.log.take 2 := by
    have hlength : newer.length = 2 := by
      have := congrArg List.length hlog
      rw [List.length_append] at this
      have hall : sampleReopened.log.length = 7 := rfl
      have hold : sampleLooked.log.length = 5 := rfl
      omega
    rw [hlog, ← hlength, List.take_left']
    rfl
  obtain ⟨vm, dim, findings, hran, hd⟩ := hsupported
  obtain ⟨f, hf, hdim, -⟩ := hran.shaped hd
  have hsame : f = .deleted 30 := Fingerprint.text_injective hf.symm
  rw [hsame] at hdim
  subst hdim
  cases hran with
  | listed hvm hraw hlisted => cases hd
  | missing hvms hvm hraw hwhole habsent =>
      rw [hnewer] at hraw
      cases hraw

end DriftSystem

end ProxVM
