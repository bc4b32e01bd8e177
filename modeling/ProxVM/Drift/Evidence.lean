import ProxVM.Drift.System

/-!
# What a pass resolves

An auto-resolution says that drift is gone, so it should rest on a check that ran.
`PassState` keeps the dimensions whose check did not complete, but two checks are
skipped without such a mark (`Unchecked`): the comparison of name and node of a VM
that the cluster does not list, and the deletion check under a partial cluster view.
-/

namespace ProxVM

open Tables Interaction

/-! ## Which calls resolve -/

section served

variable {c : DriftCall} {w w' : DriftWorld} {r : Except Failure c.Reply}
  {row row' : DriftFindingRow}

theorem DriftServed.resolved (hserved : DriftServed c w r w') (hrow : row ∈ w.findings)
    (hactive : row.status.isActive = true) (hrow' : row' ∈ w'.findings)
    (hfp : row'.fingerprint = row.fingerprint) (hresolved : row'.status = .resolved) :
    (∃ fingerprints now, c = .autoResolveFindings fingerprints now ∧ row.fingerprint ∈ fingerprints) ∨
    ∃ fingerprint actor now, c = .resolveFinding fingerprint actor now := by
  have hstatus : row.status ≠ .resolved := DriftStatus.isActive_iff.mp hactive
  have hunchanged : w'.findings = w.findings → False := fun hsame => by
    rw [hsame] at hrow'
    rw [Table.eq_of_key_eq hrow' hrow hfp] at hresolved
    exact hstatus hresolved
  cases hwrites : c.writesFindings with
  | false => exact (hunchanged (hserved.frame.findings hwrites)).elim
  | true =>
      have hbase : c.isBase = false := by
        cases c with
        | base b => cases hwrites
        | _ => rfl
      obtain ⟨e, -, rfl⟩ | ⟨given, hanswer⟩ := hserved.cases hbase
      · exact (hunchanged rfl).elim
      · cases c with
        | insertFinding id d =>
            change DriftWorld.insertFinding _ _ _ = _ at hanswer
            unfold DriftWorld.insertFinding at hanswer
            split at hanswer
            · split at hanswer
              · rename_i findings hins
                cases hanswer
                obtain ⟨-, -, hmem⟩ := Findings.insertNew_eq_some hins
                obtain hold | rfl := (hmem row').mp hrow'
                · rw [Table.eq_of_key_eq hold hrow hfp] at hresolved
                  exact absurd hresolved hstatus
                · cases hresolved
              · cases hanswer
                exact (hunchanged rfl).elim
            · cases hanswer
              exact (hunchanged rfl).elim
        | refreshFinding d now =>
            cases hanswer
            obtain ⟨row₀, hrow₀, rfl⟩ := Findings.mem_refreshRow.mp hrow'
            split at hfp
            · next hchosen =>
                cases Table.eq_of_key_eq hrow₀ hrow hfp
                rw [if_pos hchosen] at hresolved
                simp [DriftFindingRow.refresh, hstatus] at hresolved
            · next hspared =>
                cases Table.eq_of_key_eq hrow₀ hrow hfp
                rw [if_neg hspared] at hresolved
                exact absurd hresolved hstatus
        | autoResolveFindings fingerprints now =>
            cases hanswer
            refine .inl ⟨fingerprints, now, rfl, ?_⟩
            obtain ⟨row₀, hrow₀, rfl⟩ := Findings.mem_autoResolve.mp hrow'
            split at hfp
            · next hchosen =>
                cases Table.eq_of_key_eq hrow₀ hrow hfp
                exact hchosen.1
            · next hspared =>
                cases Table.eq_of_key_eq hrow₀ hrow hfp
                rw [if_neg hspared] at hresolved
                exact absurd hresolved hstatus
        | resolveFinding fingerprint actor now => exact .inr ⟨fingerprint, actor, now, rfl⟩
        | acknowledgeFinding id actor now =>
            cases hanswer
            obtain ⟨row₀, hrow₀, rfl⟩ := Findings.mem_acknowledge.mp hrow'
            split at hfp
            · next hchosen =>
                rw [if_pos hchosen] at hresolved
                cases hresolved
            · next hspared =>
                cases Table.eq_of_key_eq hrow₀ hrow hfp
                rw [if_neg hspared] at hresolved
                exact absurd hresolved hstatus
        | _ => cases hwrites

end served

/-! ## What counts as evidence -/

section evidence

variable {log : PassLog} {v : VmId} {row row' : DriftFindingRow}

theorem not_evidence_of_unchecked (h : Unchecked log v row) : ¬ Evidence log v row := by
  obtain ⟨raw, vms, hraw, hvms, ⟨vm, hvm, hid⟩, hskipped⟩ := h
  rintro (⟨hrecords, hgone⟩ | ⟨⟨vms', hvms', hvm'⟩, hid', hran, -⟩)
  · unfold tracked at hvms
    rw [hrecords] at hvms
    split at hvms
    · next hrecords' hexempt =>
        cases hrecords'
        cases hvms
        exact hgone (List.mem_map.mpr ⟨vm, (List.mem_filter.mp hvm).1, hid⟩)
    · cases hvms
  · cases hvms.symm.trans hvms'
    obtain ⟨hdim, habsent⟩ | ⟨hdim, hdegraded, habsent⟩ := hskipped
    · rw [hdim] at hran
      cases hran with
      | config hvm₂ hraw₂ hlive =>
          cases hraw.symm.trans hraw₂
          rw [habsent _ hvm' hid'] at hlive
          cases hlive
    · rw [hdim] at hran
      cases hran with
      | listed hvm₂ hraw₂ hlisted =>
          cases hraw.symm.trans hraw₂
          rw [habsent _ hvm' hid'] at hlisted
          cases hlisted
      | missing hvms₂ hvm₂ hraw₂ hwhole habsent₂ =>
          cases hraw.symm.trans hraw₂
          cases hvms.symm.trans hvms₂
          rw [hdegraded] at hwhole
          cases hwhole

theorem Evidence.of_same (hsame : row.Same row') (h : Evidence log v row) : Evidence log v row' := by
  cases h with
  | recordGone hrecords hgone => exact .recordGone hrecords hgone
  | notReproduced hvm hid hran hnot =>
      refine .notReproduced hvm hid ?_ (by rw [hsame.fingerprint]; exact hnot)
      rw [hsame.dimension]
      exact hran

theorem unchecked_congr (hsame : row.Same row') : Unchecked log v row' ↔ Unchecked log v row := by
  unfold Unchecked
  rw [hsame.dimension]

end evidence

/-! ## The auto-resolution -/

def Listed (log : PassLog) (row : DriftFindingRow) : Prop :=
  ∃ active, activeRows log = some active ∧ row.fingerprint ∈ active.map DriftFindingRow.fingerprint

namespace DriftSystem

variable {w : DriftWorld} {s : DriftSystem} {row : DriftFindingRow}

/-- The next call of the pass may set the finding `RESOLVED`. -/
def PassResolves (s : DriftSystem) (row : DriftFindingRow) : Prop :=
  ∃ (c : DriftCall) (next : Except Failure c.Reply → DriftTask DriftPassResult)
    (r : Except Failure c.Reply) (w' : DriftWorld),
    s.pass = some (.call c next) ∧ DriftServed c s.world r w' ∧
      ∃ row' ∈ w'.findings, row'.fingerprint = row.fingerprint ∧ row'.status = .resolved

def AboutToResolve (s : DriftSystem) : Prop :=
  ∃ fingerprints now next, s.pass = some (.call (.autoResolveFindings fingerprints now) next)

theorem Inv.same_of_listed (hinv : s.Inv) {active : List DriftFindingRow}
    (hactive : activeRows s.log = some active) {row₀ : DriftFindingRow} (hrow₀ : row₀ ∈ active)
    (hrow : row ∈ s.world.findings) (hfp : row₀.fingerprint = row.fingerprint) : row₀.Same row := by
  obtain ⟨row', hrow', hsame⟩ := hinv.listed active hactive row₀ hrow₀
  rwa [Table.eq_of_key_eq hrow' hrow (hsame.fingerprint.trans hfp)] at hsame

theorem evidence_or_unchecked (hempty : w.findings = Table.empty) (hrun : DriftRun (.idle w) s)
    (hrow : row ∈ s.world.findings) (hactive : row.status.isActive = true) (hresolves : s.PassResolves row) :
    s.AboutToResolve ∧ Listed s.log row ∧
      ∀ v, row.vmId = some v → Evidence s.log v row ∨ Unchecked s.log v row := by
  obtain ⟨c, next, r, w', hpass, hserved, row', hrow', hfp, hresolved⟩ := hresolves
  have hinv := inv_of_run hempty hrun
  have howes := passOwes_of_run hrun hpass
  obtain ⟨fingerprints, now, rfl, hmem⟩ | ⟨fingerprint, actor, now, rfl⟩ :=
    hserved.resolved hrow hactive hrow' hfp hresolved
  · obtain ⟨stale, active, hread, rfl, hreason⟩ := howes
    obtain ⟨row₀, hrow₀, hfp₀⟩ := List.mem_map.mp hmem
    obtain ⟨hrow₀, hstale⟩ := List.mem_filter.mp hrow₀
    have hsame : row₀.Same row := hinv.same_of_listed hread hrow₀ hrow hfp₀
    refine ⟨⟨_, now, next, hpass⟩, ⟨active, hread, List.mem_map.mpr ⟨row₀, hrow₀, hfp₀⟩⟩, ?_⟩
    intro v hv
    have hv₀ : row₀.vmId = some v := hsame.vmId ▸ hv
    exact ((hreason row₀ hrow₀ v hv₀).1 hstale).imp (.of_same hsame) (unchecked_congr hsame).mpr
  · exact howes.elim

theorem resolves_of_unchecked (hempty : w.findings = Table.empty) (hrun : DriftRun (.idle w) s)
    (habout : s.AboutToResolve) (hrow : row ∈ s.world.findings) (hactive : row.status.isActive = true)
    (hlisted : Listed s.log row) {v : VmId} (hv : row.vmId = some v)
    (hunchecked : Unchecked s.log v row) : s.PassResolves row := by
  obtain ⟨fingerprints, now, next, hpass⟩ := habout
  obtain ⟨active, hread, hlisted⟩ := hlisted
  have hinv := inv_of_run hempty hrun
  obtain ⟨stale, active', hread', rfl, hreason⟩ := passOwes_of_run hrun hpass
  cases hread.symm.trans hread'
  obtain ⟨row₀, hrow₀, hfp₀⟩ := List.mem_map.mp hlisted
  have hsame : row₀.Same row := hinv.same_of_listed hread hrow₀ hrow hfp₀
  have hshaped : ShapedAs row₀.fingerprint row₀.dimension row₀.vmId := by
    have hshape := hinv.shaped row hrow
    rwa [hsame.fingerprint, hsame.dimension, hsame.vmId] at hshape
  have hstale : stale row₀ = true := (hreason row₀ hrow₀ v (hsame.vmId ▸ hv)).2 hshaped
    ((unchecked_congr hsame).mp hunchecked)
  have hmem : row.fingerprint ∈ (active.filter stale).map DriftFindingRow.fingerprint := by
    rw [hsame.fingerprint]
    exact List.mem_map.mpr ⟨row₀, List.mem_filter.mpr ⟨hrow₀, hstale⟩, rfl⟩
  -- the statement may be answered, and then the row is resolved
  exact ⟨.autoResolveFindings _ now, next, _, _, hpass, ⟨trivial, .answer 0, rfl⟩, _,
    Findings.mem_autoResolve.mpr ⟨row, hrow, (if_pos ⟨hmem, hactive⟩).symm⟩, rfl, rfl⟩

/-- **The evidence of auto-resolutions.**  In every state of every run, a pass sets an active
finding `RESOLVED` only if its check ran to its end and did not reproduce it or the record of
its VM is gone, if and only if none of the active findings about to be judged is one whose
check the pass has skipped without a mark. -/
theorem auto_resolution_evidence (hempty : w.findings = Table.empty) (hrun : DriftRun (.idle w) s) :
    (∀ row ∈ s.world.findings, row.status.isActive = true → s.PassResolves row →
      ∀ v, row.vmId = some v → Evidence s.log v row) ↔
    (s.AboutToResolve → ∀ row ∈ s.world.findings, row.status.isActive = true → Listed s.log row →
      ∀ v, row.vmId = some v → ¬ Unchecked s.log v row) := by
  constructor
  · intro hevidence habout row hrow hactive hlisted v hv hunchecked
    have hresolves := resolves_of_unchecked hempty hrun habout hrow hactive hlisted hv hunchecked
    exact not_evidence_of_unchecked hunchecked (hevidence row hrow hactive hresolves v hv)
  · intro hchecked row hrow hactive hresolves v hv
    obtain ⟨habout, hlisted, hreason⟩ := evidence_or_unchecked hempty hrun hrow hactive hresolves
    exact (hreason v hv).resolve_right (hchecked habout row hrow hactive hlisted v hv)

end DriftSystem

/-! ## A name that was never compared -/

def DriftCall.isAutoResolve : DriftCall → Bool
  | .autoResolveFindings _ _ => true
  | _ => false

theorem DriftSystem.aboutToResolve_of_pending {s : DriftSystem}
    (hpending : (s.pass.bind Prog.pending?).any DriftCall.isAutoResolve = true) : s.AboutToResolve := by
  obtain ⟨c, hc, hauto⟩ := (Option.any_eq_true _ _).mp hpending
  obtain ⟨next, hpass⟩ := pass_of_pending hc
  cases c with
  | autoResolveFindings fingerprints now => exact ⟨fingerprints, now, next, hpass⟩
  | _ => cases hauto

def ProxmoxQemuResource.renamed : ProxmoxQemuResource := { ProxmoxQemuResource.web with name := some "www" }

def DriftFates.vanished : DriftFates
  | .newId => .answer 2
  | c => DriftFates.listing [] c

def DriftSystem.sampleVanished : DriftSystem :=
  ((((DriftSystem.idle .sample).begin 1000).passRun (.listing [.renamed]) 18).finish.begin
    2000).passRun .vanished 10

theorem DriftSystem.sampleVanished_run : DriftRun (.idle .sample) .sampleVanished := by
  have hstep : ∀ s s', ByPass s s' → DriftStep s s' := fun _ _ h => h.step
  have hrenamed := run_passRun hstep (.listing [.renamed]) 18
    (run_begin hstep 1000 (s := .idle .sample) .refl rfl)
  exact run_passRun hstep .vanished 10
    (run_begin hstep 2000 (run_finish hstep hrenamed) (by decide +kernel))

theorem DriftSystem.auto_resolution_evidence_sample :
    (∀ row ∈ sampleVanished.world.findings, row.status.isActive = true → sampleVanished.PassResolves row →
        ∀ v, row.vmId = some v → Evidence sampleVanished.log v row) ↔
    (sampleVanished.AboutToResolve → ∀ row ∈ sampleVanished.world.findings,
      row.status.isActive = true → Listed sampleVanished.log row →
        ∀ v, row.vmId = some v → ¬ Unchecked sampleVanished.log v row) :=
  auto_resolution_evidence rfl sampleVanished_run

/-- The finding about the name of the sample VM is resolved although no pass has compared
the name since. -/
theorem DriftSystem.auto_resolution_unchecked :
    ¬ ∀ (w : DriftWorld) (s : DriftSystem), w.findings = Table.empty → DriftRun (.idle w) s →
      ∀ row ∈ s.world.findings, row.status.isActive = true → s.PassResolves row →
        ∀ v, row.vmId = some v → Evidence s.log v row := by
  intro hclaim
  have hrow : (sampleVanished.world.findings.find? "config:30:name").map (fun row =>
      (row.status.isActive, row.dimension, row.vmId)) = some (true, .config, some 30) := by
    decide +kernel
  obtain ⟨row, hfind, hrow⟩ := Option.map_eq_some_iff.mp hrow
  obtain ⟨hactive, hdimension, hvmId⟩ : row.status.isActive = true ∧ row.dimension = .config ∧
      row.vmId = some 30 := by simpa using hrow
  have hmem : row ∈ sampleVanished.world.findings := Table.mem_of_find? hfind
  have hread : (activeRows sampleVanished.log).map (List.map DriftFindingRow.fingerprint) =
      some ["config:30:name", "deleted:30"] := by decide +kernel
  obtain ⟨active, hread, hfps⟩ := Option.map_eq_some_iff.mp hread
  have hlisted : Listed sampleVanished.log row := by
    refine ⟨active, hread, ?_⟩
    rw [hfps, Table.key_of_find? hfind]
    exact List.mem_cons_self
  have hunchecked : Unchecked sampleVanished.log 30 row :=
    ⟨[], [.web], by decide +kernel, by decide +kernel, ⟨.web, List.mem_singleton.mpr rfl, rfl⟩,
      .inl ⟨hdimension, fun _ _ _ => rfl⟩⟩
  have hresolves := resolves_of_unchecked rfl sampleVanished_run
    (aboutToResolve_of_pending (by decide +kernel)) hmem hactive hlisted hvmId hunchecked
  exact not_evidence_of_unchecked hunchecked
    (hclaim _ _ rfl sampleVanished_run row hmem hactive hresolves 30 hvmId)

end ProxVM
