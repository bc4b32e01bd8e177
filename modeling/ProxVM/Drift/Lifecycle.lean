import ProxVM.Drift.Simulation

/-!
# The lifecycle of a drift finding

`OPEN → ACKNOWLEDGED → RESOLVED`, and back to `OPEN` when the drift comes back.
-/

namespace ProxVM

open Tables Interaction

/-! ## What a statement does to a row -/

structure DriftFindingRow.Advances (row row' : DriftFindingRow) : Prop where
  id : row'.id = row.id
  fingerprint : row'.fingerprint = row.fingerprint
  vmId : row'.vmId = row.vmId
  dimension : row'.dimension = row.dimension
  occurrences : row'.occurrences =
    row.occurrences + if row.status = .resolved ∧ row'.status = .opened then 1 else 0
  stamped : (row.resolvedAt.isSome ↔ row.status = .resolved) →
    (row'.resolvedAt.isSome ↔ row'.status = .resolved)

structure DriftFindingRow.IsFresh (row : DriftFindingRow) : Prop where
  occurrences : row.occurrences = 1
  status : row.status = .opened
  resolvedAt : row.resolvedAt = none

theorem DriftFindingRow.Advances.refl (row : DriftFindingRow) : row.Advances row where
  id := rfl
  fingerprint := rfl
  vmId := rfl
  dimension := rfl
  occurrences := by
    have hnot : ¬ (row.status = .resolved ∧ row.status = .opened) := by
      rintro ⟨hresolved, hopened⟩
      rw [hresolved] at hopened
      cases hopened
    rw [if_neg hnot, Nat.add_zero]
  stamped := fun h => h

theorem DriftFindingRow.advances_refresh (row : DriftFindingRow) (d : Detected) (now : Time) :
    row.Advances (row.refresh d now) where
  id := rfl
  fingerprint := rfl
  vmId := rfl
  dimension := rfl
  occurrences := by
    cases hstatus : row.status <;> simp [refresh, hstatus]
  stamped := by
    intro hstamped
    cases hstatus : row.status <;> simp [refresh, hstatus] at hstamped ⊢ <;> exact hstamped

variable {row row' : DriftFindingRow} {c : DriftCall} {w w' : DriftWorld} {fingerprint : String} {o o' : Ledger}
  {detected : List Detected} {opts : ApplyOpts} {active : List DriftFindingRow} {id : FindingId} {now : Time}
  {counts counts' : ApplyCounts}

theorem DriftFindingRow.advances_resolve (hid : row'.id = row.id)
    (hfingerprint : row'.fingerprint = row.fingerprint) (hvmId : row'.vmId = row.vmId)
    (hdimension : row'.dimension = row.dimension) (hoccurrences : row'.occurrences = row.occurrences)
    (hstatus : row'.status = .resolved) (hresolvedAt : row'.resolvedAt.isSome) : row.Advances row' where
  id := hid
  fingerprint := hfingerprint
  vmId := hvmId
  dimension := hdimension
  occurrences := by simp [hoccurrences, hstatus]
  stamped := fun _ => by simp [hstatus, hresolvedAt]

/-! ## What a statement does to the table -/

structure Findings.Evolves (t t' : Findings) : Prop where
  old : ∀ row ∈ t, ∃ row' ∈ t', row.Advances row'
  new : ∀ row' ∈ t', (∃ row ∈ t, row.Advances row') ∨
    (row'.IsFresh ∧ ∀ row ∈ t, row.fingerprint ≠ row'.fingerprint)
  ids : (t.rows.map DriftFindingRow.id).Nodup → (t'.rows.map DriftFindingRow.id).Nodup

namespace Findings

variable {t t' : Findings}

theorem Evolves.refl (t : Findings) : t.Evolves t where
  old := fun row hrow => ⟨row, hrow, .refl row⟩
  new := fun row hrow => .inl ⟨row, hrow, .refl row⟩
  ids := fun h => h

theorem evolves_updateWhere {p : DriftFindingRow → Bool} {f : DriftFindingRow → DriftFindingRow}
    {hkey : ∀ row, (f row).fingerprint = row.fingerprint} (hid : ∀ row, (f row).id = row.id)
    (hadvances : ∀ row ∈ t, p row = true → row.Advances (f row)) : t.Evolves (t.updateWhere p f hkey) := by
  have hrow : ∀ row ∈ t, row.Advances (if p row then f row else row) := by
    intro row hrow
    cases hp : p row with
    | true => simpa using hadvances row hrow hp
    | false => simpa using DriftFindingRow.Advances.refl row
  refine ⟨fun row h => ⟨_, Table.mem_updateWhere.mpr ⟨row, h, rfl⟩, hrow row h⟩, ?_, ?_⟩
  · intro row' hrow'
    obtain ⟨row, h, rfl⟩ := Table.mem_updateWhere.mp hrow'
    exact .inl ⟨row, h, hrow row h⟩
  · have hsame : ((t.updateWhere p f hkey).rows).map DriftFindingRow.id =
        t.rows.map DriftFindingRow.id := by
      simp only [Table.updateWhere, List.map_map]
      refine List.map_congr_left fun row _ => ?_
      simp only [Function.comp_apply]
      split
      · exact hid row
      · rfl
    rw [hsame]
    exact fun h => h

theorem evolves_refreshRow (t : Findings) (d : Detected) (now : Time) : t.Evolves (t.refreshRow d now) :=
  evolves_updateWhere (fun _ => rfl) fun row _ _ => row.advances_refresh d now

theorem evolves_autoResolve (t : Findings) (fingerprints : List String) (now : Time) :
    t.Evolves (t.autoResolve fingerprints now) :=
  evolves_updateWhere (fun _ => rfl) fun _ _ _ =>
    DriftFindingRow.advances_resolve rfl rfl rfl rfl rfl rfl rfl

theorem evolves_resolveManually (t : Findings) (fingerprint : String) (actor : UserId)
    (now : Time) : t.Evolves (t.resolveManually fingerprint actor now) :=
  evolves_updateWhere (fun _ => rfl) fun _ _ _ =>
    DriftFindingRow.advances_resolve rfl rfl rfl rfl rfl rfl rfl

theorem evolves_acknowledge (t : Findings) (id : FindingId) (actor : UserId) (now : Time)
    (hactive : ∀ row ∈ t, row.id = id → row.status ≠ .resolved) : t.Evolves (t.acknowledge id actor now) := by
  refine evolves_updateWhere (fun _ => rfl) fun row hrow hp => ?_
  have hstatus : row.status ≠ .resolved := hactive row hrow (of_decide_eq_true hp)
  refine ⟨rfl, rfl, rfl, rfl, by simp, fun hstamped => ?_⟩
  simpa [hstatus] using hstamped

theorem evolves_insertNew {id : FindingId} {d : Detected} {now : Time}
    (hins : t.insertNew id d now = some t') : t.Evolves t' := by
  obtain ⟨hfreshId, hfresh, hmem⟩ := insertNew_eq_some hins
  refine ⟨fun row hrow => ⟨row, (hmem row).mpr (.inl hrow), .refl row⟩, fun row' hrow' => ?_, ?_⟩
  · obtain hold | rfl := (hmem row').mp hrow'
    · exact .inl ⟨row', hold, .refl row'⟩
    · exact .inr ⟨⟨rfl, rfl, rfl⟩, hfresh⟩
  · intro hnodup
    have hrows : t'.rows = t.rows ++ [d.newRow id now] := by
      unfold insertNew at hins
      split at hins
      · cases hins
      · unfold Table.insert? at hins
        split at hins
        · cases hins
        · cases hins
          rfl
    rw [hrows, List.map_append, List.map_singleton]
    refine hnodup.append (List.nodup_singleton _) ?_
    rw [List.disjoint_singleton]
    intro hin
    obtain ⟨row, hrow, heq⟩ := List.mem_map.mp hin
    exact hfreshId row hrow heq

end Findings

def DriftCall.IsOrderly (w : DriftWorld) : DriftCall → Prop
  | .acknowledgeFinding id _ _ => ∀ row ∈ w.findings, row.id = id → row.status ≠ .resolved
  | _ => True

variable {r : Except Failure c.Reply}

theorem DriftServed.evolves (hserved : DriftServed c w r w') (horderly : c.IsOrderly w) :
    w.findings.Evolves w'.findings := by
  cases hwrites : c.writesFindings with
  | false => exact hserved.frame.findings hwrites ▸ .refl _
  | true =>
      have hbase : c.isBase = false := by
        cases c with
        | base b => cases hwrites
        | _ => rfl
      obtain ⟨e, -, rfl⟩ | ⟨given, hanswer⟩ := hserved.cases hbase
      · exact .refl _
      · cases c with
        | insertFinding id d =>
            change DriftWorld.insertFinding _ _ _ = _ at hanswer
            unfold DriftWorld.insertFinding at hanswer
            split at hanswer
            · split at hanswer
              · rename_i findings hins
                cases hanswer
                exact Findings.evolves_insertNew hins
              · cases hanswer
                exact .refl _
            · cases hanswer
              exact .refl _
        | refreshFinding d now =>
            cases hanswer
            exact Findings.evolves_refreshRow _ d now
        | autoResolveFindings fingerprints now =>
            cases hanswer
            exact Findings.evolves_autoResolve _ fingerprints now
        | resolveFinding fingerprint actor now =>
            cases hanswer
            exact Findings.evolves_resolveManually _ fingerprint actor now
        | acknowledgeFinding id actor now =>
            cases hanswer
            exact Findings.evolves_acknowledge _ id actor now horderly
        | _ => cases hwrites

/-! ## Stamps and counts -/

/-- Between two states, the row with this fingerprint went from `RESOLVED` to `OPEN`. -/
def reopens (t t' : Findings) (fingerprint : String) : Bool :=
  match t.find? fingerprint, t'.find? fingerprint with
  | some row, some row' => decide (row.status = .resolved) && decide (row'.status = .opened)
  | _, _ => false

structure Ledger where
  world : DriftWorld
  reopened : String → Nat

def countedServe : Service driftCalls Failure Ledger := fun c o r o' =>
  DriftServed c o.world r o'.world ∧ ∀ fingerprint, o'.reopened fingerprint =
    o.reopened fingerprint + if reopens o.world.findings o'.world.findings fingerprint then 1 else 0

structure Ledger.Inv (o : Ledger) : Prop where
  counted : ∀ row ∈ o.world.findings, row.occurrences = 1 + o.reopened row.fingerprint
  unseen : ∀ fingerprint, o.world.findings.find? fingerprint = none → o.reopened fingerprint = 0
  stamped : ∀ row ∈ o.world.findings, row.resolvedAt.isSome ↔ row.status = .resolved
  ids : (o.world.findings.rows.map DriftFindingRow.id).Nodup

theorem reopens_of_mem {t t' : Findings} (hrow : row ∈ t)
    (hrow' : row' ∈ t') (hfingerprint : row'.fingerprint = row.fingerprint) : reopens t t' row'.fingerprint =
      (decide (row.status = .resolved) && decide (row'.status = .opened)) := by
  unfold reopens
  rw [Table.find?_of_mem hrow', hfingerprint, Table.find?_of_mem hrow]

theorem reopens_of_absent {t t' : Findings}
    (habsent : t.find? fingerprint = none) : reopens t t' fingerprint = false := by
  unfold reopens
  rw [habsent]

theorem Ledger.Inv.evolve (hinv : o.Inv) (hevolves : o.world.findings.Evolves o'.world.findings)
    (hcount : ∀ fingerprint, o'.reopened fingerprint = o.reopened fingerprint +
      if reopens o.world.findings o'.world.findings fingerprint then 1 else 0) : o'.Inv := by
  refine ⟨fun row' hrow' => ?_, fun fingerprint hnone' => ?_, fun row' hrow' => ?_,
    hevolves.ids hinv.ids⟩
  · obtain ⟨row, hrow, hadv⟩ | ⟨hfresh, hnew⟩ := hevolves.new row' hrow'
    · rw [hcount, reopens_of_mem hrow hrow' hadv.fingerprint, hadv.occurrences, hinv.counted row hrow,
        hadv.fingerprint, Nat.add_assoc]
      simp only [Bool.and_eq_true, decide_eq_true_eq]
    · have habsent : o.world.findings.find? row'.fingerprint = none :=
        Table.find?_eq_none_iff.mpr hnew
      rw [hcount, reopens_of_absent habsent, hinv.unseen _ habsent, hfresh.occurrences]
      rfl
  · have hnone : o.world.findings.find? fingerprint = none := by
      refine Table.find?_eq_none_iff.mpr fun row hrow heq => ?_
      obtain ⟨row', hrow', hadv⟩ := hevolves.old row hrow
      exact Table.find?_eq_none_iff.mp hnone' row' hrow' (hadv.fingerprint.trans heq)
    rw [hcount, reopens_of_absent hnone, hinv.unseen _ hnone]
    rfl
  · obtain ⟨row, hrow, hadv⟩ | ⟨hfresh, -⟩ := hevolves.new row' hrow'
    · exact hadv.stamped (hinv.stamped row hrow)
    · simp [hfresh.resolvedAt, hfresh.status]

theorem Ledger.Inv.serve {c : DriftCall} {o o' : Ledger} {r : Except Failure c.Reply}
    (hinv : o.Inv) (horderly : c.IsOrderly o.world) (hserve : countedServe c o r o') : o'.Inv :=
  hinv.evolve (hserve.1.evolves horderly) hserve.2

/-! ## The programs -/

def DriftCall.isRemedial : DriftCall → Bool
  | .insertFinding _ _ => false
  | .refreshFinding _ _ => false
  | .autoResolveFindings _ _ => false
  | .acknowledgeFinding _ _ _ => false
  | _ => true

theorem DriftCall.isOrderly_of_isRemedial (hc : c.isRemedial = true) : c.IsOrderly w := by
  cases c with
  | acknowledgeFinding id actor now => cases hc
  | _ => trivial

def ApplyCall (detected : List Detected) : DriftCall → Prop
  | .findingByFingerprint _ => True
  | .newId => True
  | .insertFinding _ _ => True
  | .refreshFinding _ _ => True
  | .listActiveFindings => True
  | .autoResolveFindings fingerprints _ =>
      ∀ fingerprint ∈ fingerprints, fingerprint ∉ detected.map Detected.fingerprint
  | _ => False

def UpsertCall : DriftCall → Prop
  | .findingByFingerprint _ => True
  | .newId => True
  | .insertFinding _ _ => True
  | .refreshFinding _ _ => True
  | _ => False

theorem only_upsertFinding (now : Time) (counts : ApplyCounts) (d : Detected) :
    Only UpsertCall (upsertFinding now counts d) := by
  refine Only.bind (only_perform.mpr trivial) fun prior => ?_
  cases prior with
  | none =>
      exact Only.bind (only_perform.mpr trivial) fun id =>
        Only.bind (only_perform.mpr trivial) fun _ => only_pure
  | some _ => exact Only.bind (only_perform.mpr trivial) fun _ => only_pure

theorem only_upsertFindings (now : Time) (counts : ApplyCounts) (detected : List Detected) :
    Only UpsertCall (detected.foldlM (upsertFinding now) counts) :=
  Only.foldlM fun counts d => only_upsertFinding now counts d

theorem not_mem_detected_of_stale
    (hmem : fingerprint ∈ (active.filter (isStale detected opts)).map DriftFindingRow.fingerprint) :
    fingerprint ∉ detected.map Detected.fingerprint := by
  obtain ⟨row, hrow, rfl⟩ := List.mem_map.mp hmem
  exact (isStale_eq_true.mp (List.mem_filter.mp hrow).2).1

theorem only_resolveStaleFindings (detected : List Detected) (opts : ApplyOpts) :
    Only (ApplyCall detected) (resolveStaleFindings detected opts) := by
  refine Only.bind (only_perform.mpr trivial) fun active => ?_
  refine Only.ite only_pure (only_perform.mpr fun fingerprint hmem => ?_)
  exact not_mem_detected_of_stale hmem

theorem applyCall_of_upsertCall (detected : List Detected) (hc : UpsertCall c) : ApplyCall detected c := by
  cases c <;> trivial

theorem only_applyFindings (detected : List Detected) (opts : ApplyOpts) :
    Only (ApplyCall detected) (applyFindings detected opts) := by
  refine Only.bind ((only_upsertFindings _ _ _).mono fun _ => applyCall_of_upsertCall detected)
    fun counts => ?_
  exact Only.ite (Only.bind (only_resolveStaleFindings detected opts) fun _ => only_pure) only_pure

theorem isOrderly_of_applyCall (hc : ApplyCall detected c) : c.IsOrderly w := by
  cases c with
  | acknowledgeFinding id actor now => exact hc.elim
  | _ => trivial

section remediations

abbrev Remedial (c : DriftCall) : Prop := c.isRemedial = true

theorem remedial_activeFinding (id : FindingId) : Only Remedial (activeFinding id) := by
  refine Only.bind (only_perform.mpr rfl) fun found => ?_
  cases found with
  | none => exact only_raise
  | some row => exact Only.ite only_raise only_pure

theorem remedial_findingTarget (finding : DriftFindingRow) (dimension : DriftDimension)
    (refusal : String) : Only Remedial (findingTarget finding dimension refusal) :=
  Only.ite only_orRaise only_raise

theorem remedial_requireVm (id : VmId) (refusal : String) : Only Remedial (requireVm id refusal) :=
  Only.bind (only_perform.mpr rfl) fun _ => only_orRaise

theorem remedial_assertNoActiveJob (vmId : VmId) : Only Remedial (assertNoActiveJob vmId) :=
  Only.bind (only_perform.mpr rfl) fun _ => Only.ite only_pure only_raise

theorem remedial_settleFinding (finding : DriftFindingRow) (actor : DriftActor) (now : Time) :
    Only Remedial (settleFinding finding actor now) :=
  Only.bind (only_perform.mpr rfl) fun _ => only_perform.mpr rfl

theorem remedial_verifyAbsent (vm : VmRow) : Only Remedial (verifyAbsent vm) := by
  refine Only.bind (only_perform.mpr rfl) fun _ => Only.bind (only_perform.mpr rfl) fun raw => ?_
  refine Only.ite only_raise (Only.bind (only_perform.mpr rfl) fun tracked => ?_)
  exact Only.ite only_raise only_pure

theorem remedial_dropRecord (vm : VmRow) : Only Remedial (dropRecord vm) := by
  refine Only.bind (Only.tryCatch ?_ fun _ => only_pure) fun _ => ?_
  · exact Only.bind (only_perform.mpr rfl) fun _ => only_perform.mpr rfl
  · refine Only.bind (only_perform.mpr rfl) fun _ => Only.bind (only_perform.mpr rfl) fun _ => ?_
    refine Only.bind (only_perform.mpr rfl) fun _ => Only.bind (only_perform.mpr rfl) fun _ => ?_
    exact Only.bind (only_perform.mpr rfl) fun _ => only_pure

theorem remedial_requireLive (vm : VmRow) : Only Remedial (requireLive vm) :=
  Only.bind (only_perform.mpr rfl) fun _ => Only.bind (only_perform.mpr rfl) fun _ => only_orRaise

theorem remedial_bumpHardwareSnapshot (vmId : VmId) (hw : HardwareConfig) (time : Time) :
    Only Remedial (bumpHardwareSnapshot vmId hw time) := by
  unfold bumpHardwareSnapshot
  split
  · exact only_pure
  · exact Only.bind (only_perform.mpr rfl) fun _ => only_pure

theorem remedial_adoptLive (finding : DriftFindingRow) (vm : VmRow) (lr : DriftLiveResource)
    (time : Time) : Only Remedial (adoptLive finding vm lr time) := by
  refine Only.ite (Only.ite ?_ (Only.ite ?_ only_raise)) ?_
  · unfold adoptName
    split
    · exact only_raise
    · exact Only.ite (only_perform.mpr rfl) only_pure
  · exact Only.ite (only_perform.mpr rfl) only_pure
  · refine Only.bind (only_perform.mpr rfl) fun cfg => ?_
    exact Only.bind (remedial_bumpHardwareSnapshot _ _ _) fun wrote => Only.ite only_pure only_raise

theorem remedial_agentIp (vm : VmRow) : Only Remedial (agentIp vm) := by
  refine Only.bind (only_perform.mpr rfl) fun _ => Only.bind (Only.tryCatch ?_ fun _ => only_pure)
    fun node => Only.bind (only_perform.mpr rfl) fun agent => ?_
  · exact Only.bind (only_perform.mpr rfl) fun raw => only_pure
  · cases agent with
    | none => exact only_raise
    | some info => exact only_orRaise

theorem remedial_writeIp (vm : VmRow) (ip : String) : Only Remedial (writeIp vm ip) := by
  refine Only.bind (only_perform.mpr rfl) fun _ => Only.bind (only_perform.mpr rfl) fun _ => ?_
  refine Only.ite only_pure (Only.bind (only_perform.mpr rfl) fun _ => ?_)
  exact Only.bind (only_perform.mpr rfl) fun _ => only_pure

theorem remedial_remediation (kind : Remediation) (id : FindingId) (actor : DriftActor) (now : Time) :
    Only Remedial (kind.prog id actor now) := by
  cases kind with
  | decommission =>
      exact (remedial_activeFinding id).bind fun finding => (remedial_findingTarget _ _ _).bind fun vmId =>
        (remedial_requireVm _ _).bind fun vm => (remedial_assertNoActiveJob _).bind fun _ =>
        (remedial_verifyAbsent vm).bind fun _ => (remedial_dropRecord vm).bind fun _ =>
        remedial_settleFinding _ _ _
  | adopt =>
      exact (remedial_activeFinding id).bind fun finding => only_orRaise.bind fun vmId =>
        Only.ite only_raise ((remedial_requireVm _ _).bind fun vm =>
          (remedial_assertNoActiveJob _).bind fun _ => (remedial_requireLive vm).bind fun lr =>
          (remedial_adoptLive _ _ _ _).bind fun _ => remedial_settleFinding _ _ _)
  | resyncIp =>
      exact (remedial_activeFinding id).bind fun finding => (remedial_findingTarget _ _ _).bind fun vmId =>
        (remedial_requireVm _ _).bind fun vm => (remedial_assertNoActiveJob _).bind fun _ =>
        Only.ite only_raise ((remedial_agentIp vm).bind fun ip =>
          Only.ite (remedial_settleFinding _ _ _) ((remedial_writeIp vm ip).bind fun _ =>
            remedial_settleFinding _ _ _))
  | deleteOrphan =>
      refine (remedial_activeFinding id).bind fun finding => Only.bind (Only.ite only_orRaise only_raise)
        fun connectionId => Only.bind ?_ fun _ => Only.bind (only_perform.mpr rfl) fun _ =>
        Only.bind (only_perform.mpr rfl) fun deleted =>
        Only.ite (remedial_settleFinding _ _ _) only_raise
      unfold assertVmGone
      split
      · exact only_pure
      · exact Only.bind (only_perform.mpr rfl) fun vm => Only.ite only_raise only_pure

end remediations

/-! ## Runs -/

inductive FindingOp
  | apply (detected : List Detected) (opts : ApplyOpts)
  | acknowledge (id : FindingId) (actor : DriftActor) (now : Time)
  | remediate (kind : Remediation) (id : FindingId) (actor : DriftActor) (now : Time)

def FindingOp.prog : FindingOp → DriftTask Unit
  | .apply detected opts => do
      let _counts ← applyFindings detected opts
      pure ()
  | .acknowledge id actor now => acknowledgeDriftFinding id actor now
  | .remediate kind id actor now => kind.prog id actor now

inductive FindingsStep : Ledger → Ledger → Prop
  | op {o o' : Ledger} (op : FindingOp) (r : Except Failure Unit)
      (hends : Ends countedServe op.prog o r o') : FindingsStep o o'
  | elsewhere {o o' : Ledger} (hfindings : o'.world.findings = o.world.findings)
      (hreopened : o'.reopened = o.reopened) : FindingsStep o o'

abbrev FindingsLife : Ledger → Ledger → Prop := Relation.ReflTransGen FindingsStep

theorem Ledger.Inv.of_only {P : DriftCall → Prop} {α : Type} {p : DriftTask α}
    {r : Except Failure α} (hinv : o.Inv) (hp : Only P p)
    (horderly : ∀ c w, P c → DriftCall.IsOrderly w c) (hends : Ends countedServe p o r o') : o'.Inv :=
  hends.keeps hp (fun c o _ _ hc hinv hserve => hinv.serve (horderly c o.world hc) hserve) hinv

theorem served_findingById {found : Option DriftFindingRow}
    (hserved : DriftServed (.findingById id) w (.ok found) w') : w' = w ∧ found = w.findings.findById id := by
  obtain ⟨e, he, -⟩ | ⟨given, hanswer⟩ := hserved.cases rfl
  · cases he
  · cases hanswer
    exact ⟨rfl, rfl⟩

theorem Ledger.Inv.eq_of_id_eq (hinv : o.Inv)
    (hrow : row ∈ o.world.findings) (hrow' : row' ∈ o.world.findings) (hid : row.id = row'.id) : row = row' :=
  List.inj_on_of_nodup_map hinv.ids hrow hrow' hid

theorem Ledger.Inv.acknowledge {actor : DriftActor} {r : Except Failure Unit} (hinv : o.Inv)
    (hends : Ends countedServe (acknowledgeDriftFinding id actor now) o r o') : o'.Inv := by
  refine hends.sound (Q := fun _ o' => o'.Inv) ?_
  unfold acknowledgeDriftFinding activeFinding
  rw [Context.holds_bind]
  refine holds_askDrift_bind.mpr ⟨trivial, fun found o₁ hserve => ?_, fun e o₁ hserve =>
    hinv.serve (c := .findingById id) trivial hserve⟩
  have hinv₁ : o₁.Inv := hinv.serve (c := .findingById id) trivial hserve
  obtain ⟨hsame, hfound⟩ := served_findingById hserve.1
  cases found with
  | none => exact hinv₁
  | some finding =>
      obtain ⟨hmem, hid⟩ := Findings.mem_of_findById hfound.symm
      rw [← hsame] at hmem
      refine Context.holds_ite.mpr ⟨fun _ => hinv₁, fun hactive => ?_⟩
      refine Context.holds_ite.mpr ⟨fun _ => hinv₁, fun _ => ?_⟩
      have horderly : (DriftCall.acknowledgeFinding finding.id actor.userId now).IsOrderly o₁.world := by
        intro row hrow hrowId
        rw [hinv₁.eq_of_id_eq hrow hmem hrowId]
        exact hactive
      refine holds_askDrift_bind.mpr ⟨trivial, fun _ o₂ hserve₂ => ?_, fun e o₂ hserve₂ =>
        hinv₁.serve horderly hserve₂⟩
      exact holds_askDrift.mpr ⟨trivial, fun _ o₃ hserve₃ =>
        (hinv₁.serve horderly hserve₂).serve (c := .base (.auditRecord _)) trivial hserve₃⟩

theorem Ledger.Inv.step {o o' : Ledger} (hinv : o.Inv) (hstep : FindingsStep o o') : o'.Inv := by
  cases hstep with
  | elsewhere hfindings hreopened =>
      refine ⟨?_, ?_, ?_, ?_⟩
      · rw [hfindings, hreopened]
        exact hinv.counted
      · rw [hfindings, hreopened]
        exact hinv.unseen
      · rw [hfindings]
        exact hinv.stamped
      · rw [hfindings]
        exact hinv.ids
  | op op r hends =>
      cases op with
      | apply detected opts =>
          exact hinv.of_only ((only_applyFindings detected opts).bind fun _ => only_pure)
            (fun _ _ => isOrderly_of_applyCall) hends
      | acknowledge id actor now => exact hinv.acknowledge hends
      | remediate kind id actor now =>
          exact hinv.of_only (remedial_remediation kind id actor now)
            (fun _ _ => DriftCall.isOrderly_of_isRemedial) hends

/-- **Stamps and counts are right after any sequence of operations.** -/
theorem Ledger.inv_of_life (hinv : o.Inv) (hlife : FindingsLife o o') : o'.Inv := by
  induction hlife with
  | refl => exact hinv
  | tail _ hstep ih => exact ih.step hstep

/-! ## What `applyFindings` may not resolve -/

def Findings.Keeps (t : Findings) (row : DriftFindingRow) : Prop :=
  ∃ row' ∈ t, row'.fingerprint = row.fingerprint ∧ row'.status = row.status ∧
    row'.vmId = row.vmId ∧ row'.dimension = row.dimension

theorem Findings.keeps_of_mem {t : Findings} (hrow : row ∈ t) : t.Keeps row :=
  ⟨row, hrow, rfl, rfl, rfl, rfl⟩

theorem Findings.Keeps.updateWhere {t : Findings} (hkeeps : t.Keeps row)
    (p : DriftFindingRow → Bool) (f : DriftFindingRow → DriftFindingRow)
    (hkey : ∀ row, (f row).fingerprint = row.fingerprint)
    (hsame : ∀ row', row'.fingerprint = row.fingerprint → row'.status = row.status →
      p row' = true → (f row').status = row'.status ∧ (f row').vmId = row'.vmId ∧
        (f row').dimension = row'.dimension) : Findings.Keeps (t.updateWhere p f hkey) row := by
  obtain ⟨row', hrow', hfingerprint, hstatus, hvmId, hdimension⟩ := hkeeps
  refine ⟨_, Table.mem_updateWhere.mpr ⟨row', hrow', rfl⟩, ?_⟩
  cases hp : p row' with
  | false => exact ⟨hfingerprint, hstatus, hvmId, hdimension⟩
  | true =>
      obtain ⟨hs, hv, hd⟩ := hsame row' hfingerprint hstatus hp
      exact ⟨(hkey row').trans hfingerprint, hs.trans hstatus, hv.trans hvmId, hd.trans hdimension⟩

theorem keeps_of_upsertCall (hactive : row.status ≠ .resolved) (hc : UpsertCall c)
    (hserved : DriftServed c w r w') (hkeeps : w.findings.Keeps row) : w'.findings.Keeps row := by
  cases c with
  | insertFinding id d =>
      obtain ⟨e, -, rfl⟩ | ⟨given, hanswer⟩ := hserved.cases rfl
      · exact hkeeps
      · change DriftWorld.insertFinding _ _ _ = _ at hanswer
        unfold DriftWorld.insertFinding at hanswer
        split at hanswer
        · split at hanswer
          · rename_i findings hins
            cases hanswer
            obtain ⟨row', hrow', hrest⟩ := hkeeps
            exact ⟨row', ((Findings.insertNew_eq_some hins).2.2 row').mpr (.inl hrow'), hrest⟩
          · cases hanswer
            exact hkeeps
        · cases hanswer
          exact hkeeps
  | refreshFinding d now =>
      obtain ⟨e, -, rfl⟩ | ⟨given, hanswer⟩ := hserved.cases rfl
      · exact hkeeps
      · cases hanswer
        -- Only a resolved row changes its status here.
        have hsame : ∀ row' : DriftFindingRow, row'.status = row.status →
            (row'.refresh d now).status = row'.status := by
          intro row' hstatus
          simp [DriftFindingRow.refresh, hstatus, hactive]
        exact hkeeps.updateWhere _ (fun row => row.refresh d now) (fun _ => rfl)
          fun row' _ hstatus _ => ⟨hsame row' hstatus, rfl, rfl⟩
  | findingByFingerprint fingerprint =>
      rw [hserved.frame.findings rfl]
      exact hkeeps
  | newId =>
      rw [hserved.frame.findings rfl]
      exact hkeeps
  | _ => exact hc.elim

theorem served_listActiveFindings (hserved : DriftServed .listActiveFindings w (.ok active) w') :
    w' = w ∧ active = w.findings.listActive := by
  obtain ⟨e, he, -⟩ | ⟨given, hanswer⟩ := hserved.cases rfl
  · cases he
  · cases hanswer
    exact ⟨rfl, rfl⟩

theorem holds_resolveStaleFindings_keeps
    (hpreserved : isStale detected opts row = false) (hkeeps : w.findings.Keeps row) :
    (alone DriftServed).holds (resolveStaleFindings detected opts) (fun _ w' => w'.findings.Keeps row) w := by
  refine holds_askDrift_bind.mpr ⟨trivial, fun active w₁ hserved => ?_, fun e w₁ hserved => ?_⟩
  · obtain ⟨rfl, rfl⟩ := served_listActiveFindings hserved
    refine Context.holds_ite.mpr ⟨fun _ => hkeeps, fun _ => holds_askDrift.mpr ⟨trivial, ?_⟩⟩
    intro r w₂ hserved₂
    obtain ⟨e, -, rfl⟩ | ⟨given, hanswer⟩ := hserved₂.cases rfl
    · exact hkeeps
    · cases hanswer
      obtain ⟨row', hrow', hfingerprint, hstatus, hvmId, hdimension⟩ := hkeeps
      -- The row itself is not among those to resolve, and it alone has its fingerprint.
      have hsame : isStale detected opts row' = false := by
        rw [← hpreserved]
        unfold isStale
        rw [hfingerprint, hvmId, hdimension]
      have hnot : row'.fingerprint ∉ (w₁.findings.listActive.filter (isStale detected opts)).map
          DriftFindingRow.fingerprint := by
        intro hmem
        obtain ⟨other, hother, heq⟩ := List.mem_map.mp hmem
        obtain ⟨hlisted, hstale⟩ := List.mem_filter.mp hother
        have hotherMem : other ∈ w₁.findings := (Findings.mem_listActive.mp hlisted).1
        rw [Table.eq_of_key_eq hotherMem hrow' heq, hsame] at hstale
        cases hstale
      exact ⟨row', Findings.mem_autoResolve_of_not_mem hrow' hnot, hfingerprint, hstatus, hvmId,
        hdimension⟩
  · rw [hserved.frame.findings rfl]
    exact hkeeps

/-- **What reproduces, what is preserved, and everything when `resolveStale` is off, keeps
its status.** -/
theorem applyFindings_keeps {r : Except Failure ApplyCounts} (hrow : row ∈ w.findings)
    (hactive : row.status ≠ .resolved)
    (hpreserved : isStale detected opts row = false ∨ opts.resolveStale = false)
    (hends : Ends DriftServed (applyFindings detected opts) w r w') : w'.findings.Keeps row := by
  refine hends.sound (Q := fun _ w' => w'.findings.Keeps row) ?_
  have hupsert : (alone DriftServed).holds
      (detected.foldlM (upsertFinding opts.now) ApplyCounts.zero)
      (fun _ w' => w'.findings.Keeps row) w :=
    holds_alone_of_only (fun _ _ _ _ hc hkeeps hserved =>
      keeps_of_upsertCall hactive hc hserved hkeeps) (only_upsertFindings _ _ _)
      (Findings.keeps_of_mem hrow)
  refine Context.holds_bind_of hupsert (fun counts w₁ hkeeps => ?_) fun _ _ hkeeps => hkeeps
  refine Context.holds_ite.mpr ⟨fun hresolve => ?_, fun _ => hkeeps⟩
  have hstale : isStale detected opts row = false := by
    obtain hstale | hoff := hpreserved
    · exact hstale
    · rw [hoff] at hresolve
      cases hresolve
  exact Context.holds_bind_of (holds_resolveStaleFindings_keeps hstale hkeeps)
    (fun _ _ hkeeps => hkeeps) fun _ _ hkeeps => hkeeps

/-! ## What `applyFindings` leaves active -/

theorem served_findingByFingerprint {found : Option (FindingId × DriftStatus)}
    (hserved : DriftServed (.findingByFingerprint fingerprint) w (.ok found) w') :
    w' = w ∧ found = (w.findings.find? fingerprint).map fun row => (row.id, row.status) := by
  obtain ⟨e, he, -⟩ | ⟨given, hanswer⟩ := hserved.cases rfl
  · cases he
  · cases hanswer
    exact ⟨rfl, rfl⟩

def Findings.IsActive (t : Findings) (fingerprint : String) : Prop :=
  ∃ row ∈ t, row.fingerprint = fingerprint ∧ row.status ≠ .resolved

theorem Findings.Keeps.isActive {t : Findings} (hkeeps : t.Keeps row)
    (hactive : row.status ≠ .resolved) : t.IsActive row.fingerprint := by
  obtain ⟨row', hrow', hfingerprint, hstatus, -, -⟩ := hkeeps
  exact ⟨row', hrow', hfingerprint, by rwa [hstatus]⟩

theorem DriftFindingRow.refresh_isActive (row : DriftFindingRow) (d : Detected) (now : Time) :
    (row.refresh d now).status ≠ .resolved := by
  cases hstatus : row.status <;> simp [refresh, hstatus]

theorem isActive_of_upsertFinding {d : Detected} (hends : Ends DriftServed (upsertFinding now counts d) w (.ok counts') w') :
    w'.findings.IsActive d.fingerprint := by
  obtain ⟨prior, w₁, hread, hends⟩ := hends.of_bind_ok
  obtain ⟨rfl, rfl⟩ := served_findingByFingerprint (ends_perform.mp hread)
  cases hfind : w₁.findings.find? d.fingerprint with
  | none =>
      rw [hfind] at hends
      obtain ⟨id, w₂, hid, hends⟩ := hends.of_bind_ok
      obtain ⟨_, w₃, hinsert, hends⟩ := hends.of_bind_ok
      obtain ⟨-, rfl⟩ := ends_pure.mp hends
      obtain ⟨e, he, -⟩ | ⟨given, hanswer⟩ := (ends_perform.mp hinsert).cases rfl
      · cases he
      · change DriftWorld.insertFinding _ _ _ = _ at hanswer
        unfold DriftWorld.insertFinding at hanswer
        split at hanswer
        · split at hanswer
          · rename_i findings hins
            cases hanswer
            have hnew := ((Findings.insertNew_eq_some hins).2.2 _).mpr (.inr rfl)
            exact ⟨_, hnew, rfl, nofun⟩
          · cases hanswer
        · cases hanswer
  | some row =>
      rw [hfind] at hends
      obtain ⟨_, w₂, hrefresh, hends⟩ := hends.of_bind_ok
      obtain ⟨-, rfl⟩ := ends_pure.mp hends
      obtain ⟨e, he, -⟩ | ⟨given, hanswer⟩ := (ends_perform.mp hrefresh).cases rfl
      · cases he
      · cases hanswer
        have hmem : row ∈ w₁.findings := Table.mem_of_find? hfind
        have hkey : row.fingerprint = d.fingerprint := Table.key_of_find? hfind
        refine ⟨row.refresh d now, Findings.mem_refreshRow.mpr ⟨row, hmem, ?_⟩, hkey,
          row.refresh_isActive d now⟩
        rw [if_pos hkey]

theorem isActive_of_upsertFindings
    (hends : Ends DriftServed (detected.foldlM (upsertFinding now) counts) w (.ok counts') w') :
    ∀ d ∈ detected, w'.findings.IsActive d.fingerprint := by
  induction detected generalizing counts w with
  | nil => exact fun d hd => absurd hd List.not_mem_nil
  | cons d₀ rest ih =>
      rw [List.foldlM_cons] at hends
      obtain ⟨counts₁, w₁, hround, hrest⟩ := hends.of_bind_ok
      intro d hd
      obtain rfl | hd := List.mem_cons.mp hd
      · -- the later rounds keep the active row
        obtain ⟨row, hrow, hfingerprint, hactive⟩ := isActive_of_upsertFinding hround
        have hkeeps : w'.findings.Keeps row :=
          hrest.keeps (I := fun w => w.findings.Keeps row) (only_upsertFindings _ _ _)
            (fun _ _ _ _ hc hkeeps hserved => keeps_of_upsertCall hactive hc hserved hkeeps)
            (Findings.keeps_of_mem hrow)
        rw [← hfingerprint]
        exact hkeeps.isActive hactive
      · exact ih hrest d hd

theorem isStale_of_resolveStaleFindings {n : Nat} (hends : Ends DriftServed (resolveStaleFindings detected opts) w (.ok n) w') :
    ∀ row ∈ w'.findings, row.status ≠ .resolved → isStale detected opts row = false := by
  obtain ⟨active, w₁, hread, hends⟩ := hends.of_bind_ok
  obtain ⟨rfl, rfl⟩ := served_listActiveFindings (ends_perform.mp hread)
  have hstale : ∀ row ∈ w₁.findings, row.status ≠ .resolved → isStale detected opts row = true →
      row.fingerprint ∈ (w₁.findings.listActive.filter (isStale detected opts)).map
        DriftFindingRow.fingerprint := by
    intro row hrow hactive hstale
    have hlisted : row ∈ w₁.findings.listActive :=
      Findings.mem_listActive.mpr ⟨hrow, DriftStatus.isActive_iff.mpr hactive⟩
    exact List.mem_map.mpr ⟨row, List.mem_filter.mpr ⟨hlisted, hstale⟩, rfl⟩
  intro row hrow hactive
  refine Bool.eq_false_iff.mpr fun htrue => ?_
  simp only at hends
  split at hends
  · next hnone =>
      obtain ⟨-, rfl⟩ := ends_pure.mp hends
      have hmem := hstale row hrow hactive htrue
      rw [hnone] at hmem
      exact absurd hmem List.not_mem_nil
  · obtain ⟨e, he, -⟩ | ⟨given, hanswer⟩ := (ends_perform.mp hends).cases rfl
    · cases he
    · cases hanswer
      obtain ⟨old, hold, rfl⟩ := Findings.mem_autoResolve.mp hrow
      split at hactive
      · exact absurd rfl hactive
      · next hspared =>
          rw [if_neg hspared] at htrue
          exact hspared ⟨hstale old hold hactive htrue, DriftStatus.isActive_iff.mpr hactive⟩

/-- **What is active after `applyFindings`**: everything detected, and nothing stale. -/
theorem applyFindings_active (hresolve : opts.resolveStale = true)
    (hends : Ends DriftServed (applyFindings detected opts) w (.ok counts) w') :
    (∀ d ∈ detected, w'.findings.IsActive d.fingerprint) ∧
      ∀ row ∈ w'.findings, row.status ≠ .resolved → isStale detected opts row = false := by
  obtain ⟨counts₁, w₁, hupsert, hends⟩ := hends.of_bind_ok
  rw [if_pos hresolve] at hends
  obtain ⟨n, w₂, hresolved, hends⟩ := hends.of_bind_ok
  obtain ⟨-, rfl⟩ := ends_pure.mp hends
  refine ⟨fun d hd => ?_, isStale_of_resolveStaleFindings hresolved⟩
  obtain ⟨row, hrow, hfingerprint, hactive⟩ := isActive_of_upsertFindings hupsert d hd
  have hfresh : isStale detected opts row = false := by
    refine Bool.eq_false_iff.mpr fun hstale => (isStale_eq_true.mp hstale).1 ?_
    rw [hfingerprint]
    exact List.mem_map.mpr ⟨d, hd, rfl⟩
  have hkeeps : w'.findings.Keeps row :=
    hresolved.sound (holds_resolveStaleFindings_keeps hfresh (Findings.keeps_of_mem hrow))
  rw [← hfingerprint]
  exact hkeeps.isActive hactive

/-- The reasons for which `applyFindings` may not resolve a finding. -/
def IsPreserved (detected : List Detected) (opts : ApplyOpts) (row : DriftFindingRow) : Prop :=
  row.fingerprint ∈ detected.map Detected.fingerprint ∨ opts.resolveStale = false ∨
    ∃ vmId, row.vmId = some vmId ∧
      (vmId ∈ opts.exemptVmIds ∨ row.dimension ∈ opts.unrefined vmId)

theorem IsPreserved.isStale_eq_false (hpreserved : IsPreserved detected opts row) :
    isStale detected opts row = false ∨ opts.resolveStale = false := by
  obtain hmem | hoff | ⟨vmId, hvmId, hkept⟩ := hpreserved
  · exact .inl (Bool.eq_false_iff.mpr fun hstale => (isStale_eq_true.mp hstale).1 hmem)
  · exact .inr hoff
  · refine .inl (Bool.eq_false_iff.mpr fun hstale => ?_)
    obtain ⟨hexempt, hrefined⟩ := (isStale_eq_true.mp hstale).2 vmId hvmId
    exact hkept.elim hexempt hrefined

/-! ## The lifecycle -/

theorem Ledger.inv_of_empty (hfindings : o.world.findings = Table.empty)
    (hreopened : ∀ fingerprint, o.reopened fingerprint = 0) : o.Inv where
  counted := fun row hrow => by
    rw [hfindings] at hrow
    exact absurd hrow (Table.not_mem_empty row)
  unseen := fun fingerprint _ => hreopened fingerprint
  stamped := fun row hrow => by
    rw [hfindings] at hrow
    exact absurd hrow (Table.not_mem_empty row)
  ids := by
    rw [hfindings]
    exact List.nodup_nil

/-- **The lifecycle of findings.**  After any sequence of operations there is one row for
each fingerprint, it counts its re-openings and carries a resolution stamp exactly while it
is resolved.  The next `applyFindings` leaves the status of every active finding alone that
reproduces, that is preserved, or that it may not resolve because it may resolve none. -/
theorem finding_lifecycle {o o' : Ledger} (hfindings : o.world.findings = Table.empty)
    (hreopened : ∀ fingerprint, o.reopened fingerprint = 0) (hlife : FindingsLife o o') :
    (∀ row ∈ o'.world.findings, ∀ row' ∈ o'.world.findings, row.fingerprint = row'.fingerprint → row = row') ∧
    (∀ row ∈ o'.world.findings, row.occurrences = 1 + o'.reopened row.fingerprint) ∧
    (∀ row ∈ o'.world.findings, row.resolvedAt.isSome ↔ row.status = .resolved) ∧
    ∀ detected opts r o'', Ends countedServe (FindingOp.apply detected opts).prog o' r o'' →
      ∀ row ∈ o'.world.findings, row.status ≠ .resolved → IsPreserved detected opts row →
        ∃ row' ∈ o''.world.findings, row'.fingerprint = row.fingerprint ∧ row'.status = row.status := by
  have hinv : o'.Inv := Ledger.inv_of_life (Ledger.inv_of_empty hfindings hreopened) hlife
  refine ⟨fun row hrow row' hrow' => Table.eq_of_key_eq hrow hrow', hinv.counted, hinv.stamped, ?_⟩
  intro detected opts r o'' hends row hrow hactive hpreserved
  have hworld : Ends DriftServed (FindingOp.apply detected opts).prog o'.world r o''.world :=
    hends.map Ledger.world fun _ _ _ _ hserve => hserve.1
  have hkeeps : (alone DriftServed).holds (FindingOp.apply detected opts).prog
      (fun _ w => w.findings.Keeps row) o'.world := by
    refine Context.holds_bind_of ?_ (fun _ _ hkeeps => hkeeps) fun _ _ hkeeps => hkeeps
    exact holds_alone_iff.mpr fun _ _ happly =>
      applyFindings_keeps hrow hactive hpreserved.isStale_eq_false happly
  obtain ⟨row', hrow', hfingerprint, hstatus, -, -⟩ := hworld.sound hkeeps
  exact ⟨row', hrow', hfingerprint, hstatus⟩

def Ledger.play (fates : DriftFates) (c : DriftCall) (o : Ledger) :
    Option (Except Failure c.Reply × Ledger) :=
  (DriftWorld.play fates c o.world).map fun out =>
    (out.1, { world := out.2, reopened := fun fingerprint => o.reopened fingerprint +
      if reopens o.world.findings out.2.findings fingerprint then 1 else 0 })

theorem countedServe_play {fates : DriftFates} (hplay : Ledger.play fates c o = some (r, o')) :
    countedServe c o r o' := by
  obtain ⟨out, hout, heq⟩ := Option.map_eq_some_iff.mp hplay
  cases heq
  exact ⟨driftServed_play hout, fun _ => rfl⟩

def Ledger.after (o : Ledger) (op : FindingOp) : Ledger :=
  (drive (Ledger.play .plain) 50 (op.prog, o)).2

theorem ends_after {op : FindingOp}
    (hresult : (drive (Ledger.play .plain) 50 (op.prog, o)).1.result? = some (.ok ())) :
    Ends countedServe op.prog o (.ok ()) (o.after op) :=
  ends_of_result (fun _ _ _ _ => countedServe_play) 50 hresult

def ApplyOpts.plain (now : Time) : ApplyOpts :=
  { now, exemptVmIds := [], unrefined := .empty, resolveStale := true }

def Ledger.sample : Ledger := ⟨.sample, fun _ => 0⟩

def Ledger.sampleReopened : Ledger :=
  (((Ledger.sample.after (.apply [deletedFinding .web] (.plain 1))).after
    (.acknowledge 1 .root 2)).after (.apply [] (.plain 3))).after
      (.apply [deletedFinding .web] (.plain 4))

theorem finding_lifecycle_sample : (∀ row ∈ Ledger.sampleReopened.world.findings, row.occurrences =
      1 + Ledger.sampleReopened.reopened row.fingerprint) ∧
    Ledger.sampleReopened.reopened "deleted:30" = 1 := by
  have hlife : FindingsLife Ledger.sample Ledger.sampleReopened :=
    .tail (.tail (.tail (.tail .refl (.op _ _ (ends_after (by decide +kernel))))
      (.op _ _ (ends_after (by decide +kernel)))) (.op _ _ (ends_after (by decide +kernel))))
      (.op _ _ (ends_after (by decide +kernel)))
  exact ⟨(finding_lifecycle rfl (fun _ => rfl) hlife).2.1, by decide +kernel⟩

end ProxVM
