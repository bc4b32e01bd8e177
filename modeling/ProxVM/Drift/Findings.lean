import ProxVM.Db.Schema

/-!
# Drift findings

The tables `drift_findings` and `drift_vm_state` of the drift migration, and the
statements of `services/drift.ts` on them, one definition per
statement.

`drift_findings.fingerprint` is unique, so the table is keyed by it; the primary
key `id` is checked by the insertion.  Both tables refer to `vms`; that an insertion
for an unknown VM fails is checked where the statements are served.
-/

namespace ProxVM

open Tables

abbrev FindingId := Nat
abbrev ConnectionId := Nat

/-- `DRIFT_DIMENSIONS`. -/
inductive DriftDimension
  | deleted
  | hw
  | config
  | ip
  | guac
  | credential
  deriving DecidableEq, Repr

/-- `DRIFT_SEVERITIES`. -/
inductive DriftSeverity
  | critical
  | high
  | medium
  | low
  deriving DecidableEq, Repr

/-- `DRIFT_STATUSES`; `opened` is `OPEN`. -/
inductive DriftStatus
  | opened
  | acknowledged
  | resolved
  deriving DecidableEq, Repr

/-- `status IN ('OPEN','ACKNOWLEDGED')`. -/
def DriftStatus.isActive : DriftStatus → Bool
  | .opened => true
  | .acknowledged => true
  | .resolved => false

theorem DriftStatus.isActive_iff {status : DriftStatus} : status.isActive = true ↔ status ≠ .resolved := by
  cases status <;> simp [isActive]

inductive ResolvedReason
  | auto
  | manual
  deriving DecidableEq, Repr

/-- A value in a finding's `detail` object. -/
inductive DetailValue
  | text (s : String)
  | number (n : Int)
  | null
  deriving DecidableEq, Repr

/-- `String(value)`. -/
def DetailValue.toText : DetailValue → String
  | .text s => s
  | .number n => n.repr
  | .null => "null"

/-- The `detail` object of a finding, key by key. -/
abbrev Detail := List (String × DetailValue)

/-- `Detected`: one output of a detector, before persistence. -/
structure Detected where
  fingerprint : String
  dimension : DriftDimension
  severity : DriftSeverity
  vmId : Option VmId
  connectionId : Option ConnectionId
  title : String
  summary : String
  detail : Detail
  deriving DecidableEq, Repr

/-- A row of `drift_findings`. -/
structure DriftFindingRow where
  id : FindingId
  fingerprint : String
  dimension : DriftDimension
  severity : DriftSeverity
  vmId : Option VmId
  connectionId : Option ConnectionId
  title : String
  summary : String
  detail : Detail
  status : DriftStatus
  occurrences : Nat
  firstSeen : Time
  lastSeen : Time
  acknowledgedAt : Option Time
  acknowledgedBy : Option UserId
  resolvedAt : Option Time
  resolvedReason : Option ResolvedReason
  remediatedAt : Option Time
  remediatedBy : Option UserId
  deriving DecidableEq, Repr

/-- A row of `drift_vm_state`. -/
structure VmStateRow where
  vmId : VmId
  lastProbeAt : Option Time
  lastProbeOkAt : Option Time
  cores : Option Int
  memoryMb : Option Int
  netJson : Option String
  snapshottedAt : Option Time
  deriving DecidableEq, Repr

/-- The table `drift_findings`. -/
abbrev Findings := Table DriftFindingRow.fingerprint

/-- The table `drift_vm_state`. -/
abbrev VmStates := Table VmStateRow.vmId

/-! ## Statements on the findings -/

/-- The row that the `INSERT` of `applyFindings` creates. -/
def Detected.newRow (d : Detected) (id : FindingId) (now : Time) : DriftFindingRow :=
  { id, fingerprint := d.fingerprint, dimension := d.dimension, severity := d.severity,
    vmId := d.vmId, connectionId := d.connectionId, title := d.title, summary := d.summary,
    detail := d.detail, status := .opened, occurrences := 1, firstSeen := now, lastSeen := now,
    acknowledgedAt := none, acknowledgedBy := none, resolvedAt := none, resolvedReason := none,
    remediatedAt := none, remediatedBy := none }

/-- The row after the `UPDATE` of `applyFindings` for a finding that reproduces: a
resolved row is opened again, any other keeps its status. -/
def DriftFindingRow.refresh (row : DriftFindingRow) (d : Detected) (now : Time) : DriftFindingRow :=
  let reopens := decide (row.status = .resolved)
  { row with
    severity := d.severity
    title := d.title
    summary := d.summary
    detail := d.detail
    lastSeen := now
    status := if reopens then .opened else row.status
    occurrences := if reopens then row.occurrences + 1 else row.occurrences
    resolvedAt := if reopens then none else row.resolvedAt
    resolvedReason := if reopens then none else row.resolvedReason }

namespace Findings

variable {t t' : Findings} {row row' : DriftFindingRow}

/-- `INSERT INTO drift_findings`: id and fingerprint are unique. -/
def insertNew (t : Findings) (id : FindingId) (d : Detected) (now : Time) : Option Findings :=
  if t.rows.any fun row => decide (row.id = id) then
    none
  else
    t.insert? (d.newRow id now)

/-- `UPDATE … WHERE fingerprint = $1` for a finding that reproduces. -/
def refreshRow (t : Findings) (d : Detected) (now : Time) : Findings :=
  t.updateWhere (fun row => decide (row.fingerprint = d.fingerprint)) (fun row => row.refresh d now)
    fun _ => rfl

/-- `SELECT fingerprint, vm_id, dimension … WHERE status IN ('OPEN','ACKNOWLEDGED')`. -/
def listActive (t : Findings) : List DriftFindingRow :=
  t.rows.filter fun row => row.status.isActive

/-- The auto-resolving `UPDATE … WHERE fingerprint IN (…) AND status IN (…)`. -/
def autoResolve (t : Findings) (fingerprints : List String) (now : Time) : Findings :=
  t.updateWhere (fun row => decide (row.fingerprint ∈ fingerprints) && row.status.isActive)
    (fun row => { row with
      status := .resolved, resolvedAt := some now, resolvedReason := some .auto })
    fun _ => rfl

/-- `rowCount` of the auto-resolving `UPDATE`. -/
def autoResolveCount (t : Findings) (fingerprints : List String) : Nat :=
  t.rows.countP fun row => decide (row.fingerprint ∈ fingerprints) && row.status.isActive

/-- The `UPDATE` of `resolveFinding`. -/
def resolveManually (t : Findings) (fingerprint : String) (actor : UserId) (now : Time) : Findings :=
  t.updateWhere (fun row => decide (row.fingerprint = fingerprint))
    (fun row => { row with
      status := .resolved, resolvedAt := some now, resolvedReason := some .manual,
      remediatedAt := some now, remediatedBy := some actor })
    fun _ => rfl

/-- The `UPDATE` of `acknowledgeDriftFinding`. -/
def acknowledge (t : Findings) (id : FindingId) (actor : UserId) (now : Time) : Findings :=
  t.updateWhere (fun row => decide (row.id = id))
    (fun row => { row with
      status := .acknowledged, acknowledgedAt := some now, acknowledgedBy := some actor })
    fun _ => rfl

/-- `SELECT * FROM drift_findings WHERE id = $1`. -/
def findById (t : Findings) (id : FindingId) : Option DriftFindingRow :=
  t.rows.find? fun row => decide (row.id = id)

variable {id : FindingId} {d : Detected} {now : Time} {fingerprints : List String}

theorem mem_of_findById (hfind : t.findById id = some row) : row ∈ t ∧ row.id = id :=
  ⟨List.mem_of_find?_eq_some hfind, of_decide_eq_true
    (List.find?_some (p := fun row : DriftFindingRow => decide (row.id = id)) hfind)⟩

@[simp] theorem mem_listActive : row ∈ t.listActive ↔ row ∈ t ∧ row.status.isActive = true := by
  simp [listActive, Table.mem_def]

theorem mem_refreshRow : row' ∈ t.refreshRow d now ↔
    ∃ row ∈ t, row' = if row.fingerprint = d.fingerprint then row.refresh d now else row := by
  constructor
  · intro hmem
    obtain ⟨row, hrow, rfl⟩ := List.mem_map.mp hmem
    exact ⟨row, hrow, by simp only [decide_eq_true_eq]⟩
  · rintro ⟨row, hrow, rfl⟩
    exact List.mem_map.mpr ⟨row, hrow, by simp only [decide_eq_true_eq]⟩

theorem mem_autoResolve : row' ∈ t.autoResolve fingerprints now ↔
      ∃ row ∈ t, row' = if row.fingerprint ∈ fingerprints ∧ row.status.isActive = true then
        { row with status := .resolved, resolvedAt := some now, resolvedReason := some .auto }
      else row := by
  constructor
  · intro hmem
    obtain ⟨row, hrow, rfl⟩ := List.mem_map.mp hmem
    exact ⟨row, hrow, by simp only [Bool.and_eq_true, decide_eq_true_eq]⟩
  · rintro ⟨row, hrow, rfl⟩
    exact List.mem_map.mpr ⟨row, hrow, by simp only [Bool.and_eq_true, decide_eq_true_eq]⟩

theorem mem_acknowledge {actor : UserId} :
    row' ∈ t.acknowledge id actor now ↔ ∃ row ∈ t, row' = if row.id = id then { row with
          status := .acknowledged, acknowledgedAt := some now, acknowledgedBy := some actor }
      else row := by
  constructor
  · intro hmem
    obtain ⟨row, hrow, rfl⟩ := List.mem_map.mp hmem
    exact ⟨row, hrow, by simp only [decide_eq_true_eq]⟩
  · rintro ⟨row, hrow, rfl⟩
    exact List.mem_map.mpr ⟨row, hrow, by simp only [decide_eq_true_eq]⟩

theorem mem_autoResolve_of_not_mem (hrow : row ∈ t)
    (hnot : row.fingerprint ∉ fingerprints) : row ∈ t.autoResolve fingerprints now := by
  refine mem_autoResolve.mpr ⟨row, hrow, ?_⟩
  simp [hnot]

theorem insertNew_eq_some (hins : t.insertNew id d now = some t') :
    (∀ row ∈ t, row.id ≠ id) ∧ (∀ row ∈ t, row.fingerprint ≠ d.fingerprint) ∧
      ∀ row, row ∈ t' ↔ row ∈ t ∨ row = d.newRow id now := by
  unfold insertNew at hins
  split at hins
  · cases hins
  · rename_i hfresh
    obtain ⟨hkey, hmem⟩ := Table.insert?_eq_some hins
    refine ⟨fun row hrow heq => hfresh ?_, hkey, hmem⟩
    exact List.any_eq_true.mpr ⟨row, hrow, decide_eq_true heq⟩

end Findings

/-! ## Statements on the per-VM state -/

/-- `Partial<VmStateRow>`: the columns to write. -/
structure VmStatePatch where
  lastProbeAt : Option (Option Time)
  lastProbeOkAt : Option (Option Time)
  cores : Option (Option Int)
  memoryMb : Option (Option Int)
  netJson : Option (Option String)
  snapshottedAt : Option (Option Time)
  deriving DecidableEq, Repr

def VmStatePatch.probe (time : Time) (okAt : Option Time) : VmStatePatch :=
  ⟨some (some time), some okAt, none, none, none, none⟩

def VmStatePatch.hardware (cores memoryMb : Int) (netJson : Option String) (time : Time) :
    VmStatePatch :=
  ⟨none, none, some (some cores), some (some memoryMb), some netJson, some (some time)⟩

def VmStateRow.patched (row : VmStateRow) (patch : VmStatePatch) : VmStateRow :=
  { row with
    lastProbeAt := patch.lastProbeAt.getD row.lastProbeAt
    lastProbeOkAt := patch.lastProbeOkAt.getD row.lastProbeOkAt
    cores := patch.cores.getD row.cores
    memoryMb := patch.memoryMb.getD row.memoryMb
    netJson := patch.netJson.getD row.netJson
    snapshottedAt := patch.snapshottedAt.getD row.snapshottedAt }

def VmStateRow.blank (vmId : VmId) : VmStateRow := ⟨vmId, none, none, none, none, none, none⟩

/-- `upsertVmState`: columns that the patch leaves out keep their value. -/
def VmStates.upsert (t : VmStates) (vmId : VmId) (patch : VmStatePatch) : VmStates :=
  t.put (((t.find? vmId).getD (.blank vmId)).patched patch)

theorem VmStates.upsert_key (t : VmStates) (vmId : VmId) (patch : VmStatePatch) :
    (((t.find? vmId).getD (.blank vmId)).patched patch).vmId = vmId := by
  cases hfind : t.find? vmId with
  | none => rfl
  | some row =>
      have hkey : row.vmId = vmId := Table.key_of_find? hfind
      exact hkey

theorem VmStates.find?_upsert_self (t : VmStates) (vmId : VmId) (patch : VmStatePatch) :
    (t.upsert vmId patch).find? vmId = some (((t.find? vmId).getD (.blank vmId)).patched patch) := by
  have hself := Table.find?_put_self t (((t.find? vmId).getD (.blank vmId)).patched patch)
  rwa [VmStates.upsert_key] at hself

theorem VmStates.find?_upsert_of_ne (t : VmStates) {vmId other : VmId} (patch : VmStatePatch)
    (hne : vmId ≠ other) : (t.upsert vmId patch).find? other = t.find? other :=
  Table.find?_put_of_ne t (by rwa [VmStates.upsert_key])

end ProxVM
