import ProxVM.Drift.Calls

/-!
# Persisting drift findings

`applyFindings`, which upserts what a pass detected and resolves what did not
reproduce, and `bumpHardwareSnapshot`, which records a hardware baseline.

Between the statements of `applyFindings` other requests may run: there is no
transaction.
-/

namespace ProxVM

open Interaction

/-! ## `applyFindings` -/

structure ApplyOpts where
  now : Time
  exemptVmIds : List VmId
  unrefined : UnrefinedMap
  resolveStale : Bool

/-- The counts `applyFindings` returns. -/
structure ApplyCounts where
  created : Nat
  updated : Nat
  resolved : Nat
  newFingerprints : List String
  deriving DecidableEq, Repr

def ApplyCounts.zero : ApplyCounts := ⟨0, 0, 0, []⟩

def upsertFinding (now : Time) (counts : ApplyCounts) (d : Detected) : DriftTask ApplyCounts := do
  let prior : Option (FindingId × DriftStatus) ← askDrift (.findingByFingerprint d.fingerprint)
  match prior with
  | none => do
      let id : FindingId ← askDrift .newId
      askDrift (.insertFinding id d)
      pure { counts with
        created := counts.created + 1
        newFingerprints := counts.newFingerprints ++ [d.fingerprint] }
  | some _ => do
      askDrift (.refreshFinding d now)
      pure { counts with updated := counts.updated + 1 }

def isStale (detected : List Detected) (opts : ApplyOpts) (row : DriftFindingRow) : Bool :=
  decide (row.fingerprint ∉ detected.map Detected.fingerprint) &&
    match row.vmId with
    | none => true
    | some vmId => decide (vmId ∉ opts.exemptVmIds) && decide (row.dimension ∉ opts.unrefined vmId)

def resolveStaleFindings (detected : List Detected) (opts : ApplyOpts) : DriftTask Nat := do
  let active : List DriftFindingRow ← askDrift .listActiveFindings
  let toResolve := (active.filter (isStale detected opts)).map DriftFindingRow.fingerprint
  if toResolve = [] then
    pure 0
  else
    askDrift (.autoResolveFindings toResolve opts.now)

def applyFindings (detected : List Detected) (opts : ApplyOpts) : DriftTask ApplyCounts := do
  let counts ← detected.foldlM (upsertFinding opts.now) ApplyCounts.zero
  if opts.resolveStale then do
    let resolved ← resolveStaleFindings detected opts
    pure { counts with resolved }
  else
    pure counts

theorem isStale_eq_true {detected : List Detected} {opts : ApplyOpts} {row : DriftFindingRow} :
    isStale detected opts row = true ↔ row.fingerprint ∉ detected.map Detected.fingerprint ∧
        ∀ vmId, row.vmId = some vmId → vmId ∉ opts.exemptVmIds ∧ row.dimension ∉ opts.unrefined vmId := by
  unfold isStale
  cases row.vmId with
  | none => simp
  | some vmId => simp

/-! ## The hardware baseline -/

/-- `Number.isFinite(value) && value > 0`, and the value. -/
def usable (value : Option Int) : Option Int := value.filter fun n => 0 < n

theorem usable_eq_some {value : Option Int} {n : Int} : usable value = some n ↔ value = some n ∧ 0 < n := by
  simp [usable, Option.filter_eq_some_iff]

def HardwareConfig.usable (hw : HardwareConfig) : Option (Int × Int) :=
  match ProxVM.usable hw.cores, ProxVM.usable hw.memory with
  | some cores, some memory => some (cores, memory)
  | _, _ => none

theorem HardwareConfig.usable_eq_some {hw : HardwareConfig} {cores memory : Int} :
    hw.usable = some (cores, memory) ↔
      hw.cores = some cores ∧ hw.memory = some memory ∧ 0 < cores ∧ 0 < memory := by
  unfold HardwareConfig.usable
  constructor
  · intro husable
    split at husable
    · rename_i hcores hmemory
      cases husable
      rw [ProxVM.usable_eq_some] at hcores hmemory
      exact ⟨hcores.1, hmemory.1, hcores.2, hmemory.2⟩
    · cases husable
  · rintro ⟨hcores, hmemory, hpos, hpos'⟩
    have husable : ProxVM.usable hw.cores = some cores := ProxVM.usable_eq_some.mpr ⟨hcores, hpos⟩
    have husable' : ProxVM.usable hw.memory = some memory :=
      ProxVM.usable_eq_some.mpr ⟨hmemory, hpos'⟩
    simp only [husable, husable']

/-- `bumpHardwareSnapshot`: a partial configuration is refused. -/
def bumpHardwareSnapshot (vmId : VmId) (hw : HardwareConfig) (time : Time) : DriftTask Bool :=
  match hw.usable with
  | none => pure false
  | some (cores, memory) => do
      askDrift (.upsertVmState vmId (.hardware cores memory (canonNet hw.net) time))
      pure true

end ProxVM
