import Mathlib.Data.List.Induction
import ProxVM.Db.Seeds
import ProxVM.Iam.Effective

/-!
# Merging the grants of a VM

`resolveEffectiveAccess` folds the live grants of a user into one `VmAccessGrant` for each VM.
The queries return their rows in no particular order, so this module takes the grants as a
list and folds them in any order (`mergeGrants`).

The protocols are joined with `null` on top: unscoped access absorbs every list.  The expiry is
joined with `null` at the bottom, as the maximum of `Option` is, although a grant without
expiry outlasts every other.  The result is **`mergeGrants_joins_iff`**.
-/

namespace ProxVM

open Tables

/-- The arguments of one call of `addVmAccess`. -/
structure GrantRow where
  vmId : VmId
  protocols : Option (List Protocol)
  expiresAt : Option Time
  source : String
  deriving DecidableEq, Repr

def liveGrants (db : Db) (now : Time) (userId : UserId) : List GrantRow :=
  (groupVmGrants db now userId).map (fun e => ⟨e.1.vmId, e.1.protocols, e.1.expiresAt, e.2⟩) ++
    (directVmGrants db now userId).map
      fun va => ⟨va.vmId, va.protocols, va.expiresAt, "direct VM access"⟩

/-- The calls of `addVmAccess`, one for each row. -/
def mergeGrants (rows : List GrantRow) : VmId → Option VmAccessGrant :=
  rows.foldl (fun m r => addVmAccess m r.vmId r.protocols r.expiresAt r.source) fun _ => none

def grantsOn (vmId : VmId) (rows : List GrantRow) : List GrantRow :=
  rows.filter fun r => decide (r.vmId = vmId)

/-- What access to a VM amounts to under some grants: every protocol one of them covers, until
the last of them expires. -/
structure VmAccessGrant.Joins (grants : List GrantRow) (merged : VmAccessGrant) : Prop where
  allProtocols : merged.protocols = none ↔ ∃ g ∈ grants, g.protocols = none
  union : ∀ ps, merged.protocols = some ps →
    ∀ p, p ∈ ps ↔ ∃ g ∈ grants, ∃ qs, g.protocols = some qs ∧ p ∈ qs
  never : merged.expiresAt = none ↔ ∃ g ∈ grants, g.expiresAt = none
  latest : ∀ t, merged.expiresAt = some t →
    (∃ g ∈ grants, g.expiresAt = some t) ∧ ∀ g ∈ grants, ∀ s, g.expiresAt = some s → s ≤ t

def MixedExpiry (grants : List GrantRow) : Prop :=
  (∃ g ∈ grants, g.expiresAt = none) ∧ ∃ g ∈ grants, g.expiresAt ≠ none

/-! ## The fold -/

def mergeExpiry : Option Time → Option Time → Option Time
  | none, e => e
  | some c, some e => if c < e then some e else some c
  | some c, none => some c

theorem mergeExpiry_eq_none {a b : Option Time} : mergeExpiry a b = none ↔ a = none ∧ b = none := by
  cases a with
  | none => simp [mergeExpiry]
  | some c =>
      cases b with
      | none => simp [mergeExpiry]
      | some e => by_cases h : c < e <;> simp [mergeExpiry, h]

theorem mergeExpiry_eq_some {a b : Option Time} {t : Time} (h : mergeExpiry a b = some t) :
    (a = some t ∨ b = some t) ∧ (∀ s, a = some s → s ≤ t) ∧ ∀ s, b = some s → s ≤ t := by
  cases a with
  | none =>
      simp only [mergeExpiry] at h
      simp [h]
  | some c =>
      cases b with
      | none =>
          simp only [mergeExpiry, Option.some.injEq] at h
          simp [h]
      | some e =>
          simp only [mergeExpiry] at h
          split at h
          · next hlt =>
              cases h
              simp [Nat.le_of_lt hlt]
          · next hle =>
              cases h
              simp [Nat.le_of_not_lt hle]

structure VmAccessGrant.Folds (grants : List GrantRow) (merged : VmAccessGrant) : Prop where
  allProtocols : merged.protocols = none ↔ ∃ g ∈ grants, g.protocols = none
  union : ∀ ps, merged.protocols = some ps →
    ∀ p, p ∈ ps ↔ ∃ g ∈ grants, ∃ qs, g.protocols = some qs ∧ p ∈ qs
  never : merged.expiresAt = none ↔ ∀ g ∈ grants, g.expiresAt = none
  latest : ∀ t, merged.expiresAt = some t →
    (∃ g ∈ grants, g.expiresAt = some t) ∧ ∀ g ∈ grants, ∀ s, g.expiresAt = some s → s ≤ t

section fold

variable {grants : List GrantRow} {merged : VmAccessGrant} {vmId : VmId}

theorem VmAccessGrant.folds_singleton (r : GrantRow) : Folds [r] ⟨r.protocols, r.expiresAt, [r.source]⟩ where
  allProtocols := by simp
  union := by
    intro ps hps p
    change r.protocols = some ps at hps
    simp [hps]
  never := by simp
  latest := by
    intro t ht
    change r.expiresAt = some t at ht
    simp [ht]

theorem VmAccessGrant.Folds.add (h : merged.Folds grants) (r : GrantRow) (sources : List String) :
    Folds (grants ++ [r])
      ⟨mergeProtocols merged.protocols r.protocols, mergeExpiry merged.expiresAt r.expiresAt, sources⟩ := by
  have hsplit : ∀ {P : GrantRow → Prop}, (∃ g ∈ grants ++ [r], P g) ↔ (∃ g ∈ grants, P g) ∨ P r := by
    intro P
    simp only [List.mem_append, List.mem_singleton, or_and_right, exists_or, exists_eq_left]
  refine ⟨?_, fun ps hps p => ?_, ?_, fun t ht => ?_⟩
  · rw [hsplit, ← h.allProtocols]
    cases merged.protocols <;> cases r.protocols <;> simp [mergeProtocols]
  · rw [hsplit]
    -- neither side is unscoped, so the lists are put together
    cases hold : merged.protocols with
    | none => simp [mergeProtocols, hold] at hps
    | some a =>
        cases hnew : r.protocols with
        | none => simp [mergeProtocols, hold, hnew] at hps
        | some b =>
            simp only [mergeProtocols, hold, hnew, Option.some.injEq] at hps
            rw [← hps, unique, List.mem_eraseDups, List.mem_append, ← h.union a hold p]
            simp
  · simp only [mergeExpiry_eq_none, h.never, List.mem_append, List.mem_singleton, or_imp,
      forall_and, forall_eq]
  · obtain ⟨hone, hold, hnew⟩ := mergeExpiry_eq_some ht
    rw [hsplit]
    refine ⟨hone.imp_left fun hmerged => (h.latest t hmerged).1, fun g hg s hs => ?_⟩
    rcases List.mem_append.mp hg with hg | hg
    · -- the grant is an earlier one, and the entry so far is no earlier than it
      cases hexpires : merged.expiresAt with
      | none =>
          rw [h.never.mp hexpires g hg] at hs
          cases hs
      | some c => exact Nat.le_trans ((h.latest c hexpires).2 g hg s hs) (hold c hexpires)
    · rw [List.mem_singleton.mp hg] at hs
      exact hnew s hs

variable {m : VmId → Option VmAccessGrant} {r : GrantRow}

theorem addVmAccess_of_ne (hne : r.vmId ≠ vmId) :
    addVmAccess m r.vmId r.protocols r.expiresAt r.source vmId = m vmId := by
  simp [addVmAccess, Function.update_of_ne (Ne.symm hne)]

theorem addVmAccess_of_none (hcur : m r.vmId = none) :
    addVmAccess m r.vmId r.protocols r.expiresAt r.source r.vmId =
      some ⟨r.protocols, r.expiresAt, [r.source]⟩ := by
  simp [addVmAccess, hcur]

theorem addVmAccess_of_some (hcur : m r.vmId = some merged) : ∃ sources,
    addVmAccess m r.vmId r.protocols r.expiresAt r.source r.vmId =
      some ⟨mergeProtocols merged.protocols r.protocols,
        mergeExpiry merged.expiresAt r.expiresAt, sources⟩ := by
  simp only [addVmAccess, hcur, Function.update_self]
  exact ⟨_, rfl⟩

theorem mergeGrants_folds (rows : List GrantRow) (vmId : VmId) :
    (mergeGrants rows vmId = none ∧ grantsOn vmId rows = []) ∨
      ∃ merged, mergeGrants rows vmId = some merged ∧ merged.Folds (grantsOn vmId rows) ∧
        grantsOn vmId rows ≠ [] := by
  induction rows using List.reverseRecOn with
  | nil => exact .inl ⟨rfl, rfl⟩
  | append_singleton rows r ih =>
      have hstep : mergeGrants (rows ++ [r]) =
          addVmAccess (mergeGrants rows) r.vmId r.protocols r.expiresAt r.source := by
        simp [mergeGrants]
      rw [hstep]
      by_cases hvm : r.vmId = vmId
      · subst hvm
        have hon : grantsOn r.vmId (rows ++ [r]) = grantsOn r.vmId rows ++ [r] := by
          simp [grantsOn]
        right
        rw [hon]
        rcases ih with ⟨hnone, hnil⟩ | ⟨merged, hsome, hfolds, -⟩
        · rw [addVmAccess_of_none hnone, hnil]
          exact ⟨_, rfl, VmAccessGrant.folds_singleton r, List.cons_ne_nil r []⟩
        · obtain ⟨sources, hadded⟩ := addVmAccess_of_some hsome
          exact ⟨_, hadded, hfolds.add r sources, by simp⟩
      · have hon : grantsOn vmId (rows ++ [r]) = grantsOn vmId rows := by
          simp [grantsOn, hvm]
        rw [addVmAccess_of_ne hvm, hon]
        exact ih

theorem VmAccessGrant.Folds.perm {grants' : List GrantRow} (hperm : grants.Perm grants')
    (h : merged.Folds grants) : merged.Folds grants' := by
  refine ⟨?_, fun ps hps p => ?_, ?_, fun t ht => ?_⟩
  · simpa only [hperm.mem_iff] using h.allProtocols
  · simpa only [hperm.mem_iff] using h.union ps hps p
  · simpa only [hperm.mem_iff] using h.never
  · simpa only [hperm.mem_iff] using h.latest t ht

theorem VmAccessGrant.Folds.joins_iff (h : merged.Folds grants) (hne : grants ≠ []) :
    merged.Joins grants ↔ ¬ MixedExpiry grants := by
  obtain ⟨first, hfirst⟩ := List.exists_mem_of_ne_nil grants hne
  constructor
  · rintro hjoins ⟨hnever, g, hg, hexpires⟩
    exact hexpires (h.never.mp (hjoins.never.mpr hnever) g hg)
  · intro hunmixed
    refine ⟨h.allProtocols, h.union, ?_, h.latest⟩
    rw [h.never]
    constructor
    · intro hall
      exact ⟨first, hfirst, hall first hfirst⟩
    · intro hnever g hg
      by_contra hexpires
      exact hunmixed ⟨hnever, g, hg, hexpires⟩

end fold

/-! ## Any row order -/

/-- **The merge is the join of the grants unless their expiries are mixed.**  In whatever order
the live grants of a user come, the entry of a VM covers the protocols of its grants until the
last of them expires, exactly when all of them expire or none does. -/
theorem mergeGrants_joins_iff {db : Db} {now : Time} {userId : UserId} {rows : List GrantRow}
    (hrows : rows.Perm (liveGrants db now userId)) (vmId : VmId) :
    (∀ merged, mergeGrants rows vmId = some merged →
        merged.Joins (grantsOn vmId (liveGrants db now userId))) ↔
      ¬ MixedExpiry (grantsOn vmId (liveGrants db now userId)) := by
  have hon : (grantsOn vmId rows).Perm (grantsOn vmId (liveGrants db now userId)) := hrows.filter _
  rcases mergeGrants_folds rows vmId with ⟨hnone, hnil⟩ | ⟨merged, hsome, hfolds, hne⟩
  · rw [hnil] at hon
    rw [← hon.nil_eq, hnone]
    simp [MixedExpiry]
  · simp only [hsome, Option.some.injEq, forall_eq']
    refine (hfolds.perm hon).joins_iff fun hnil => hne ?_
    rw [hnil] at hon
    exact hon.eq_nil

def Db.lastingAndLapsing : Db :=
  { Db.sample with
    groupMembers := Table.empty.put (⟨20, 12, none⟩ : GroupMemberRow)
    groupVmAccess := ⟨[⟨20, 30, some [.ssh], some 90⟩], by decide⟩
    vmAccess := ⟨[⟨30, 12, some [.rdp], none, none⟩], by decide⟩ }

theorem mergeGrants_joins_sample : ∃ merged, mergeGrants (liveGrants Db.sample 5 12) 30 = some merged ∧
    merged.Joins (grantsOn 30 (liveGrants Db.sample 5 12)) := by
  obtain ⟨merged, hmerged⟩ := Option.isSome_iff_exists.mp
    (show (mergeGrants (liveGrants Db.sample 5 12) 30).isSome = true by decide)
  refine ⟨merged, hmerged, (mergeGrants_joins_iff (List.Perm.refl _) 30).mpr ?_ merged hmerged⟩
  rintro ⟨-, g, hg, hexpires⟩
  revert g
  decide

/-- The merged access of user 12 lapses at 90, although the direct grant never does. -/
theorem mergeGrants_lapses : ∃ merged,
    (resolveEffectiveAccess Db.lastingAndLapsing 5 12).vmAccess 30 = some merged ∧
      merged.expiresAt = some 90 ∧ ¬ merged.Joins (grantsOn 30 (liveGrants Db.lastingAndLapsing 5 12)) := by
  refine ⟨⟨some [.ssh, .rdp], some 90, ["group lab", "direct VM access"]⟩, by decide, rfl, ?_⟩
  intro hjoins
  have hnever := hjoins.never.mpr
    ⟨⟨30, some [.rdp], none, "direct VM access"⟩, by decide, rfl⟩
  cases hnever

end ProxVM
