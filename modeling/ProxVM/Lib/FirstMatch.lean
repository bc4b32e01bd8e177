import Mathlib.Data.List.Basic

/-!
# First match

A chain of rules decides a case by its first rule that matches it, and by a policy when none does.
A front whose rules all say the same can be read off: `verdict_append_of_forall` if it says what is
asked for, `verdict_append_of_forall_ne` if it says something else.
-/

namespace FirstMatch

variable {ρ β : Type}

def verdict (hits : ρ → Bool) (ruling : ρ → β) (policy : β) (rules : List ρ) : β :=
  ((rules.find? hits).map ruling).getD policy

variable {hits : ρ → Bool} {ruling : ρ → β} {policy b : β} {front rest : List ρ}

@[simp] theorem verdict_nil : verdict hits ruling policy [] = policy := rfl

theorem verdict_append : verdict hits ruling policy (front ++ rest) =
    ((front.find? hits).map ruling).getD (verdict hits ruling policy rest) := by
  unfold verdict
  rw [List.find?_append]
  cases front.find? hits with
  | none => rfl
  | some r => rfl

/-- A front that says `b` throughout: the chain says `b` where the front matches or the rest
says it. -/
theorem verdict_append_of_forall (hruling : ∀ r ∈ front, ruling r = b) :
    verdict hits ruling policy (front ++ rest) = b ↔
      (∃ r ∈ front, hits r = true) ∨ verdict hits ruling policy rest = b := by
  rw [verdict_append]
  cases hfind : front.find? hits with
  | none =>
      have hnone := List.find?_eq_none.mp hfind
      rw [or_iff_right]
      · rfl
      · rintro ⟨r, hr, hhits⟩
        exact hnone r hr hhits
  | some r =>
      have hr := List.mem_of_find?_eq_some hfind
      exact iff_of_true (hruling r hr) (.inl ⟨r, hr, List.find?_some hfind⟩)

/-- A front that never says `b`: the chain says `b` where the front does not match and the rest
says it. -/
theorem verdict_append_of_forall_ne (hruling : ∀ r ∈ front, ruling r ≠ b) :
    verdict hits ruling policy (front ++ rest) = b ↔
      (¬ ∃ r ∈ front, hits r = true) ∧ verdict hits ruling policy rest = b := by
  rw [verdict_append]
  cases hfind : front.find? hits with
  | none =>
      have hnone := List.find?_eq_none.mp hfind
      rw [and_iff_right]
      · rfl
      · rintro ⟨r, hr, hhits⟩
        exact hnone r hr hhits
  | some r =>
      have hr := List.mem_of_find?_eq_some hfind
      exact iff_of_false (hruling r hr) fun h => h.1 ⟨r, hr, List.find?_some hfind⟩

end FirstMatch
