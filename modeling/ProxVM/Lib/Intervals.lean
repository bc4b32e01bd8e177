import Mathlib.Algebra.Order.Ring.Defs
import Mathlib.Algebra.BigOperators.Group.List.Basic
import Mathlib.Tactic.Linarith

/-!
# Intervals in succession

Intervals are pairs of a beginning and an end.  In a list of intervals that follow one another, what
falls into a window adds up to at most the length of the window (`sum_overlap_le`).
-/

namespace Intervals

variable {α : Type} [CommRing α] [LinearOrder α]

/-- The length of the part of an interval that lies in the window from `a` to `b`. -/
def overlap (a b : α) (i : α × α) : α := max 0 (min i.2 b - max i.1 a)

def Successive (l : List (α × α)) : Prop := l.Pairwise fun i j => i.2 ≤ j.1

theorem overlap_of_le {a b c : α} {i : α × α} (hle : c ≤ i.1) : overlap a b i = overlap (max a c) b i := by
  have hmax : max i.1 a = max i.1 (max a c) := by
    rw [max_comm a c, ← max_assoc, max_eq_left hle]
  unfold overlap
  rw [hmax]

variable [IsStrictOrderedRing α]

theorem overlap_add_le {a b : α} {i : α × α} (hi : i.1 ≤ i.2) :
    overlap a b i + max 0 (b - max a i.2) ≤ max 0 (b - a) := by
  unfold overlap
  simp only [max_def, min_def]
  split_ifs <;> linarith

theorem sum_overlap_le {l : List (α × α)} (hsuccessive : Successive l) (hl : ∀ i ∈ l, i.1 ≤ i.2) (a b : α) :
    (l.map (overlap a b)).sum ≤ max 0 (b - a) := by
  induction l generalizing a with
  | nil => exact le_max_left 0 _
  | cons i l ih =>
      obtain ⟨hfirst, hrest⟩ := List.pairwise_cons.mp hsuccessive
      have hlater : l.map (overlap a b) = l.map (overlap (max a i.2) b) :=
        List.map_congr_left fun j hj => overlap_of_le (hfirst j hj)
      calc ((i :: l).map (overlap a b)).sum
          = overlap a b i + (l.map (overlap (max a i.2) b)).sum := by
            rw [List.map_cons, List.sum_cons, hlater]
        _ ≤ overlap a b i + max 0 (b - max a i.2) := by
            have hle := ih hrest (fun j hj => hl j (List.mem_cons_of_mem i hj)) (max a i.2)
            linarith
        _ ≤ max 0 (b - a) := overlap_add_le (hl i List.mem_cons_self)

end Intervals
