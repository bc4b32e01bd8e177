import Mathlib.Data.List.DropRight
import Mathlib.Data.List.Basic

/-!
# A bounded memory of what was announced

Announcements come in batches.  What is still in memory is left out, the rest is announced and remembered, and only
the last `n` entries of the memory are kept.

- `mem_rtake_iff`: an entry is in memory as long as fewer than `n` came after it.
- `rtake_rtake_append`: cutting early does not change what is kept.
- `announced_iff`: something that stands in every batch is announced again exactly when it has left the memory.
-/

namespace Recent

variable {α : Type*} {n : Nat} {a : α} {memory batch l l' : List α}

theorem rtake_subset : l.rtake n ⊆ l := List.drop_subset _ _

theorem rtake_rtake_append : (l.rtake n ++ l').rtake n = (l ++ l').rtake n := by
  simp only [List.rtake_eq_reverse_take_reverse, List.reverse_append, List.reverse_reverse]
  congr 1
  rw [List.take_append, List.take_append, List.take_take, Nat.min_eq_left (Nat.sub_le n _)]

variable [DecidableEq α]

/-- How many entries came after the last one for `a`. -/
def newer (a : α) (l : List α) : Nat := l.reverse.idxOf a

def fresh (memory batch : List α) : List α := batch.filter fun a => decide (a ∉ memory)

theorem mem_fresh : a ∈ fresh memory batch ↔ a ∈ batch ∧ a ∉ memory := by
  simp only [fresh, List.mem_filter, decide_eq_true_iff]

theorem announced_iff (hmem : a ∈ batch) : a ∈ fresh memory batch ↔ a ∉ memory := by
  rw [mem_fresh, and_iff_right hmem]

theorem count_fresh_of_notMem (hmem : a ∉ memory) : (fresh memory batch).count a = batch.count a := by
  rw [fresh, List.count_filter]
  exact decide_eq_true hmem

theorem mem_rtake_iff (hmem : a ∈ l) : a ∈ l.rtake n ↔ newer a l < n := by
  rw [List.rtake_eq_reverse_take_reverse, List.mem_reverse, newer,
    List.mem_take_iff_idxOf_lt (List.mem_reverse.mpr hmem)]

theorem newer_append_of_mem (hmem : a ∈ l') : newer a (l ++ l') = newer a l' := by
  rw [newer, List.reverse_append, List.idxOf_append_of_mem (List.mem_reverse.mpr hmem), newer]

theorem pushed_out (hmem : a ∈ memory) (hmany : n ≤ (fresh memory batch).length) :
    a ∉ (memory ++ fresh memory batch).rtake n := by
  intro hkept
  rw [List.rtake, List.length_append, Nat.add_sub_assoc hmany, List.drop_append] at hkept
  have hnone : memory.drop (memory.length + ((fresh memory batch).length - n)) = [] :=
    List.drop_eq_nil_of_le (Nat.le_add_right _ _)
  rw [hnone, List.nil_append] at hkept
  exact (mem_fresh.mp (List.drop_subset _ _ hkept)).2 hmem

end Recent
