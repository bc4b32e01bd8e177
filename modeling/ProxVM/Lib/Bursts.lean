import Mathlib.Data.List.NodupEquivFin
import Mathlib.Data.List.Perm.Subperm
import Mathlib.Data.List.Sort

/-!
# Bursts

Whether so many of some instants lie close together is decided by a scan of the sorted instants with a fixed
stride.

- `scan_iff`: the scan finds what there is.
-/

namespace Bursts

/-- `n + 1` of the instants are within a limit. -/
def Burst (n : Nat) (limit : Int) (times : List Int) : Prop :=
  ∃ picked : List Int, picked.Subperm times ∧ picked.length = n + 1 ∧ ∀ a ∈ picked, ∀ b ∈ picked, b - a ≤ limit

/-- Compare each of the sorted instants with the `n`-th after it. -/
def scan (n : Nat) (limit : Int) (times : List Int) : Bool :=
  let sorted := times.insertionSort (· ≤ ·)
  (sorted.zip (sorted.drop n)).any fun t => decide (t.2 - t.1 ≤ limit)

variable {n : Nat} {limit : Int} {times times' sorted : List Int}

theorem Burst.perm (hperm : times.Perm times') : Burst n limit times ↔ Burst n limit times' :=
  exists_congr fun _ => and_congr_left' hperm.subperm_left

theorem any_zip_drop : ((sorted.zip (sorted.drop n)).any fun t => decide (t.2 - t.1 ≤ limit)) = true ↔
    ∃ i, ∃ h : i + n < sorted.length, sorted[i + n] - sorted[i] ≤ limit := by
  rw [List.any_eq_true]
  constructor
  · rintro ⟨t, ht, hle⟩
    obtain ⟨i, hi, rfl⟩ := List.mem_iff_getElem.mp ht
    rw [List.length_zip, List.length_drop] at hi
    refine ⟨i, by omega, ?_⟩
    have hdiff := of_decide_eq_true hle
    rw [List.getElem_zip, List.getElem_drop] at hdiff
    simpa only [Nat.add_comm] using hdiff
  · rintro ⟨i, hi, hle⟩
    have hzip : i < (sorted.zip (sorted.drop n)).length := by
      rw [List.length_zip, List.length_drop]
      omega
    refine ⟨_, List.getElem_mem hzip, decide_eq_true ?_⟩
    rw [List.getElem_zip, List.getElem_drop]
    simpa only [Nat.add_comm] using hle

theorem getElem_le (hsorted : sorted.Pairwise (· ≤ ·)) {i j : Nat} (hij : i ≤ j) (hj : j < sorted.length) :
    sorted[i] ≤ sorted[j] := by
  obtain hlt | rfl := Nat.lt_or_eq_of_le hij
  · exact List.pairwise_iff_getElem.mp hsorted i j _ hj hlt
  · exact le_refl _

theorem burst_of_window (hsorted : sorted.Pairwise (· ≤ ·)) {i : Nat} (hi : i + n < sorted.length)
    (hle : sorted[i + n] - sorted[i] ≤ limit) : Burst n limit sorted := by
  have hbetween : ∀ a ∈ (sorted.drop i).take (n + 1), sorted[i] ≤ a ∧ a ≤ sorted[i + n] := by
    intro a ha
    obtain ⟨j, hj, rfl⟩ := List.mem_iff_getElem.mp ha
    rw [List.length_take, List.length_drop] at hj
    rw [List.getElem_take, List.getElem_drop]
    exact ⟨getElem_le hsorted (by omega) (by omega), getElem_le hsorted (by omega) hi⟩
  refine ⟨(sorted.drop i).take (n + 1), ?_, ?_, fun a ha b hb => ?_⟩
  · exact ((List.take_sublist _ _).trans (List.drop_sublist _ _)).subperm
  · rw [List.length_take, List.length_drop]
    omega
  · have hfirst := (hbetween a ha).1
    have hlast := (hbetween b hb).2
    omega

theorem window_of_burst (hsorted : sorted.Pairwise (· ≤ ·)) (hburst : Burst n limit sorted) :
    ∃ i, ∃ h : i + n < sorted.length, sorted[i + n] - sorted[i] ≤ limit := by
  obtain ⟨picked, ⟨inOrder, hperm, hsub⟩, hlength, hclose⟩ := hburst
  obtain ⟨f, hf⟩ := List.sublist_iff_exists_orderEmbedding_getElem?_eq.mp hsub
  have hlen : inOrder.length = n + 1 := hperm.length_eq.trans hlength
  have hpicked : ∀ i (hi : i < inOrder.length), ∃ h : f i < sorted.length, sorted[f i] = inOrder[i] := by
    intro i hi
    have hsome := hf i
    rw [List.getElem?_eq_getElem hi] at hsome
    exact List.getElem?_eq_some_iff.mp hsome.symm
  obtain ⟨hfirst, heqFirst⟩ := hpicked 0 (by omega)
  obtain ⟨hlast, heqLast⟩ := hpicked n (by omega)
  -- the places are in order, so at least `n` of them lie between the first and the last
  have happart : f 0 + n ≤ f n := by
    have hmono := f.strictMono.add_le_nat n 0
    rw [Nat.add_zero] at hmono
    omega
  refine ⟨f 0, by omega, ?_⟩
  have hend : sorted[f 0 + n] ≤ sorted[f n] := getElem_le hsorted happart hlast
  have hdiff := hclose _ (hperm.mem_iff.mp (List.getElem_mem (show 0 < inOrder.length by omega))) _
    (hperm.mem_iff.mp (List.getElem_mem (show n < inOrder.length by omega)))
  rw [← heqFirst, ← heqLast] at hdiff
  omega

theorem scan_iff : scan n limit times = true ↔ Burst n limit times := by
  have hsorted := List.pairwise_insertionSort (· ≤ ·) times
  rw [scan, any_zip_drop, ← Burst.perm (List.perm_insertionSort (· ≤ ·) times)]
  exact ⟨fun ⟨_, hi, hle⟩ => burst_of_window hsorted hi hle, window_of_burst hsorted⟩

theorem scan_perm (hperm : times.Perm times') : scan n limit times = scan n limit times' :=
  Bool.eq_iff_iff.mpr (scan_iff.trans ((Burst.perm hperm).trans scan_iff.symm))

theorem burst_of_interval (start : Int) {inside : List Int} (hsub : inside.Subperm times)
    (hinside : ∀ t ∈ inside, start ≤ t ∧ t ≤ start + limit) (hlength : n + 1 ≤ inside.length) : Burst n limit times := by
  refine ⟨inside.take (n + 1), (List.take_sublist _ _).subperm.trans hsub, ?_, fun a ha b hb => ?_⟩
  · rw [List.length_take]
    omega
  · have hfirst := (hinside a (List.mem_of_mem_take ha)).1
    have hlast := (hinside b (List.mem_of_mem_take hb)).2
    omega

/-! ## Distinct entries -/

section

variable {α : Type} [DecidableEq α]

theorem nodup_eraseDups (xs : List α) : xs.eraseDups.Nodup := by
  induction hlength : xs.length using Nat.strong_induction_on generalizing xs with
  | _ n ih =>
      cases xs with
      | nil => exact List.nodup_nil
      | cons x xs =>
          rw [List.eraseDups_cons, List.nodup_cons]
          constructor
          · rw [List.mem_eraseDups]
            simp
          · subst hlength
            exact ih _ (Nat.lt_succ_of_le (List.length_filter_le _ _)) _ rfl

theorem length_eraseDups_le {xs ys : List α} (hsub : ∀ x ∈ xs, x ∈ ys) : xs.eraseDups.length ≤ ys.eraseDups.length := by
  refine ((nodup_eraseDups xs).subperm fun x hx => ?_).length_le
  exact List.mem_eraseDups.mpr (hsub x (List.mem_eraseDups.mp hx))

theorem length_eraseDups_perm {xs ys : List α} (hperm : xs.Perm ys) : xs.eraseDups.length = ys.eraseDups.length :=
  Nat.le_antisymm (length_eraseDups_le fun _ hx => hperm.mem_iff.mp hx)
    (length_eraseDups_le fun _ hx => hperm.mem_iff.mpr hx)

end

end Bursts
