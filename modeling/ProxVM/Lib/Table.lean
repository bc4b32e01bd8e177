import Mathlib.Data.List.Nodup
import Mathlib.Data.List.Dedup

/-!
# Tables with a primary key

A `Table key` is a list of rows no two of which share their key.  The
uniqueness of the key is a field of the structure, so no operation can build a
table that violates its primary key, and a lookup by key determines the row.

`find?`, `insert?`, `put` (an "upsert"), `deleteWhere` and `updateWhere` each come with one
membership lemma, which is all that later proofs use of them.  `leftJoin` is the `LEFT JOIN` of two lists of rows.
-/

namespace Tables

variable {ρ κ : Type}

/-- Rows of type `ρ` with pairwise different keys. -/
structure Table (key : ρ → κ) where
  rows : List ρ
  nodup : (rows.map key).Nodup

namespace Table

variable {key : ρ → κ}

instance : Membership ρ (Table key) := ⟨fun t r => r ∈ t.rows⟩

theorem mem_def {t : Table key} {r : ρ} : r ∈ t ↔ r ∈ t.rows := Iff.rfl

instance [DecidableEq ρ] (t : Table key) (r : ρ) : Decidable (r ∈ t) :=
  inferInstanceAs (Decidable (r ∈ t.rows))

instance (t : Table key) (p : ρ → Prop) [DecidablePred p] : Decidable (∀ r, r ∈ t → p r) :=
  inferInstanceAs (Decidable (∀ r, r ∈ t.rows → p r))

instance (t : Table key) (p : ρ → Prop) [DecidablePred p] : Decidable (∃ r, r ∈ t ∧ p r) :=
  inferInstanceAs (Decidable (∃ r, r ∈ t.rows ∧ p r))

def empty : Table key := ⟨[], List.nodup_nil⟩

@[simp] theorem not_mem_empty (r : ρ) : r ∉ (empty : Table key) :=
  List.not_mem_nil

theorem eq_of_key_eq {t : Table key} {r r' : ρ} (hr : r ∈ t) (hr' : r' ∈ t)
    (hkey : key r = key r') : r = r' :=
  List.inj_on_of_nodup_map t.nodup hr hr' hkey

/-! ## Lookup -/

def find? [DecidableEq κ] (t : Table key) (k : κ) : Option ρ :=
  t.rows.find? fun r => decide (key r = k)

variable {k : κ} {f : ρ → ρ}

theorem find?_eq_some_iff [DecidableEq κ] {t : Table key} {r : ρ} :
    t.find? k = some r ↔ r ∈ t ∧ key r = k := by
  constructor
  · intro hfind
    exact ⟨List.mem_of_find?_eq_some hfind,
      of_decide_eq_true (List.find?_some (p := fun r => decide (key r = k)) hfind)⟩
  · rintro ⟨hmem, hkey⟩
    cases hfind : t.find? k with
    | none =>
        have hnone := List.find?_eq_none.mp hfind r hmem
        simp [hkey] at hnone
    | some r' =>
        have hkey' : key r' = k :=
          of_decide_eq_true (List.find?_some (p := fun r => decide (key r = k)) hfind)
        rw [eq_of_key_eq (List.mem_of_find?_eq_some hfind) hmem (hkey'.trans hkey.symm)]

theorem mem_of_find? [DecidableEq κ] {t : Table key} {r : ρ} (hfind : t.find? k = some r) : r ∈ t :=
  (find?_eq_some_iff.mp hfind).1

theorem key_of_find? [DecidableEq κ] {t : Table key} {r : ρ} (hfind : t.find? k = some r) : key r = k :=
  (find?_eq_some_iff.mp hfind).2

theorem find?_of_mem [DecidableEq κ] {t : Table key} {r : ρ} (hr : r ∈ t) : t.find? (key r) = some r :=
  find?_eq_some_iff.mpr ⟨hr, rfl⟩

theorem find?_eq_none_iff [DecidableEq κ] {t : Table key} : t.find? k = none ↔ ∀ r ∈ t, key r ≠ k := by
  simp only [find?, List.find?_eq_none, decide_eq_true_eq, mem_def, ne_eq]

theorem find?_congr [DecidableEq κ] {t t' : Table key}
    (hmem : ∀ r, key r = k → (r ∈ t ↔ r ∈ t')) : t.find? k = t'.find? k := by
  ext r
  simp only [find?_eq_some_iff]
  constructor
  · rintro ⟨hr, hkey⟩
    exact ⟨(hmem r hkey).mp hr, hkey⟩
  · rintro ⟨hr, hkey⟩
    exact ⟨(hmem r hkey).mpr hr, hkey⟩

/-! ## Insertion -/

/-- Append a row; `none` when its key is taken (a unique-constraint violation). -/
def insert? [DecidableEq κ] (t : Table key) (r : ρ) : Option (Table key) :=
  if h : key r ∈ t.rows.map key then
    none
  else
    some ⟨t.rows ++ [r], by
      simpa [List.nodup_append, t.nodup] using fun r' hr' heq => h (by
        simpa using ⟨r', hr', heq⟩)⟩

theorem insert?_eq_some [DecidableEq κ] {t t' : Table key} {r : ρ} (hins : t.insert? r = some t') :
    (∀ r' ∈ t, key r' ≠ key r) ∧ ∀ r', r' ∈ t' ↔ r' ∈ t ∨ r' = r := by
  unfold insert? at hins
  split at hins
  · cases hins
  · rename_i hfresh
    cases hins
    refine ⟨fun r' hr' heq => hfresh (List.mem_map.mpr ⟨r', hr', heq⟩), fun r' => ?_⟩
    simp [mem_def]

theorem insert?_isSome [DecidableEq κ] {t : Table key} {r : ρ}
    (hfresh : ∀ r' ∈ t, key r' ≠ key r) : ∃ t', t.insert? r = some t' := by
  unfold insert?
  split
  · rename_i htaken
    obtain ⟨r', hr', heq⟩ := List.mem_map.mp htaken
    exact absurd heq (hfresh r' hr')
  · exact ⟨_, rfl⟩

private theorem map_replace_key [DecidableEq κ] (rows : List ρ) (r : ρ) :
    (rows.map fun r' => if key r' = key r then r else r').map key = rows.map key := by
  rw [List.map_map]
  refine List.map_congr_left fun r' _ => ?_
  simp only [Function.comp_apply]
  split
  · rename_i heq
    exact heq.symm
  · rfl

def put [DecidableEq κ] (t : Table key) (r : ρ) : Table key :=
  if h : key r ∈ t.rows.map key then
    ⟨t.rows.map fun r' => if key r' = key r then r else r', by
      rw [map_replace_key]
      exact t.nodup⟩
  else
    ⟨t.rows ++ [r], by
      simpa [List.nodup_append, t.nodup] using fun r' hr' heq => h (by
        simpa using ⟨r', hr', heq⟩)⟩

@[simp] theorem mem_put [DecidableEq κ] {t : Table key} {r r' : ρ} :
    r' ∈ t.put r ↔ r' = r ∨ (r' ∈ t ∧ key r' ≠ key r) := by
  unfold put
  split
  · rename_i htaken
    obtain ⟨r₀, hr₀, hkey₀⟩ := List.mem_map.mp htaken
    simp only [mem_def, List.mem_map]
    constructor
    · rintro ⟨x, hx, rfl⟩
      split
      · exact Or.inl rfl
      · rename_i hne
        exact Or.inr ⟨hx, hne⟩
    · rintro (rfl | ⟨hmem, hne⟩)
      · exact ⟨r₀, hr₀, if_pos hkey₀⟩
      · exact ⟨r', hmem, if_neg hne⟩
  · rename_i hfresh
    simp only [mem_def, List.mem_append, List.mem_singleton]
    constructor
    · rintro (hmem | rfl)
      · exact Or.inr ⟨hmem, fun heq => hfresh (List.mem_map.mpr ⟨r', hmem, heq⟩)⟩
      · exact Or.inl rfl
    · rintro (rfl | ⟨hmem, -⟩)
      · exact Or.inr rfl
      · exact Or.inl hmem

theorem put_of_mem [DecidableEq κ] {t : Table key} {r : ρ} (hr : r ∈ t) : t.put r = t := by
  have htaken : key r ∈ t.rows.map key := List.mem_map.mpr ⟨r, hr, rfl⟩
  have hrows : (t.rows.map fun r' => if key r' = key r then r else r') = t.rows := by
    refine (List.map_congr_left fun r' hr' => ?_).trans t.rows.map_id'
    split
    · rename_i hkey
      exact eq_of_key_eq hr hr' hkey.symm
    · rfl
  unfold put
  rw [dif_pos htaken]
  cases t
  congr

theorem find?_put_self [DecidableEq κ] (t : Table key) (r : ρ) : (t.put r).find? (key r) = some r :=
  find?_eq_some_iff.mpr ⟨mem_put.mpr (Or.inl rfl), rfl⟩

theorem find?_put_of_ne [DecidableEq κ] (t : Table key) {r : ρ}
    (hne : key r ≠ k) : (t.put r).find? k = t.find? k := by
  refine find?_congr fun r' hkey => ?_
  rw [mem_put]
  constructor
  · rintro (rfl | ⟨hmem, -⟩)
    · exact absurd hkey hne
    · exact hmem
  · intro hmem
    exact Or.inr ⟨hmem, fun heq => hne (heq.symm.trans hkey)⟩

/-! ## Deletion and update -/

/-- Delete the rows that satisfy `p`. -/
def deleteWhere (t : Table key) (p : ρ → Bool) : Table key :=
  ⟨t.rows.filter fun r => !p r, t.nodup.sublist (List.filter_sublist.map key)⟩

@[simp] theorem mem_deleteWhere {t : Table key} {p : ρ → Bool} {r : ρ} :
    r ∈ t.deleteWhere p ↔ r ∈ t ∧ p r = false := by
  simp [deleteWhere, mem_def]

theorem find?_deleteWhere [DecidableEq κ] (t : Table key) (p : ρ → Bool) (k : κ) :
    (t.deleteWhere p).find? k = (t.find? k).filter fun r => !p r := by
  ext r
  rw [find?_eq_some_iff, mem_deleteWhere, Option.filter_eq_some_iff, find?_eq_some_iff]
  simp only [Bool.not_eq_true', and_right_comm]

/-- Rewrite the rows that satisfy `p` by `f`, which may not change a key. -/
def updateWhere (t : Table key) (p : ρ → Bool) (f : ρ → ρ)
    (hkey : ∀ r, key (f r) = key r) : Table key :=
  ⟨t.rows.map fun r => if p r then f r else r, by
    have hsame : (t.rows.map fun r => if p r then f r else r).map key = t.rows.map key := by
      rw [List.map_map]
      refine List.map_congr_left fun r _ => ?_
      simp only [Function.comp_apply]
      split
      · exact hkey r
      · rfl
    rw [hsame]
    exact t.nodup⟩

@[simp] theorem mem_updateWhere {t : Table key} {p : ρ → Bool} {hkey : ∀ r, key (f r) = key r} {r : ρ} :
    r ∈ t.updateWhere p f hkey ↔ ∃ r₀ ∈ t, r = if p r₀ then f r₀ else r₀ := by
  simp only [updateWhere, mem_def, List.mem_map]
  constructor
  · rintro ⟨r₀, hr₀, rfl⟩
    exact ⟨r₀, hr₀, rfl⟩
  · rintro ⟨r₀, hr₀, rfl⟩
    exact ⟨r₀, hr₀, rfl⟩

theorem updateWhere_fixed {t : Table key} {p : ρ → Bool}
    {hkey : ∀ r, key (f r) = key r} (hfixed : ∀ r ∈ t, p r = true → f r = r) :
    t.updateWhere p f hkey = t := by
  have hrows : (t.rows.map fun r => if p r then f r else r) = t.rows := by
    refine (List.map_congr_left fun r hr => ?_).trans t.rows.map_id'
    split
    · rename_i hmatch
      exact hfixed r hr hmatch
    · rfl
  cases t
  simp only [updateWhere] at hrows ⊢
  congr

theorem updateWhere_eq_self {t : Table key} {p : ρ → Bool}
    {hkey : ∀ r, key (f r) = key r} (hnone : ∀ r ∈ t, p r = false) : t.updateWhere p f hkey = t :=
  updateWhere_fixed fun r hr hmatch => by rw [hnone r hr] at hmatch; cases hmatch

theorem find?_updateWhere [DecidableEq κ] (t : Table key) (p : ρ → Bool) (f : ρ → ρ)
    (hkey : ∀ r, key (f r) = key r) (k : κ) :
    (t.updateWhere p f hkey).find? k = (t.find? k).map fun r => if p r then f r else r := by
  have hsame : ∀ r, key (if p r then f r else r) = key r := by
    intro r
    split
    · exact hkey r
    · rfl
  simp only [find?, updateWhere, List.find?_map, Function.comp_def, hsame]

theorem find?_updateWhere_cases {β : Type} [DecidableEq κ] {t : Table key} {g : ρ → β} {k k' : κ} {b : β}
    (hkey : ∀ r, key (f r) = key r)
    (hfound : ((t.updateWhere (fun r => decide (key r = k)) f hkey).find? k').map g = some b) :
    (k' = k ∧ ∃ r, t.find? k' = some r ∧ b = g (f r)) ∨ (k' ≠ k ∧ (t.find? k').map g = some b) := by
  rw [find?_updateWhere, Option.map_map] at hfound
  obtain ⟨r, hfind, rfl⟩ := Option.map_eq_some_iff.mp hfound
  have hk' : key r = k' := key_of_find? hfind
  by_cases hsame : k' = k
  · refine .inl ⟨hsame, r, hfind, ?_⟩
    rw [Function.comp_apply, hk', decide_eq_true hsame, if_pos rfl]
  · refine .inr ⟨hsame, ?_⟩
    rw [hfind, Option.map_some, Function.comp_apply, hk', decide_eq_false hsame, if_neg Bool.false_ne_true]

/-! ## Rows an operation leaves alone -/

section filter

variable {t : Table key} {p q : ρ → Bool} {r : ρ}

theorem filter_insert? [DecidableEq κ] {t' : Table key} (hins : t.insert? r = some t')
    (hp : p r = false) : t'.rows.filter p = t.rows.filter p := by
  unfold insert? at hins
  split at hins
  · cases hins
  · cases hins
    simp [List.filter_append, hp]

theorem filter_put [DecidableEq κ] (hp : ∀ r', key r' = key r → p r' = false) :
    (t.put r).rows.filter p = t.rows.filter p := by
  unfold put
  split
  · rw [List.filter_map]
    have hreplace : ∀ r', (p ∘ fun r' => if key r' = key r then r else r') r' = p r' := by
      intro r'
      simp only [Function.comp_apply]
      split
      · rename_i hkey
        rw [hp r rfl, hp r' hkey]
      · rfl
    rw [show (p ∘ fun r' => if key r' = key r then r else r') = p from funext hreplace]
    refine (List.map_congr_left fun r' hr' => ?_).trans (List.map_id' _)
    split
    · rename_i hkey
      have hmem := (List.mem_filter.mp hr').2
      rw [hp r' hkey] at hmem
      cases hmem
    · rfl
  · simp [List.filter_append, hp r rfl]

theorem filter_deleteWhere (hp : ∀ r, p r = true → q r = false) :
    (t.deleteWhere q).rows.filter p = t.rows.filter p := by
  rw [deleteWhere, List.filter_filter]
  refine List.filter_congr fun r _ => ?_
  cases hpr : p r with
  | false => rfl
  | true => rw [hp r hpr]; rfl

theorem filter_updateWhere {f : ρ → ρ} (hkey : ∀ r, key (f r) = key r)
    (hf : ∀ r, p (f r) = p r) (hp : ∀ r, p r = true → q r = false) :
    (t.updateWhere q f hkey).rows.filter p = t.rows.filter p := by
  rw [updateWhere, List.filter_map]
  have hupdate : ∀ r, (p ∘ fun r => if q r then f r else r) r = p r := by
    intro r
    simp only [Function.comp_apply]
    split
    · exact hf r
    · rfl
  rw [show (p ∘ fun r => if q r then f r else r) = p from funext hupdate]
  refine (List.map_congr_left fun r hr => ?_).trans (List.map_id' _)
  rw [hp r (List.mem_filter.mp hr).2]
  rfl

end filter

end Table

/-! ## Joins -/

/-- `LEFT JOIN`: every row with each of its partners, or with none where it has no partner. -/
def leftJoin {α β : Type} (rows : List α) (on : α → List β) : List (α × Option β) :=
  rows.flatMap fun a =>
    match on a with
    | [] => [(a, none)]
    | partners => partners.map fun b => (a, some b)

section leftJoin

variable {α β : Type} {rows : List α} {on : α → List β} {a : α}

theorem mem_leftJoin_some {b : β} : (a, some b) ∈ leftJoin rows on ↔ a ∈ rows ∧ b ∈ on a := by
  rw [leftJoin, List.mem_flatMap]
  constructor
  · rintro ⟨a', ha', hmem⟩
    split at hmem
    · cases List.mem_singleton.mp hmem
    · obtain ⟨b', hb', heq⟩ := List.mem_map.mp hmem
      cases heq
      exact ⟨ha', hb'⟩
  · rintro ⟨ha, hb⟩
    refine ⟨a, ha, ?_⟩
    split
    · rename_i hnone
      rw [hnone] at hb
      exact absurd hb List.not_mem_nil
    · exact List.mem_map.mpr ⟨b, hb, rfl⟩

theorem mem_of_mem_leftJoin {partner : Option β} (hmem : (a, partner) ∈ leftJoin rows on) : a ∈ rows := by
  obtain ⟨a', ha', hpairs⟩ := List.mem_flatMap.mp hmem
  split at hpairs
  · cases List.mem_singleton.mp hpairs
    exact ha'
  · obtain ⟨b, -, heq⟩ := List.mem_map.mp hpairs
    cases heq
    exact ha'

theorem exists_mem_leftJoin (ha : a ∈ rows) : ∃ partner, (a, partner) ∈ leftJoin rows on := by
  cases hpartners : on a with
  | nil =>
      refine ⟨none, List.mem_flatMap.mpr ⟨a, ha, ?_⟩⟩
      rw [hpartners]
      exact List.mem_singleton.mpr rfl
  | cons b partners =>
      refine ⟨some b, mem_leftJoin_some.mpr ⟨ha, ?_⟩⟩
      rw [hpartners]
      exact List.mem_cons_self

end leftJoin

end Tables
