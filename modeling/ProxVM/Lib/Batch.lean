import ProxVM.Lib.Fallible

/-!
# Batches

A batch runs a program for one key after the other, each from the state that the one before left,
and keeps how each ended (`eachItem`).  `Itemwise R` says of the results of a batch that `R` relates
every key to the state it started from, its result and the state it left; `after_eachItem` proves
it from what holds of each program by itself.

When only some keys are run and the others are turned away, the results together are itemwise
those of all keys (`Itemwise.merge`).
-/

namespace Fallible

variable {ε σ κ α : Type}

def attempt (m : Program ε σ α) : Program ε σ (Except ε α) := fun s =>
  (.ok (exec m s).1, (exec m s).2)

def eachItem (f : κ → Program ε σ α) : List κ → Program ε σ (List (κ × Except ε α))
  | [] => pure []
  | k :: ks => do
      let result ← attempt (f k)
      let rest ← eachItem f ks
      pure ((k, result) :: rest)

def Itemwise (R : κ → σ → Except ε α → σ → Prop) :
    List κ → σ → List (κ × Except ε α) → σ → Prop
  | [], s, results, s' => results = [] ∧ s' = s
  | k :: ks, s, results, s' => ∃ result rest s₁, results = (k, result) :: rest ∧
      R k s result s₁ ∧ Itemwise R ks s₁ rest s'

def resultOf [DecidableEq κ] (results : List (κ × Except ε α)) (k : κ) : Option (Except ε α) :=
  (results.find? fun item => decide (item.1 = k)).map Prod.snd

section rules

variable {R R' : κ → σ → Except ε α → σ → Prop} {ks : List κ} {s s' : σ}
  {results : List (κ × Except ε α)}

@[simp] theorem after_attempt {m : Program ε σ α} {Q : Except ε (Except ε α) → σ → Prop} :
    after (attempt m) Q s ↔ after m (fun r s' => Q (.ok r) s') s := Iff.rfl

/-- **The rule of batches**, with an invariant of the states between the items. -/
theorem after_eachItem {I : σ → Prop} {f : κ → Program ε σ α}
    (hitem : ∀ k ∈ ks, ∀ s, I s → after (f k) (fun r s' => R k s r s' ∧ I s') s) (hs : I s) :
    after (eachItem f ks) (fun r s' => ∃ results, r = .ok results ∧ Itemwise R ks s results s') s := by
  induction ks generalizing s with
  | nil => exact ⟨[], rfl, rfl, rfl⟩
  | cons k ks ih =>
      simp only [eachItem, after_bind, after_attempt, after_pure]
      refine after_mono (hitem k List.mem_cons_self s hs) ?_
      rintro result s₁ ⟨hresult, hs₁⟩
      refine after_mono (ih (fun k hk => hitem k (List.mem_cons_of_mem _ hk)) hs₁) ?_
      rintro r s' ⟨rest, rfl, hrest⟩
      exact ⟨_, rfl, result, rest, s₁, rfl, hresult, hrest⟩

theorem Itemwise.keys (h : Itemwise R ks s results s') : results.map Prod.fst = ks := by
  induction ks generalizing s results with
  | nil =>
      obtain ⟨rfl, -⟩ := h
      rfl
  | cons k ks ih =>
      obtain ⟨result, rest, s₁, rfl, -, hrest⟩ := h
      rw [List.map_cons, ih hrest]

theorem itemwise_const (ks : List κ) (s : σ) (result : Except ε α)
    (hresult : ∀ k ∈ ks, R k s result s) : Itemwise R ks s (ks.map fun k => (k, result)) s := by
  induction ks with
  | nil => exact ⟨rfl, rfl⟩
  | cons k ks ih =>
      exact ⟨result, _, s, rfl, hresult k List.mem_cons_self,
        ih fun k hk => hresult k (List.mem_cons_of_mem _ hk)⟩

theorem resultOf_eq_some [DecidableEq κ] {k : κ} {result : Except ε α} (hkeys : (results.map Prod.fst).Nodup)
    (hmem : (k, result) ∈ results) : resultOf results k = some result := by
  induction results with
  | nil => exact absurd hmem List.not_mem_nil
  | cons item rest ih =>
      rw [List.map_cons, List.nodup_cons] at hkeys
      rcases List.mem_cons.mp hmem with rfl | hmem
      · simp only [resultOf, List.find?_cons_of_pos, decide_true, Option.map_some]
      · have hne : item.1 ≠ k := by
          rintro rfl
          exact hkeys.1 (List.mem_map.mpr ⟨_, hmem, rfl⟩)
        rw [resultOf, List.find?_cons_of_neg (by simpa using hne)]
        exact ih hkeys.2 hmem

/-- **The keys that are let through and those that are turned away**, each in its place. -/
theorem Itemwise.merge {I : σ → Prop} {p : κ → Bool} {answer : κ → Except ε α}
    (h : Itemwise R (ks.filter p) s results s') (hs : I s) (denied : Except ε α)
    (hkeep : ∀ k ∈ ks, ∀ s r s', I s → R k s r s' → R' k s r s' ∧ I s')
    (hturned : ∀ k ∈ ks, p k = false → ∀ s, I s → R' k s denied s)
    (hrun : ∀ k result, (k, result) ∈ results → answer k = result)
    (hdenied : ∀ k ∈ ks, p k = false → answer k = denied) :
    Itemwise R' ks s (ks.map fun k => (k, answer k)) s' := by
  induction ks generalizing s results with
  | nil =>
      obtain ⟨-, rfl⟩ := h
      exact ⟨rfl, rfl⟩
  | cons k ks ih =>
      have hrest : ∀ {s results}, Itemwise R (ks.filter p) s results s' → I s →
          (∀ k result, (k, result) ∈ results → answer k = result) →
          Itemwise R' ks s (ks.map fun k => (k, answer k)) s' := fun h hs hrun =>
        ih h hs (fun k hk => hkeep k (List.mem_cons_of_mem _ hk))
          (fun k hk => hturned k (List.mem_cons_of_mem _ hk)) hrun
          fun k hk => hdenied k (List.mem_cons_of_mem _ hk)
      cases hp : p k with
      | true =>
          rw [List.filter_cons_of_pos hp] at h
          obtain ⟨result, rest, s₁, rfl, hresult, htail⟩ := h
          obtain ⟨hkept, hs₁⟩ := hkeep k List.mem_cons_self s result s₁ hs hresult
          refine ⟨answer k, _, s₁, rfl, ?_, hrest htail hs₁ fun k r hmem => ?_⟩
          · rw [hrun k result List.mem_cons_self]
            exact hkept
          · exact hrun k r (List.mem_cons_of_mem _ hmem)
      | false =>
          rw [List.filter_cons_of_neg (by rw [hp]; exact Bool.false_ne_true)] at h
          refine ⟨answer k, _, s, rfl, ?_, hrest h hs hrun⟩
          rw [hdenied k List.mem_cons_self hp]
          exact hturned k List.mem_cons_self hp s hs

end rules

end Fallible
