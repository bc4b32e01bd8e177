import ProxVM.Lib.Fallible

/-!
# Servers whose calls fail by a script

A program that calls a server one call after the other may be stopped by each of them.  Here the
server's state carries a script: every call takes the next fate from it, and a call whose fate is an
error fails with it and changes nothing.  A script that is used up lets every further call succeed.

- `Passes.bind` and `Passes.forM` compute it; a loop visits the states of `visits`.
- `Passes.settled` and `Passes.after` say what any script leaves, and `Passes.fault` that every
  visited state is left by some script.
-/

namespace Fallible

variable {ε σ α β ι : Type}

structure Scripted (ε σ : Type) where
  state : σ
  script : List (Option ε)

def scripted (f : σ → Except ε α × σ) : Program ε (Scripted ε σ) α := fun s =>
  match s.script with
  | some e :: rest => (.error e, { s with script := rest })
  | none :: rest => ((f s.state).1, ⟨(f s.state).2, rest⟩)
  | [] => ((f s.state).1, ⟨(f s.state).2, []⟩)

/-- The end of a program that makes its calls from `visited`, answers `r` and leaves `s'`. -/
def scriptedEnd (r : Except ε α) (s' : σ) :
    List σ → List (Option ε) → Except ε α × Scripted ε σ
  | [], script => (r, ⟨s', script⟩)
  | s :: _, some e :: rest => (.error e, ⟨s, rest⟩)
  | _ :: visited, none :: rest => scriptedEnd r s' visited rest
  | _ :: visited, [] => scriptedEnd r s' visited []

/-- `m` makes its calls from `visited`, one after the other. -/
def Passes (m : Program ε (Scripted ε σ) α) (s : σ) (visited : List σ) (r : Except ε α) (s' : σ) :
    Prop :=
  ∀ script, exec m ⟨s, script⟩ = scriptedEnd r s' visited script

variable {m : Program ε (Scripted ε σ) α} {s s' s₁ : σ} {visited visited' : List σ}
  {r : Except ε α}

/-! ## Computing the states -/

variable {a : α} {f : α → Program ε (Scripted ε σ) β}

theorem passes_pure : Passes (pure a : Program ε (Scripted ε σ) α) s [] (.ok a) s :=
  fun _ => rfl

theorem passes_outcome : Passes (outcome r : Program ε (Scripted ε σ) α) s [] r s :=
  fun _ => rfl

theorem passes_scripted (f : σ → Except ε α × σ) : Passes (scripted f) s [s] (f s).1 (f s).2 := by
  intro script
  cases script with
  | nil => rfl
  | cons fate rest =>
      cases fate with
      | none => rfl
      | some e => rfl

theorem Passes.bind {r : Except ε β}
    (hm : Passes m s visited (.ok a) s₁) (hf : Passes (f a) s₁ visited' r s') :
    Passes (m >>= f) s (visited ++ visited') r s' := by
  intro script
  -- The calls of `m` that are left, and the rest of the script.
  have hrest : ∀ (visited : List σ) (rest : List (Option ε)),
      exec m ⟨s, script⟩ = scriptedEnd (.ok a) s₁ visited rest →
        exec (m >>= f) ⟨s, script⟩ = scriptedEnd r s' (visited ++ visited') rest := by
    intro visited
    induction visited with
    | nil =>
        intro rest hexec
        rw [exec_bind_ok hexec]
        exact hf rest
    | cons v visited ih =>
        intro rest hexec
        cases rest with
        | nil => exact ih [] hexec
        | cons fate rest =>
            cases fate with
            | none => exact ih rest hexec
            | some e => exact exec_bind_error hexec
  exact hrest visited script (hm script)

theorem Passes.bind_error {e : ε}
    (hm : Passes m s visited (.error e) s') : Passes (m >>= f) s visited (.error e) s' := by
  intro script
  have hrest : ∀ (visited : List σ) (rest : List (Option ε)),
      exec m ⟨s, script⟩ = scriptedEnd (.error e) s' visited rest →
        exec (m >>= f) ⟨s, script⟩ = scriptedEnd (.error e) s' visited rest := by
    intro visited
    induction visited with
    | nil => exact fun rest hexec => exec_bind_error hexec
    | cons v visited ih =>
        intro rest hexec
        cases rest with
        | nil => exact ih [] hexec
        | cons fate rest =>
            cases fate with
            | none => exact ih rest hexec
            | some e => exact exec_bind_error hexec
  exact hrest visited script (hm script)

def visits (g : ι → σ → σ) : List ι → σ → List σ
  | [], _ => []
  | x :: xs, s => s :: visits g xs (g x s)

theorem visits_append (g : ι → σ → σ) (xs ys : List ι) (s : σ) :
    visits g (xs ++ ys) s = visits g xs s ++ visits g ys (xs.foldl (fun s x => g x s) s) := by
  induction xs generalizing s with
  | nil => rfl
  | cons x xs ih => exact congrArg (s :: ·) (ih (g x s))

/-! ## What a script leaves -/

theorem Passes.settled (h : Passes m s visited r s') (script : List (Option ε)) :
    (∃ rest, exec m ⟨s, script⟩ = (r, ⟨s', rest⟩)) ∨
      ∃ e, ∃ s₁ ∈ visited, ∃ rest, exec m ⟨s, script⟩ = (.error e, ⟨s₁, rest⟩) := by
  rw [h script]
  clear h
  induction visited generalizing script with
  | nil => exact .inl ⟨script, rfl⟩
  | cons v visited ih =>
      have hlater : ∀ rest : List (Option ε),
          (∃ rest', scriptedEnd r s' visited rest = (r, ⟨s', rest'⟩)) ∨
            ∃ e, ∃ s₁ ∈ v :: visited, ∃ rest', scriptedEnd r s' visited rest =
              (.error e, ⟨s₁, rest'⟩) := by
        intro rest
        rcases ih rest with hends | ⟨e, s₁, hmem, hfails⟩
        · exact .inl hends
        · exact .inr ⟨e, s₁, List.mem_cons_of_mem v hmem, hfails⟩
      cases script with
      | nil => exact hlater []
      | cons fate rest =>
          cases fate with
          | none => exact hlater rest
          | some e => exact .inr ⟨e, v, List.mem_cons_self, rest, rfl⟩

theorem Passes.after {Q : Except ε α → Scripted ε σ → Prop} (h : Passes m s visited r s')
    (hend : ∀ rest, Q r ⟨s', rest⟩)
    (hfault : ∀ e, ∀ s₁ ∈ visited, ∀ rest, Q (.error e) ⟨s₁, rest⟩) (script : List (Option ε)) :
    Fallible.after m Q ⟨s, script⟩ := by
  rw [after_iff]
  rcases h.settled script with ⟨rest, hexec⟩ | ⟨e, s₁, hmem, rest, hexec⟩
  · rw [hexec]
    exact hend rest
  · rw [hexec]
    exact hfault e s₁ hmem rest

theorem Passes.fault (h : Passes m s visited r s') (hmem : s₁ ∈ visited) (e : ε) :
    ∃ script, exec m ⟨s, script⟩ = (.error e, ⟨s₁, []⟩) := by
  have hend : ∃ script, scriptedEnd r s' visited script = (.error e, ⟨s₁, []⟩) := by
    clear h
    induction visited with
    | nil => cases hmem
    | cons v visited ih =>
        cases hmem with
        | head => exact ⟨[some e], rfl⟩
        | tail _ hlater =>
            obtain ⟨script, hscript⟩ := ih hlater
            exact ⟨none :: script, hscript⟩
  obtain ⟨script, hscript⟩ := hend
  exact ⟨script, (h script).trans hscript⟩

end Fallible
