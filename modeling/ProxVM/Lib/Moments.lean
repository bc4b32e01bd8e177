import Mathlib.Data.List.Basic

/-!
# Moments of a run

A machine makes a step on an event, or cannot: `step : σ → E → Option σ`.  A run is kept as the list of its
moments, the last one first.
-/

namespace Machine

variable {σ E : Type}

structure Moment (σ E : Type) where
  before : σ
  event : E
  after : σ

inductive Run (step : σ → E → Option σ) (start : σ) : List (Moment σ E) → σ → Prop
  | nil : Run step start [] start
  | cons {moments : List (Moment σ E)} {s s' : σ} (hrun : Run step start moments s) (event : E)
      (hstep : step s event = some s') : Run step start (⟨s, event, s'⟩ :: moments) s'

variable {step : σ → E → Option σ} {start s : σ} {moments : List (Moment σ E)} {I : σ → Prop}
  {good bad : Moment σ E → Prop}

theorem Run.keeps (hrun : Run step start moments s) (hstart : I start)
    (hkeep : ∀ m, I m.before → step m.before m.event = some m.after → good m → I m.after)
    (hgood : ∀ m ∈ moments, good m) : I s := by
  induction hrun with
  | nil => exact hstart
  | cons _ _ hstep ih =>
      exact hkeep _ (ih fun m hm => hgood m (List.mem_cons_of_mem _ hm)) hstep (hgood _ List.mem_cons_self)

/-- **Good throughout, or bad somewhere.** -/
theorem Run.forall_iff (hrun : Run step start moments s) (hstart : I start)
    (hkeep : ∀ m, I m.before → step m.before m.event = some m.after → good m → I m.after)
    (hgood : ∀ m, I m.before → step m.before m.event = some m.after → (good m ↔ ¬ bad m)) :
    (∀ m ∈ moments, good m) ↔ ∀ m ∈ moments, ¬ bad m := by
  induction hrun with
  | nil => exact iff_of_true (fun m hm => by cases hm) fun m hm => by cases hm
  | cons hrun _ hstep ih =>
      rw [List.forall_mem_cons, List.forall_mem_cons, ih]
      refine and_congr_left fun hbefore => ?_
      exact hgood _ (hrun.keeps hstart hkeep (ih.mpr hbefore)) hstep

end Machine
