import Mathlib.Logic.Function.Basic
import Mathlib.Order.Basic

/-!
# Delegation

Authority that is passed on: a first holder has an authority, and whoever holds one may pass a
smaller one to anybody, in any order and as often as they like; what is passed replaces what
the receiver held.  Nobody ever holds more than the first holder started with
(`Delegates.le_root`).
-/

namespace Delegation

variable {ι α : Type} [DecidableEq ι] [Preorder α]

/-- What everybody holds after some delegations, when `first` started with `root`. -/
inductive Delegates (first : ι) (root : α) : (ι → Option α) → Prop
  | start : Delegates first root (Function.update (fun _ => none) first (some root))
  | pass {held : ι → Option α} {giver : ι} {a : α} (hheld : Delegates first root held)
      (hgiver : held giver = some a) (receiver : ι) {b : α} (hle : b ≤ a) :
      Delegates first root (Function.update held receiver (some b))

/-- **Delegation only narrows.** -/
theorem Delegates.le_root {first : ι} {root : α} {held : ι → Option α}
    (h : Delegates first root held) : ∀ holder a, held holder = some a → a ≤ root := by
  induction h with
  | start =>
      intro holder a hheld
      rw [Function.update_apply] at hheld
      split at hheld
      · cases hheld
        exact le_rfl
      · cases hheld
  | pass hheld hgiver receiver hle ih =>
      intro holder a hholds
      rw [Function.update_apply] at hholds
      split at hholds
      · cases hholds
        exact hle.trans (ih _ _ hgiver)
      · exact ih holder a hholds

end Delegation
