import Mathlib.Data.List.Basic

/-!
# Programs that fail and keep their effects

A request handler reads a state, writes it in steps and may fail between two of
them; what it wrote before the failure stays.  That is the monad
`ExceptT ε (StateM σ)`.  This module gives it a weakest precondition, `after`,
whose postcondition sees the outcome as well as the final state, so that one
specification covers success and failure.

- `after_bind` and its neighbours compute `after` through a handler;
- `after_mono` is the rule of consequence;
- `after_forM` is the loop rule: an invariant of every round holds in the end;
  `after_forM_each` adds what a loop that runs to the end did to each element;
- `onSuccess` restricts a postcondition to runs that succeed, and has the same rules
  without their failing branches.
-/

namespace Fallible

variable {ε σ : Type} {α β : Type}

/-- A program over the state `σ` that fails with an `ε`. -/
abbrev Program (ε σ α : Type) := ExceptT ε (StateM σ) α

def exec (m : Program ε σ α) (s : σ) : Except ε α × σ := StateT.run (ExceptT.run m) s

/-- `Q` holds of the outcome and the final state of `m` started in `s`. -/
def after (m : Program ε σ α) (Q : Except ε α → σ → Prop) (s : σ) : Prop :=
  Q (exec m s).1 (exec m s).2

def query (f : σ → α) : Program ε σ α := fun s => (.ok (f s), s)

def write (f : σ → σ) : Program ε σ Unit := fun s => (.ok (), f s)

def tryWrite (f : σ → Option σ) (e : ε) : Program ε σ Unit := fun s =>
  match f s with
  | some s' => (.ok (), s')
  | none => (.error e, s)

/-- Fail with `e`. -/
def fail (e : ε) : Program ε σ α := fun s => (.error e, s)

/-- Fail with `e` unless `c` holds. -/
def ensure (c : Bool) (e : ε) : Program ε σ Unit := if c then pure () else fail e

def orFail (o : Option α) (e : ε) : Program ε σ α :=
  match o with
  | some a => pure a
  | none => fail e

def outcome (r : Except ε α) : Program ε σ α := fun s => (r, s)

def swallow (m : Program ε σ α) : Program ε σ Unit := fun s => (.ok (), (exec m s).2)

def mapError (f : ε → ε) (m : Program ε σ α) : Program ε σ α := fun s =>
  match m s with
  | (.ok a, s') => (.ok a, s')
  | (.error e, s') => (.error (f e), s')

/-! ## Computing `after` -/

variable {m m' : Program ε σ α} {Q : Except ε α → σ → Prop} {s : σ} {a : α} {e : ε} {r : Except ε α}
  {f : α → Program ε σ β} {I : σ → Prop} {c : Bool} {o : Option α} {xs : List α} {P : α → σ → Prop}

theorem after_iff : after m Q s ↔ Q (exec m s).1 (exec m s).2 := Iff.rfl

theorem after_mono {Q Q' : Except ε α → σ → Prop}
    (hafter : after m Q s) (himp : ∀ r s', Q r s' → Q' r s') : after m Q' s :=
  himp _ _ hafter

@[simp] theorem after_pure : after (pure a : Program ε σ α) Q s ↔ Q (.ok a) s := Iff.rfl

@[simp] theorem after_fail : after (fail e : Program ε σ α) Q s ↔ Q (.error e) s := Iff.rfl

@[simp] theorem after_query {f : σ → α} : after (query f : Program ε σ α) Q s ↔ Q (.ok (f s)) s := Iff.rfl

@[simp] theorem after_write {f : σ → σ} {Q : Except ε Unit → σ → Prop} :
    after (write f : Program ε σ Unit) Q s ↔ Q (.ok ()) (f s) := Iff.rfl

theorem after_tryWrite {f : σ → Option σ} {Q : Except ε Unit → σ → Prop} :
    after (tryWrite f e : Program ε σ Unit) Q s ↔
      (∀ s', f s = some s' → Q (.ok ()) s') ∧ (f s = none → Q (.error e) s) := by
  simp only [after, exec, tryWrite, ExceptT.run, StateT.run]
  cases f s with
  | none => simp
  | some s' => simp

@[simp] theorem after_outcome : after (outcome r : Program ε σ α) Q s ↔ Q r s := Iff.rfl

@[simp] theorem after_swallow {Q : Except ε Unit → σ → Prop} :
    after (swallow m) Q s ↔ after m (fun _ s' => Q (.ok ()) s') s := Iff.rfl

@[simp] theorem after_bind {Q : Except ε β → σ → Prop} : after (m >>= f) Q s ↔
      after m (fun r s' => match r with
        | .ok a => after (f a) Q s'
        | .error e => Q (.error e) s') s := by
  simp only [after, exec, bind, ExceptT.bind, ExceptT.mk, ExceptT.run, StateT.bind, StateT.run]
  cases hm : m s with
  | mk r s' =>
      cases r with
      | ok a => rfl
      | error e => rfl

theorem exec_bind_ok {m : Program ε σ α} {f : α → Program ε σ β} {s s' : σ} {a : α}
    (hm : exec m s = (.ok a, s')) : exec (m >>= f) s = exec (f a) s' := by
  change m s = (.ok a, s') at hm
  simp only [exec, bind, ExceptT.bind, ExceptT.mk, ExceptT.run, StateT.bind, StateT.run, hm]
  rfl

theorem after_bind_ok {Q : Except ε β → σ → Prop}
    {s s' : σ} (hm : exec m s = (.ok a, s')) (hf : after (f a) Q s') : after (m >>= f) Q s := by
  rw [after, exec_bind_ok hm]
  exact hf

theorem exec_bind_error {m : Program ε σ α} {f : α → Program ε σ β} {s s' : σ} {e : ε}
    (hm : exec m s = (.error e, s')) : exec (m >>= f) s = (.error e, s') := by
  change m s = (.error e, s') at hm
  simp only [exec, bind, ExceptT.bind, ExceptT.mk, ExceptT.run, StateT.bind, StateT.run, hm]
  rfl

theorem after_bind_of {Q : Except ε β → σ → Prop} (hm : after m (fun _ s' => I s') s)
    (herror : ∀ e s', I s' → Q (.error e) s') (hf : ∀ a s', I s' → after (f a) Q s') :
    after (m >>= f) Q s := by
  rw [after_bind]
  refine after_mono hm fun r s' hs' => ?_
  cases r with
  | ok a => exact hf a s' hs'
  | error e => exact herror e s' hs'

theorem after_bind_keep
    (hm : after m (fun _ s' => I s') s) (hf : ∀ a s', I s' → after (f a) (fun _ s'' => I s'') s') :
    after (m >>= f) (fun _ s' => I s') s :=
  after_bind_of hm (fun _ _ h => h) hf

@[simp] theorem after_ensure {Q : Except ε Unit → σ → Prop} : after (ensure c e : Program ε σ Unit) Q s ↔
      (c = true → Q (.ok ()) s) ∧ (c = false → Q (.error e) s) := by
  cases c with
  | false => simp [ensure]
  | true => simp [ensure]

@[simp] theorem after_orFail : after (orFail o e : Program ε σ α) Q s ↔
      (∀ a, o = some a → Q (.ok a) s) ∧ (o = none → Q (.error e) s) := by
  cases o with
  | none => simp [orFail]
  | some a => simp [orFail]

@[simp] theorem after_ite {c : Prop} [Decidable c] :
    after (if c then m else m') Q s ↔ (c → after m Q s) ∧ (¬ c → after m' Q s) := by
  by_cases hc : c
  · simp [hc]
  · simp [hc]

@[simp] theorem after_mapError {f : ε → ε} : after (mapError f m) Q s ↔ after m (fun r s' => match r with
        | .ok a => Q (.ok a) s'
        | .error e => Q (.error (f e)) s') s := by
  simp only [after, exec, mapError, ExceptT.run, StateT.run]
  cases hm : m s with
  | mk r s' =>
      cases r with
      | ok a => rfl
      | error e => rfl

/-! ## Loops -/

@[simp] theorem after_forM_write {f : α → σ → σ} {Q : Except ε PUnit → σ → Prop} :
    after (forM xs fun x => write (f x) : Program ε σ PUnit) Q s ↔
      Q (.ok ⟨⟩) (xs.foldl (fun s x => f x s) s) := by
  induction xs generalizing s with
  | nil => exact Iff.rfl
  | cons x xs ih =>
      rw [List.forM_cons, after_bind, after_write, List.foldl_cons]
      exact ih

theorem after_forM {f : α → Program ε σ PUnit}
    (hround : ∀ x ∈ xs, ∀ s, I s → after (f x) (fun _ s' => I s') s) (hs : I s) :
    after (forM xs f) (fun _ s' => I s') s := by
  induction xs generalizing s with
  | nil => exact hs
  | cons x xs ih =>
      rw [List.forM_cons, after_bind]
      refine after_mono (hround x List.mem_cons_self s hs) fun r s' hs' => ?_
      cases r with
      | error e => exact hs'
      | ok _ => exact ih (fun y hy => hround y (List.mem_cons_of_mem x hy)) hs'

/-- A loop that runs to the end did every round: what a round that succeeds establishes,
and no round undoes, holds of every element. -/
theorem after_forM_each {I : σ → Prop} {D : α → σ → Prop} {f : α → Program ε σ PUnit} {xs : List α} {s : σ}
    (hround : ∀ x ∈ xs, ∀ s, I s → after (f x) (fun r s' => I s' ∧ (∀ y, D y s → D y s') ∧
      (r = .ok ⟨⟩ → D x s')) s) (hs : I s) : after (forM xs f) (fun r s' => I s' ∧ (∀ y, D y s → D y s') ∧
      (r = .ok ⟨⟩ → ∀ x ∈ xs, D x s')) s := by
  induction xs generalizing s with
  | nil => exact ⟨hs, fun _ h => h, fun _ => by simp⟩
  | cons x xs ih =>
      rw [List.forM_cons, after_bind]
      refine after_mono (hround x List.mem_cons_self s hs) fun r s₁ ⟨hs₁, hkeep, hdone⟩ => ?_
      cases r with
      | error e => exact ⟨hs₁, hkeep, nofun⟩
      | ok _ =>
          have hrest := ih (fun y hy => hround y (List.mem_cons_of_mem x hy)) hs₁
          refine after_mono hrest fun r s₂ ⟨hs₂, hkeep', hdone'⟩ => ?_
          refine ⟨hs₂, fun y hy => hkeep' y (hkeep y hy), fun hok => ?_⟩
          exact List.forall_mem_cons.mpr ⟨hkeep' x (hdone rfl), hdone' hok⟩

theorem after_forM_ok {f : α → Program ε σ PUnit}
    (hround : ∀ x ∈ xs, ∀ s, after (f x) (fun r _ => r = .ok ⟨⟩) s) :
    after (forM xs f) (fun r _ => r = .ok ⟨⟩) s := by
  induction xs generalizing s with
  | nil => rfl
  | cons x xs ih =>
      rw [List.forM_cons, after_bind]
      refine after_mono (hround x List.mem_cons_self s) fun r s₁ hok => ?_
      subst hok
      exact ih fun y hy => hround y (List.mem_cons_of_mem x hy)

/-! ## Successful runs -/

/-- If `m` started in `s` succeeds, then `P` holds of the value and the final state. -/
def onSuccess (m : Program ε σ α) (P : α → σ → Prop) (s : σ) : Prop :=
  after m (fun r s' => ∀ a, r = .ok a → P a s') s

theorem onSuccess_iff : onSuccess m P s ↔ ∀ a, (exec m s).1 = .ok a → P a (exec m s).2 := Iff.rfl

theorem onSuccess_mono {P P' : α → σ → Prop}
    (hsuccess : onSuccess m P s) (himp : ∀ a s', P a s' → P' a s') : onSuccess m P' s :=
  fun a ha => himp a _ (hsuccess a ha)

theorem onSuccess_of_after {m : Program ε σ α} {Q : Except ε α → σ → Prop} {P : α → σ → Prop}
    {s : σ} (hafter : after m Q s) (himp : ∀ a s', Q (.ok a) s' → P a s') : onSuccess m P s := by
  intro a ha
  refine himp a _ ?_
  rw [← ha]
  exact hafter

@[simp] theorem onSuccess_pure : onSuccess (pure a : Program ε σ α) P s ↔ P a s := by
  simp [onSuccess]

@[simp] theorem onSuccess_fail : onSuccess (fail e : Program ε σ α) P s := by
  simp [onSuccess]

@[simp] theorem onSuccess_query {f : σ → α} : onSuccess (query f : Program ε σ α) P s ↔ P (f s) s := by
  simp [onSuccess]

@[simp] theorem onSuccess_write {f : σ → σ} {P : Unit → σ → Prop} :
    onSuccess (write f : Program ε σ Unit) P s ↔ P () (f s) := by
  rw [onSuccess, after_write]
  exact ⟨fun h => h () rfl, fun h _ _ => h⟩

@[simp] theorem onSuccess_ensure {P : Unit → σ → Prop} :
    onSuccess (ensure c e : Program ε σ Unit) P s ↔ (c = true → P () s) := by
  cases c with
  | false => simp [ensure]
  | true => simp [ensure]

@[simp] theorem onSuccess_orFail : onSuccess (orFail o e : Program ε σ α) P s ↔ ∀ a, o = some a → P a s := by
  cases o with
  | none => simp [orFail]
  | some a => simp [orFail]

@[simp] theorem onSuccess_outcome :
    onSuccess (outcome r : Program ε σ α) P s ↔ ∀ a, r = .ok a → P a s := Iff.rfl

theorem onSuccess_tryWrite {f : σ → Option σ} {P : Unit → σ → Prop} :
    onSuccess (tryWrite f e : Program ε σ Unit) P s ↔ ∀ s', f s = some s' → P () s' := by
  rw [onSuccess, after_tryWrite]
  exact ⟨fun h s' hs' => h.1 s' hs' () rfl, fun h => ⟨fun s' hs' _ _ => h s' hs', fun _ => nofun⟩⟩

@[simp] theorem onSuccess_bind {P : β → σ → Prop} : onSuccess (m >>= f) P s ↔ onSuccess m (fun a s' => onSuccess (f a) P s') s := by
  rw [onSuccess, after_bind]
  unfold onSuccess
  rw [after_iff, after_iff]
  cases (exec m s).1 with
  | error e => simp
  | ok a => simp

@[simp] theorem onSuccess_ite {c : Prop} [Decidable c] : onSuccess (if c then m else m') P s ↔
      (c → onSuccess m P s) ∧ (¬ c → onSuccess m' P s) := by
  by_cases hc : c
  · simp [hc]
  · simp [hc]

theorem onSuccess_forM {I : σ → Prop} {f : α → Program ε σ PUnit} {xs : List α} {s : σ}
    (hround : ∀ x ∈ xs, ∀ s, I s → onSuccess (f x) (fun _ s' => I s') s) (hs : I s) :
    onSuccess (forM xs f) (fun _ s' => I s') s := by
  induction xs generalizing s with
  | nil => exact onSuccess_pure.mpr hs
  | cons x xs ih =>
      rw [List.forM_cons, onSuccess_bind]
      refine onSuccess_mono (hround x List.mem_cons_self s hs) fun _ s₁ hs₁ => ?_
      exact ih (fun y hy => hround y (List.mem_cons_of_mem x hy)) hs₁

/-- A loop that runs to the end did every round: what a successful round establishes, and no
other undoes, holds of every element. -/
theorem onSuccess_forM_each {I : σ → Prop} {D : α → σ → Prop} {f : α → Program ε σ PUnit}
    {xs : List α} {s : σ}
    (hround : ∀ x ∈ xs, ∀ s, I s → onSuccess (f x) (fun _ s' => I s' ∧ (∀ y, D y s → D y s') ∧
      D x s') s) (hs : I s) :
    onSuccess (forM xs f) (fun _ s' => I s' ∧ (∀ y, D y s → D y s') ∧ ∀ x ∈ xs, D x s') s := by
  induction xs generalizing s with
  | nil => exact onSuccess_pure.mpr ⟨hs, fun _ hy => hy, by simp⟩
  | cons x xs ih =>
      rw [List.forM_cons, onSuccess_bind]
      refine onSuccess_mono (hround x List.mem_cons_self s hs) fun _ s₁ ⟨hs₁, hkeep, hdone⟩ => ?_
      refine onSuccess_mono (ih (fun y hy => hround y (List.mem_cons_of_mem x hy)) hs₁)
        fun _ s₂ ⟨hs₂, hkeep', hdone'⟩ => ?_
      exact ⟨hs₂, fun y hy => hkeep' y (hkeep y hy),
        List.forall_mem_cons.mpr ⟨hkeep' x hdone, hdone'⟩⟩

end Fallible
