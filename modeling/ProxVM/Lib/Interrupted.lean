import ProxVM.Lib.Solo

/-!
# Interrupted sequences of writes

Without a transaction, a sequence of writes that stops leaves those that it has made, and perhaps a part of the one in
which it stopped.

- `Completed` and `Interrupted` relate the states before and after;
- `Interrupted.completed_of_changed`: where only the last write touches a part of the state, a change there means that
  all of them have been made;
- `Performs` says which writes a program makes when its calls may fail; `Performs.bind` and its neighbours compute
  them along the program.
-/

namespace Interaction

open Prog Context

section writes

variable {σ γ : Type}

structure Write (σ : Type) where
  made : σ → σ → Prop
  torn : σ → σ → Prop

inductive Completed : List (Write σ) → σ → σ → Prop
  | nil {s : σ} : Completed [] s s
  | cons {w : Write σ} {ws : List (Write σ)} {s s₁ s' : σ} (hmade : w.made s s₁) (hrest : Completed ws s₁ s') :
      Completed (w :: ws) s s'

inductive Interrupted : List (Write σ) → σ → σ → Prop
  | here {ws : List (Write σ)} {s : σ} : Interrupted ws s s
  | amid {w : Write σ} {ws : List (Write σ)} {s s' : σ} (htorn : w.torn s s') : Interrupted (w :: ws) s s'
  | later {w : Write σ} {ws : List (Write σ)} {s s₁ s' : σ} (hmade : w.made s s₁) (hrest : Interrupted ws s₁ s') :
      Interrupted (w :: ws) s s'

variable {w : Write σ} {ws vs : List (Write σ)} {s s₁ s' : σ}

theorem completed_nil : Completed ([] : List (Write σ)) s s' ↔ s' = s := by
  constructor
  · intro h
    cases h
    rfl
  · rintro rfl
    exact .nil

theorem completed_cons : Completed (w :: ws) s s' ↔ ∃ s₁, w.made s s₁ ∧ Completed ws s₁ s' := by
  constructor
  · intro h
    cases h with
    | cons hmade hrest => exact ⟨_, hmade, hrest⟩
  · rintro ⟨s₁, hmade, hrest⟩
    exact .cons hmade hrest

theorem Completed.append (h : Completed ws s s₁) (h' : Completed vs s₁ s') : Completed (ws ++ vs) s s' := by
  induction h with
  | nil => exact h'
  | cons hmade _ ih => exact .cons hmade (ih h')

theorem Interrupted.append (h : Interrupted ws s s') : Interrupted (ws ++ vs) s s' := by
  induction h with
  | here => exact .here
  | amid htorn => exact .amid htorn
  | later hmade _ ih => exact .later hmade ih

theorem Completed.interrupted_append (h : Completed ws s s₁) (h' : Interrupted vs s₁ s') :
    Interrupted (ws ++ vs) s s' := by
  induction h with
  | nil => exact h'
  | cons hmade _ ih => exact .later hmade (ih h')

def Write.Spares (f : σ → γ) (w : Write σ) : Prop := ∀ s s', w.made s s' ∨ w.torn s s' → f s' = f s

theorem Interrupted.completed_of_changed {f : σ → γ} (hspares : ∀ w ∈ ws, w.Spares f)
    (hlast : ∀ s s', w.torn s s' → f s' = f s) (h : Interrupted (ws ++ [w]) s s') (hchanged : f s' ≠ f s) :
    Completed (ws ++ [w]) s s' := by
  induction ws generalizing s with
  | nil =>
      cases h with
      | here => exact absurd rfl hchanged
      | amid htorn => exact absurd (hlast _ _ htorn) hchanged
      | later hmade hrest =>
          cases hrest with
          | here => exact .cons hmade .nil
  | cons v ws ih =>
      have hv : v.Spares f := hspares v List.mem_cons_self
      cases h with
      | here => exact absurd rfl hchanged
      | amid htorn => exact absurd (hv _ _ (.inr htorn)) hchanged
      | later hmade hrest =>
          refine .cons hmade (ih (fun u hu => hspares u (List.mem_cons_of_mem _ hu)) hrest ?_)
          rw [hv _ _ (.inl hmade)]
          exact hchanged

end writes

/-! ## Programs -/

section programs

variable {F : Signature} {ε σ α β : Type} {serve : Service F ε σ} {p : Prog F ε α} {ws vs : List (Write σ)}

def Log.Failed (log : Log F ε) : Prop := ∃ c e, ⟨c, .error e⟩ ∈ log

def Performs (serve : Service F ε σ) (p : Prog F ε α) (ws : List (Write σ)) : Prop :=
  ∀ s r s', Ends (logging serve) p s r s' →
    (∀ a, r = .ok a → Completed ws s.1 s'.1) ∧ ∀ e, r = .error e → Interrupted ws s.1 s'.1 ∧ Log.Failed s'.2

theorem performs_pure {a : α} : Performs serve (pure a : Prog F ε α) [] := by
  intro s r s' hends
  obtain ⟨rfl, rfl⟩ := ends_pure.mp hends
  refine ⟨fun _ _ => .nil, ?_⟩
  intro e he
  cases he

theorem performs_perform {c : F.Call} {w : Write σ} (hmade : ∀ s a s', serve c s (.ok a) s' → w.made s s')
    (htorn : ∀ s e s', serve c s (.error e) s' → w.torn s s') : Performs serve (perform c : Prog F ε _) [w] := by
  intro s r s' hends
  obtain ⟨hserve, hlog⟩ := ends_perform.mp hends
  constructor
  · rintro a rfl
    exact .cons (hmade _ _ _ hserve) .nil
  · rintro e rfl
    refine ⟨.amid (htorn _ _ _ hserve), c, e, ?_⟩
    rw [hlog]
    exact List.mem_cons_self

theorem performs_lookup {c : F.Call} (hsame : ∀ s r s', serve c s r s' → s' = s) :
    Performs serve (perform c : Prog F ε _) [] := by
  intro s r s' hends
  obtain ⟨hserve, hlog⟩ := ends_perform.mp hends
  have heq : s'.1 = s.1 := hsame _ _ _ hserve
  rw [heq]
  refine ⟨fun _ _ => .nil, ?_⟩
  rintro e rfl
  refine ⟨.here, c, e, ?_⟩
  rw [hlog]
  exact List.mem_cons_self

theorem Performs.bind {f : α → Prog F ε β} (hp : Performs serve p ws) (hf : ∀ a, Performs serve (f a) vs) :
    Performs serve (p >>= f) (ws ++ vs) := by
  intro s r s' hends
  obtain ⟨a, s₁, hfirst, hrest⟩ | ⟨e, rfl, hfirst⟩ := hends.of_bind
  · have hdone : Completed ws s.1 s₁.1 := (hp _ _ _ hfirst).1 a rfl
    obtain ⟨hok, herror⟩ := hf a _ _ _ hrest
    refine ⟨fun b hb => hdone.append (hok b hb), fun e he => ?_⟩
    obtain ⟨hstop, hfailed⟩ := herror e he
    exact ⟨hdone.interrupted_append hstop, hfailed⟩
  · obtain ⟨hstop, hfailed⟩ := (hp _ _ _ hfirst).2 e rfl
    refine ⟨?_, fun _ _ => ⟨hstop.append, hfailed⟩⟩
    intro b hb
    cases hb

end programs

end Interaction
