import Mathlib.Logic.Relation

/-!
# Programs that share a world

A program that talks to databases, queues and remote services is a tree: it
returns, it fails, or it makes a call and goes on according to the outcome of the
call.  Between two calls anything else that has access to the world may run.

- `Prog` is the tree, a monad with exceptions; `perform` makes one call.
- `Moves` is the operational reading, one call or one step of the others.
  `holds_moves` says that `holds` survives it, so that a proof about a program
  reaches every intermediate state (`holds_reaches`).
- `drive` runs a program against an answering function, to exhibit runs.
-/

namespace Interaction

structure Signature where
  Call : Type
  Reply : Call → Type

/-- A program over the calls of `F` that fails with an `ε` or returns an `α`. -/
inductive Prog (F : Signature) (ε α : Type)
  | ret (a : α)
  | raise (e : ε)
  | call (c : F.Call) (next : Except ε (F.Reply c) → Prog F ε α)

variable {F : Signature} {ε σ α β : Type}

namespace Prog

def bind : Prog F ε α → (α → Prog F ε β) → Prog F ε β
  | ret a, f => f a
  | raise e, _ => raise e
  | call c next, f => call c fun r => (next r).bind f

def tryCatch : Prog F ε α → (ε → Prog F ε α) → Prog F ε α
  | ret a, _ => ret a
  | raise e, h => h e
  | call c next, h => call c fun r => (next r).tryCatch h

def ofExcept : Except ε α → Prog F ε α
  | .ok a => ret a
  | .error e => raise e

def perform (c : F.Call) : Prog F ε (F.Reply c) := call c ofExcept

def embed {G : Signature} (ι : F.Call → G.Call) (back : ∀ c, G.Reply (ι c) → F.Reply c) :
    Prog F ε α → Prog G ε α
  | ret a => ret a
  | raise e => raise e
  | call c next => call (ι c) fun r => (next (r.map (back c))).embed ι back

def orRaise (o : Option α) (e : ε) : Prog F ε α :=
  match o with
  | some a => ret a
  | none => raise e

instance : Monad (Prog F ε) where
  pure := ret
  bind := bind

end Prog

open Prog

/-! ## What a program fulfils -/

/-- What a proof takes for granted about the world, and owes to it: how calls are
served, what the others may do between two calls, and what has to hold whenever
the program makes a call. -/
structure Context (F : Signature) (ε σ : Type) where
  serve : (c : F.Call) → σ → Except ε (F.Reply c) → σ → Prop
  rely : σ → σ → Prop
  guarantee : F.Call → σ → Prop
  rely_refl : ∀ s, rely s s
  rely_trans : ∀ {s₁ s₂ s₃}, rely s₁ s₂ → rely s₂ s₃ → rely s₁ s₃

namespace Context

variable {C : Context F ε σ}

/-- Every call of `p` meets the guarantee, and every end of it satisfies `Q`. -/
def holds (C : Context F ε σ) : Prog F ε α → (Except ε α → σ → Prop) → σ → Prop
  | ret a, Q, s => Q (.ok a) s
  | raise e, Q, s => Q (.error e) s
  | call c next, Q, s => ∀ s₁, C.rely s s₁ →
      C.guarantee c s₁ ∧ ∀ r s₂, C.serve c s₁ r s₂ → C.holds (next r) Q s₂

variable {a : α} {e : ε} {c : F.Call} {f : α → Prog F ε β} {o : Option α}

@[simp] theorem holds_ret {Q : Except ε α → σ → Prop} {s : σ} :
    C.holds (ret a : Prog F ε α) Q s ↔ Q (.ok a) s := Iff.rfl

@[simp] theorem holds_pure {Q : Except ε α → σ → Prop} {s : σ} :
    C.holds (pure a : Prog F ε α) Q s ↔ Q (.ok a) s := Iff.rfl

@[simp] theorem holds_raise {Q : Except ε α → σ → Prop} {s : σ} :
    C.holds (raise e : Prog F ε α) Q s ↔ Q (.error e) s := Iff.rfl

theorem holds_call {next : Except ε (F.Reply c) → Prog F ε α} {Q : Except ε α → σ → Prop} {s : σ} :
    C.holds (call c next) Q s ↔ ∀ s₁, C.rely s s₁ →
      C.guarantee c s₁ ∧ ∀ r s₂, C.serve c s₁ r s₂ → C.holds (next r) Q s₂ := Iff.rfl

@[simp] theorem holds_ofExcept {r : Except ε α} {Q : Except ε α → σ → Prop} {s : σ} :
    C.holds (ofExcept r : Prog F ε α) Q s ↔ Q r s := by
  cases r with
  | ok a => exact Iff.rfl
  | error e => exact Iff.rfl

theorem holds_perform {Q : Except ε (F.Reply c) → σ → Prop} {s : σ} :
    C.holds (perform c) Q s ↔ ∀ s₁, C.rely s s₁ → C.guarantee c s₁ ∧ ∀ r s₂, C.serve c s₁ r s₂ → Q r s₂ := by
  simp only [perform, holds_call, holds_ofExcept]

theorem holds_mono {p : Prog F ε α} {Q Q' : Except ε α → σ → Prop} {s : σ}
    (hp : C.holds p Q s) (himp : ∀ r s', Q r s' → Q' r s') : C.holds p Q' s := by
  induction p generalizing s with
  | ret a => exact himp _ _ hp
  | raise e => exact himp _ _ hp
  | call c next ih =>
      intro s₁ hrely
      obtain ⟨hguar, hnext⟩ := hp s₁ hrely
      exact ⟨hguar, fun r s₂ hserve => ih r (hnext r s₂ hserve)⟩

@[simp] theorem holds_bind {p : Prog F ε α} {Q : Except ε β → σ → Prop} {s : σ} :
    C.holds (p >>= f) Q s ↔ C.holds p (fun r s' => match r with
        | .ok a => C.holds (f a) Q s'
        | .error e => Q (.error e) s') s := by
  change C.holds (p.bind f) Q s ↔ _
  induction p generalizing s with
  | ret a => exact Iff.rfl
  | raise e => exact Iff.rfl
  | call c next ih => simp only [Prog.bind, holds_call, ih]

@[simp] theorem holds_tryCatch {p : Prog F ε α} {h : ε → Prog F ε α}
    {Q : Except ε α → σ → Prop} {s : σ} : C.holds (p.tryCatch h) Q s ↔ C.holds p (fun r s' => match r with
        | .ok a => Q (.ok a) s'
        | .error e => C.holds (h e) Q s') s := by
  induction p generalizing s with
  | ret a => exact Iff.rfl
  | raise e => exact Iff.rfl
  | call c next ih => simp only [Prog.tryCatch, holds_call, ih]

@[simp] theorem holds_orRaise {Q : Except ε α → σ → Prop} {s : σ} : C.holds (orRaise o e : Prog F ε α) Q s ↔
      (∀ a, o = some a → Q (.ok a) s) ∧ (o = none → Q (.error e) s) := by
  cases o with
  | none => simp [orRaise]
  | some a => simp [orRaise]

theorem holds_orRaise_bind {Q : Except ε β → σ → Prop} {s : σ} : C.holds (orRaise o e >>= f) Q s ↔
      (∀ a, o = some a → C.holds (f a) Q s) ∧ (o = none → Q (.error e) s) := by
  rw [holds_bind, holds_orRaise]

theorem holds_ite {c : Prop} [Decidable c] {p p' : Prog F ε α} {Q : Except ε α → σ → Prop}
    {s : σ} : C.holds (if c then p else p') Q s ↔ (c → C.holds p Q s) ∧ (¬ c → C.holds p' Q s) := by
  by_cases hc : c
  · simp [hc]
  · simp [hc]

theorem holds_bind_of {I : σ → Prop} {p : Prog F ε α} {f : α → Prog F ε β}
    {Q : Except ε β → σ → Prop} {s : σ} (hp : C.holds p (fun _ s' => I s') s)
    (hok : ∀ a s', I s' → C.holds (f a) Q s') (herror : ∀ e s', I s' → Q (.error e) s') :
    C.holds (p >>= f) Q s := by
  rw [holds_bind]
  refine holds_mono hp fun r s' hI => ?_
  cases r with
  | ok a => exact hok a s' hI
  | error e => exact herror e s' hI

theorem holds_true {p : Prog F ε α} {s : σ} (hguar : ∀ c s, C.guarantee c s) :
    C.holds p (fun _ _ => True) s := by
  induction p generalizing s with
  | ret a => trivial
  | raise e => trivial
  | call c next ih => exact fun s₁ _ => ⟨hguar c s₁, fun r _ _ => ih r⟩

theorem holds_of_rely {p : Prog F ε α} {Q : Except ε α → σ → Prop} {s s' : σ}
    (hstable : ∀ r s s', Q r s → C.rely s s' → Q r s') (hp : C.holds p Q s)
    (hrely : C.rely s s') : C.holds p Q s' := by
  cases p with
  | ret a => exact hstable _ _ _ hp hrely
  | raise e => exact hstable _ _ _ hp hrely
  | call c next => exact fun s₁ hrely₁ => hp s₁ (C.rely_trans hrely hrely₁)

theorem holds_foldlM_inv {I : List α → β → σ → Prop} {Q : Except ε β → σ → Prop}
    {f : β → α → Prog F ε β} {xs : List α} {b : β} {s : σ}
    (hround : ∀ b x rest s, I (x :: rest) b s → C.holds (f b x) (fun r s' => match r with
      | .ok b' => I rest b' s'
      | .error e => Q (.error e) s') s)
    (hend : ∀ b s, I [] b s → Q (.ok b) s) (hI : I xs b s) : C.holds (xs.foldlM f b) Q s := by
  induction xs generalizing b s with
  | nil => exact hend b s hI
  | cons x xs ih =>
      rw [List.foldlM_cons, holds_bind]
      refine holds_mono (hround b x xs s hI) fun r s' hr => ?_
      cases r with
      | error e => exact hr
      | ok b' => exact ih hr

theorem holds_foldlM_rest {I : List α → σ → Prop} {Q : Except ε β → σ → Prop}
    {f : β → α → Prog F ε β} {xs : List α} {b : β} {s : σ}
    (hround : ∀ b x rest s, I (x :: rest) s → C.holds (f b x) (fun r s' => match r with
      | .ok _ => I rest s'
      | .error e => Q (.error e) s') s)
    (hend : ∀ b s, I [] s → Q (.ok b) s) (hI : I xs s) : C.holds (xs.foldlM f b) Q s :=
  holds_foldlM_inv (I := fun rest _ s => I rest s) hround hend hI

theorem holds_foldlM {I : β → σ → Prop} {Q : Except ε β → σ → Prop} {f : β → α → Prog F ε β}
    {xs : List α} {b : β} {s : σ}
    (hround : ∀ b, ∀ x ∈ xs, ∀ s, I b s → C.holds (f b x) (fun r s' => match r with
      | .ok b' => I b' s'
      | .error e => Q (.error e) s') s)
    (hend : ∀ b s, I b s → Q (.ok b) s) (hI : I b s) : C.holds (xs.foldlM f b) Q s := by
  refine holds_foldlM_inv (I := fun rest b s => (∀ x ∈ rest, x ∈ xs) ∧ I b s)
    (fun b x rest s hI => ?_) (fun b s hI => hend b s hI.2) ⟨fun _ hx => hx, hI⟩
  obtain ⟨hmem, hI⟩ := hI
  refine holds_mono (hround b x (hmem x List.mem_cons_self) s hI) fun r s' hr => ?_
  cases r with
  | error e => exact hr
  | ok b' => exact ⟨fun y hy => hmem y (List.mem_cons_of_mem x hy), hr⟩

end Context

/-! ## The kinds of calls a program makes -/

/-- Every call the program may come to make satisfies `P`. -/
def Only (P : F.Call → Prop) : Prog F ε α → Prop
  | ret _ => True
  | raise _ => True
  | call c next => P c ∧ ∀ r, Only P (next r)

section only

variable {P P' : F.Call → Prop}

variable {a : α} {e : ε} {c : F.Call} {f : α → Prog F ε β} {xs : List α}

@[simp] theorem only_pure : Only P (pure a : Prog F ε α) := trivial

@[simp] theorem only_raise : Only P (raise e : Prog F ε α) := trivial

@[simp] theorem only_orRaise {o : Option α} : Only P (orRaise o e : Prog F ε α) := by
  cases o with
  | none => trivial
  | some a => trivial

theorem only_ofExcept {r : Except ε α} : Only P (ofExcept r : Prog F ε α) := by
  cases r with
  | ok a => trivial
  | error e => trivial

@[simp] theorem only_perform : Only P (perform c : Prog F ε _) ↔ P c :=
  ⟨fun h => h.1, fun h => ⟨h, fun _ => only_ofExcept⟩⟩

theorem Only.bind {p : Prog F ε α} (hp : Only P p) (hf : ∀ a, Only P (f a)) : Only P (p >>= f) := by
  change Only P (p.bind f)
  induction p with
  | ret a => exact hf a
  | raise e => trivial
  | call c next ih => exact ⟨hp.1, fun r => ih r (hp.2 r)⟩

theorem Only.tryCatch {p : Prog F ε α} {h : ε → Prog F ε α} (hp : Only P p)
    (hh : ∀ e, Only P (h e)) : Only P (p.tryCatch h) := by
  induction p with
  | ret a => trivial
  | raise e => exact hh e
  | call c next ih => exact ⟨hp.1, fun r => ih r (hp.2 r)⟩

theorem Only.ite {c : Prop} [Decidable c] {p p' : Prog F ε α} (hp : Only P p)
    (hp' : Only P p') : Only P (if c then p else p') := by
  split
  · exact hp
  · exact hp'

theorem Only.foldlM {f : β → α → Prog F ε β} {b : β}
    (hround : ∀ b x, Only P (f b x)) : Only P (xs.foldlM f b) := by
  induction xs generalizing b with
  | nil => trivial
  | cons x xs ih =>
      rw [List.foldlM_cons]
      exact (hround b x).bind fun _ => ih

theorem Only.forM {f : α → Prog F ε PUnit} (hround : ∀ x, Only P (f x)) : Only P (xs.forM f) := by
  induction xs with
  | nil => trivial
  | cons x xs ih =>
      rw [List.forM_eq_forM, List.forM_cons]
      exact (hround x).bind fun _ => ih

theorem Only.mono {p : Prog F ε α} (hp : Only P p) (himp : ∀ c, P c → P' c) : Only P' p := by
  induction p with
  | ret a => trivial
  | raise e => trivial
  | call c next ih => exact ⟨himp c hp.1, fun r => ih r (hp.2 r)⟩

theorem Context.holds_of_only {C : Context F ε σ} {I : σ → Prop} {p : Prog F ε α} {s : σ}
    (hstable : ∀ s s', I s → C.rely s s' → I s') (hguar : ∀ c s, P c → I s → C.guarantee c s)
    (hkeep : ∀ c s r s', P c → I s → C.serve c s r s' → I s')
    (hp : Only P p) (hI : I s) : C.holds p (fun _ s' => I s') s := by
  induction p generalizing s with
  | ret a => exact hI
  | raise e => exact hI
  | call c next ih =>
      intro s₁ hrely
      have hI₁ : I s₁ := hstable s s₁ hI hrely
      exact ⟨hguar c s₁ hp.1 hI₁,
        fun r s₂ hserve => ih r (hp.2 r) (hkeep c s₁ r s₂ hp.1 hI₁ hserve)⟩

/-- As long as its calls succeed, the program does not fail, and its calls satisfy `P`. -/
def Smooth (P : F.Call → Prop) : Prog F ε α → Prop
  | ret _ => True
  | raise _ => False
  | call c next => P c ∧ ∀ a, Smooth P (next (.ok a))

@[simp] theorem smooth_perform : Smooth P (perform c : Prog F ε _) ↔ P c :=
  ⟨fun h => h.1, fun h => ⟨h, fun _ => trivial⟩⟩

theorem Smooth.bind {p : Prog F ε α} (hp : Smooth P p) (hf : ∀ a, Smooth P (f a)) : Smooth P (p >>= f) := by
  change Smooth P (p.bind f)
  induction p with
  | ret a => exact hf a
  | raise e => exact hp.elim
  | call c next ih => exact ⟨hp.1, fun a => ih (.ok a) (hp.2 a)⟩

theorem Context.holds_of_smooth {C : Context F ε σ} {I : σ → Prop} {p : Prog F ε α} {s : σ}
    (hstable : ∀ s s', I s → C.rely s s' → I s') (hguar : ∀ c s, P c → I s → C.guarantee c s)
    (hkeep : ∀ c s r s', P c → I s → C.serve c s r s' → (∃ a, r = .ok a) ∧ I s')
    (hp : Smooth P p) (hI : I s) : C.holds p (fun r s' => (∃ a, r = .ok a) ∧ I s') s := by
  induction p generalizing s with
  | ret a => exact ⟨⟨a, rfl⟩, hI⟩
  | raise e => exact hp.elim
  | call c next ih =>
      intro s₁ hrely
      have hI₁ : I s₁ := hstable s s₁ hI hrely
      refine ⟨hguar c s₁ hp.1 hI₁, fun r s₂ hserve => ?_⟩
      obtain ⟨⟨a, rfl⟩, hI₂⟩ := hkeep c s₁ r s₂ hp.1 hI₁ hserve
      exact ih (.ok a) (hp.2 a) hI₂

end only

/-! ## Runs -/

inductive Moves (C : Context F ε σ) : Prog F ε α × σ → Prog F ε α × σ → Prop
  | call {c : F.Call} {next : Except ε (F.Reply c) → Prog F ε α} {s s' : σ}
      {r : Except ε (F.Reply c)} (hserve : C.serve c s r s') :
      Moves C (.call c next, s) (next r, s')
  | others {p : Prog F ε α} {s s' : σ} (hrely : C.rely s s') : Moves C (p, s) (p, s')

abbrev Reaches (C : Context F ε σ) : Prog F ε α × σ → Prog F ε α × σ → Prop :=
  Relation.ReflTransGen (Moves C)

section runs

variable {C : Context F ε σ} {p p' : Prog F ε α} {s s' : σ} {Q : Except ε α → σ → Prop}

theorem Context.holds_moves (hstable : ∀ r s s', Q r s → C.rely s s' → Q r s')
    (hp : C.holds p Q s) (hmoves : Moves C (p, s) (p', s')) : C.holds p' Q s' := by
  cases hmoves with
  | call hserve => exact (hp s (C.rely_refl s)).2 _ _ hserve
  | others hrely => exact Context.holds_of_rely hstable hp hrely

theorem Context.holds_reaches (hstable : ∀ r s s', Q r s → C.rely s s' → Q r s')
    (hp : C.holds p Q s) (hreach : Reaches C (p, s) (p', s')) : C.holds p' Q s' := by
  have hall : ∀ cfg, Reaches C (p, s) cfg → C.holds cfg.1 Q cfg.2 := by
    intro cfg hcfg
    induction hcfg with
    | refl => exact hp
    | tail _ hmoves ih => exact Context.holds_moves hstable ih hmoves
  exact hall (p', s') hreach

theorem Context.guarantee_of_holds {c : F.Call} {next : Except ε (F.Reply c) → Prog F ε α}
    (hp : C.holds (call c next) Q s) : C.guarantee c s :=
  (hp s (C.rely_refl s)).1

/-! ## Executable runs -/

def Prog.result? {α : Type} : Prog F ε α → Option (Except ε α)
  | ret a => some (.ok a)
  | raise e => some (.error e)
  | call _ _ => none

theorem Prog.eq_ofExcept {α : Type} {p : Prog F ε α} {result : Except ε α}
    (hresult : p.result? = some result) : p = ofExcept result := by
  cases p with
  | ret a =>
      cases hresult
      rfl
  | raise e =>
      cases hresult
      rfl
  | call c next => cases hresult

/-- Run a program for at most `n` calls, as long as `answer` has an answer. -/
def drive (answer : (c : F.Call) → σ → Option (Except ε (F.Reply c) × σ)) :
    Nat → Prog F ε α × σ → Prog F ε α × σ
  | 0, cfg => cfg
  | _ + 1, (ret a, s) => (ret a, s)
  | _ + 1, (raise e, s) => (raise e, s)
  | n + 1, (call c next, s) =>
      match answer c s with
      | none => (call c next, s)
      | some (r, s') => drive answer n (next r, s')

/-- A system in which the program `p` in state `s` is the state `f (p, s)`, and calls
are steps, can do what `drive` computes. -/
theorem reaches_drive {τ : Type} {answer : (c : F.Call) → σ → Option (Except ε (F.Reply c) × σ)}
    {R : τ → τ → Prop} (f : Prog F ε α × σ → τ)
    (hcall : ∀ c next s r s', answer c s = some (r, s') → R (f (call c next, s)) (f (next r, s')))
    (n : Nat) (cfg : Prog F ε α × σ) : Relation.ReflTransGen R (f cfg) (f (drive answer n cfg)) := by
  induction n generalizing cfg with
  | zero => exact .refl
  | succ n ih =>
      obtain ⟨p, s⟩ := cfg
      cases p with
      | ret a => exact .refl
      | raise e => exact .refl
      | call c next =>
          unfold drive
          cases hanswer : answer c s with
          | none => exact .refl
          | some result => exact .head (hcall c next s _ _ hanswer) (ih _)

end runs

end Interaction
