import ProxVM.Lib.Pool
import ProxVM.Lib.Solo

/-!
# Calls that rest on the call before

A program checks something and then acts on it: some of its calls need a finding (`needs`), and the reply
to the call just before must have been that finding (`prompt`).

- `Prompted` says so of a program, with rules for the ways programs are put together.
- `Ready` says of a program among others that what it found still holds when it is about to act;
  `ready_of_poolStep` is how a step keeps it.
-/

namespace Interaction

open Prog

variable {F : Signature} {ε σ α β κ : Type} {prompt : (c : F.Call) → Except ε (F.Reply c) → Option κ}
  {needs : F.Call → Option κ} {last : Option κ}

def Prompted (prompt : (c : F.Call) → Except ε (F.Reply c) → Option κ) (needs : F.Call → Option κ) :
    Option κ → Prog F ε α → Prop
  | _, ret _ => True
  | _, raise _ => True
  | last, call c next =>
      (∀ k, needs c = some k → last = some k) ∧ ∀ r, Prompted prompt needs (prompt c r) (next r)

theorem Prompted.later {p : Prog F ε α} (hp : Prompted prompt needs none p) : Prompted prompt needs last p := by
  cases p with
  | ret a => trivial
  | raise e => trivial
  | call c next => exact ⟨fun k hneeds => absurd (hp.1 k hneeds) nofun, hp.2⟩

variable {p : Prog F ε α} {t : Thread F ε Result}

theorem Prompted.bind {f : α → Prog F ε β} (hp : Prompted prompt needs last p)
    (hf : ∀ a, Prompted prompt needs none (f a)) : Prompted prompt needs last (p >>= f) := by
  change Prompted prompt needs last (p.bind f)
  induction p generalizing last with
  | ret a => exact (hf a).later
  | raise e => trivial
  | call c next ih => exact ⟨hp.1, fun r => ih r (hp.2 r)⟩

theorem Prompted.tryCatch {h : ε → Prog F ε α} (hp : Prompted prompt needs last p)
    (hh : ∀ e, Prompted prompt needs none (h e)) : Prompted prompt needs last (p.tryCatch h) := by
  induction p generalizing last with
  | ret a => trivial
  | raise e => exact (hh e).later
  | call c next ih => exact ⟨hp.1, fun r => ih r (hp.2 r)⟩

theorem Prompted.foldlM {f : β → α → Prog F ε β} (hf : ∀ b a, Prompted prompt needs none (f b a)) (xs : List α)
    (b : β) : Prompted prompt needs last (xs.foldlM f b) := by
  induction xs generalizing b last with
  | nil => trivial
  | cons x xs ih =>
      rw [List.foldlM_cons]
      exact (hf b x).later.bind fun b' => ih b'

theorem Only.prompted (hp : Only (fun c => needs c = none) p) : Prompted prompt needs last p := by
  induction p generalizing last with
  | ret a => trivial
  | raise e => trivial
  | call c next ih =>
      refine ⟨fun k hneeds => ?_, fun r => ih r (hp.2 r)⟩
      have hnone : needs c = none := hp.1
      exact absurd (hnone.symm.trans hneeds) nofun

theorem prompted_perform_bind {c : F.Call} {f : F.Reply c → Prog F ε β} (hc : needs c = none)
    (hf : ∀ a, Prompted prompt needs (prompt c (.ok a)) (f a)) :
    Prompted prompt needs last (perform c >>= f) := by
  refine ⟨fun k hneeds => absurd (hc.symm.trans hneeds) nofun, fun r => ?_⟩
  cases r with
  | error e => trivial
  | ok a => exact hf a

/-! ## Among others -/

variable {ρ : Type} {Result : ρ → Type} {R : Rules F ε σ Result} {found : σ → κ → Prop} {s s' : σ}

def Ready (prompt : (c : F.Call) → Except ε (F.Reply c) → Option κ) (needs : F.Call → Option κ)
    (found : σ → κ → Prop) (s : σ) (t : Thread F ε Result) : Prop :=
  (∃ last, Prompted prompt needs last t.prog) ∧
    ∀ c k, t.prog.pending? = some c → needs c = some k → found s k

theorem ready_of_prompted (hprog : Prompted prompt needs none t.prog) : Ready prompt needs found s t := by
  refine ⟨⟨none, hprog⟩, fun c k hpending hneeds => ?_⟩
  obtain ⟨next, hcall⟩ := Prog.eq_call_of_pending hpending
  rw [hcall] at hprog
  exact absurd (hprog.1 k hneeds) nofun

theorem Ready.mono (hready : Ready prompt needs found s t)
    (hfound : ∀ k, found s k → found s' k) : Ready prompt needs found s' t :=
  ⟨hready.1, fun c k hpending hneeds => hfound k (hready.2 c k hpending hneeds)⟩

/-- A step keeps the programs ready, if a finding is true when it is made and no move of another program
undoes one that a program is about to act on. -/
theorem ready_of_poolStep {P P' : Pool F ε σ Result}
    (hprompt : ∀ {c s r s' k}, R.serve c s r s' → prompt c r = some k → found s' k)
    (hothers : ∀ {before after role c} {next : Except ε (F.Reply c) → Prog F ε (Result role)} {s r s' t c' k},
      R.admits ⟨s, before ++ ⟨role, .call c next⟩ :: after⟩ role c → R.serve c s r s' →
        t ∈ before ++ after → t.prog.pending? = some c' → needs c' = some k → found s k → found s' k)
    (hends : ∀ {role} {result : Except ε (Result role)} {s s' successor},
      R.ends role result s successor s' → (∀ k, found s k → found s' k) ∧
        ∀ t, successor = some t → Prompted prompt needs none t.prog)
    (hturn : ∀ {s s' newcomer}, R.turn s newcomer s' → (∀ k, found s k → found s' k) ∧
      ∀ t, newcomer = some t → Prompted prompt needs none t.prog)
    (hready : ∀ t ∈ P.threads, Ready prompt needs found P.state t) (hstep : PoolStep R P P') :
    ∀ t ∈ P'.threads, Ready prompt needs found P'.state t := by
  refine forall_of_poolStep_beside ?_ ?_ ?_ ?_ hready hstep
  · intro role c next s r s' hserve ht
    obtain ⟨⟨last, -, hnext⟩, -⟩ := ht
    refine ⟨⟨prompt c r, hnext r⟩, fun c' k hpending hneeds => ?_⟩
    -- The program acts on the reply it has just got.
    obtain ⟨next', hcall⟩ := Prog.eq_call_of_pending hpending
    have hprompted := hnext r
    rw [show next r = _ from hcall] at hprompted
    exact hprompt hserve (hprompted.1 k hneeds)
  · intro before after role c next s r s' hadmits hserve _ t ht hready
    exact ⟨hready.1, fun c' k hpending hneeds =>
      hothers hadmits hserve ht hpending hneeds (hready.2 c' k hpending hneeds)⟩
  · intro role result s s' successor hend
    obtain ⟨hkept, hsuccessor⟩ := hends hend
    exact ⟨fun t ht => ht.mono hkept, fun t ht => ready_of_prompted (hsuccessor t ht)⟩
  · intro s s' newcomer hturns
    obtain ⟨hkept, hnewcomer⟩ := hturn hturns
    exact ⟨fun t ht => ht.mono hkept, fun t ht => ready_of_prompted (hnewcomer t ht)⟩

theorem Ready.found_of_call {role : ρ} {c : F.Call} {next : Except ε (F.Reply c) → Prog F ε (Result role)}
    (hready : Ready prompt needs found s ⟨role, .call c next⟩) {k : κ} (hneeds : needs c = some k) : found s k :=
  hready.2 c k rfl hneeds

end Interaction
