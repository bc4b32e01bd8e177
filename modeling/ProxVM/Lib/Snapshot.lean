import Mathlib.Logic.Function.Basic
import ProxVM.Lib.Interaction

/-!
# Reading a store key by key

A program that reads several keys of a store, one after the other, may see a different
store at each read.

- `Reader` is such a program; `Reader.at` is what it comes to if all its reads see one store.
- `at_of_after`: a reader that has ended has the result for every store that fits.
-/

namespace Interaction

open Prog

def readsOf (K V : Type) : Signature := ⟨K, fun _ => V⟩

abbrev Reader (K V ε α : Type) : Type := Prog (readsOf K V) ε α

variable {K V ε α β : Type}

def Reader.at (store : K → V) : Reader K V ε α → Except ε α
  | ret a => .ok a
  | raise e => .error e
  | call k next => Reader.at store (next (.ok (store k)))

/-- `p'` is left of `p` after the reads `seen`, the latest first. -/
inductive After (p : Reader K V ε α) : List (K × V) → Reader K V ε α → Prop
  | start : After p [] p
  | read {seen : List (K × V)} {k : K} {next : Except ε V → Reader K V ε α} (v : V)
      (hafter : After p seen (call (F := readsOf K V) k next)) : After p ((k, v) :: seen) (next (.ok v))

/-- A failed read fails the program, and the values of keys outside `keys` do not matter for
the result. -/
def DependsOn (keys : K → Prop) : Reader K V ε α → Prop
  | ret _ => True
  | raise _ => True
  | call k next => (∀ e, next (.error e) = raise e) ∧
      (keys k ∨ ∀ store v v', Reader.at store (next (.ok v)) = Reader.at store (next (.ok v'))) ∧
      ∀ v, DependsOn keys (next (.ok v))

def NeverReads (key : K) (p : Reader K V ε α) : Prop := Only (F := readsOf K V) (fun k : K => k ≠ key) p

def Agrees (keys : K → Prop) (seen : List (K × V)) (store : K → V) : Prop :=
  ∀ entry ∈ seen, keys entry.1 → store entry.1 = entry.2

structure Fits (keys : K → Prop) (seen : List (K × V)) (p : Reader K V ε α) (present store : K → V) :
    Prop where
  seen : Agrees keys seen store
  ahead : ∀ k : K, ¬ NeverReads k p → keys k → present k = store k

section reader

variable {keys : K → Prop} {seen : List (K × V)} {p p' : Reader K V ε α} {present store : K → V}

theorem agrees_nil : Agrees keys [] store := fun _ hentry => absurd hentry List.not_mem_nil

theorem agrees_cons {k : K} {v : V} :
    Agrees keys ((k, v) :: seen) store ↔ (keys k → store k = v) ∧ Agrees keys seen store :=
  List.forall_mem_cons

theorem fits_self (hseen : Agrees keys seen store) : Fits keys seen p store store :=
  ⟨hseen, fun _ _ _ => rfl⟩

theorem Fits.read {k : K} {next : Except ε V → Reader K V ε α}
    (h : Fits keys seen (call (F := readsOf K V) k next) present store) :
    Fits keys ((k, present k) :: seen) (next (.ok (present k))) present store := by
  constructor
  · refine agrees_cons.mpr ⟨fun hk => (h.ahead k ?_ hk).symm, h.seen⟩
    exact fun honly => honly.1 rfl
  · intro k' hreads hk'
    exact h.ahead k' (fun honly => hreads (honly.2 _)) hk'

theorem Fits.write [DecidableEq K] (h : Fits keys seen p present store) {key : K} (value : V)
    (hunread : NeverReads key p ∨ ¬ keys key) :
    Fits keys seen p (Function.update present key value) store := by
  refine ⟨h.seen, fun k hreads hk => ?_⟩
  have hne : k ≠ key := by
    rintro rfl
    exact hunread.elim hreads fun hkey => hkey hk
  rw [Function.update_of_ne hne]
  exact h.ahead k hreads hk

theorem DependsOn.ite {c : Prop} [Decidable c] {p p' : Reader K V ε α} (hp : DependsOn keys p)
    (hp' : DependsOn keys p') : DependsOn keys (if c then p else p') := by
  split
  · exact hp
  · exact hp'

theorem DependsOn.ite_bind {c : Prop} [Decidable c] {p p' : Reader K V ε α}
    {f : α → Reader K V ε β} (hp : DependsOn keys (p.bind f)) (hp' : DependsOn keys (p'.bind f)) :
    DependsOn keys ((if c then p else p').bind f) := by
  split
  · exact hp
  · exact hp'

theorem DependsOn.after (hdepends : DependsOn keys p) (hafter : After p seen p') : DependsOn keys p' := by
  induction hafter with
  | start => exact hdepends
  | read v _ ih => exact ih.2.2 v

theorem at_of_after (hdepends : DependsOn keys p) (hafter : After p seen p')
    (hseen : Agrees keys seen store) : p'.at store = p.at store := by
  induction hafter with
  | start => rfl
  | @read seen k next v hafter ih =>
      obtain ⟨hk, hseen⟩ := agrees_cons.mp hseen
      have hsame : Reader.at store (next (.ok v)) = Reader.at store (next (.ok (store k))) := by
        obtain hkey | hany := (hdepends.after hafter).2.1
        · rw [hk hkey]
        · exact hany store v (store k)
      exact hsame.trans (ih hseen)

theorem at_of_returned {a : α} (hdepends : DependsOn keys p) (hafter : After p seen (ret a))
    (hseen : Agrees keys seen store) : p.at store = .ok a :=
  (at_of_after hdepends hafter hseen).symm

end reader

end Interaction
