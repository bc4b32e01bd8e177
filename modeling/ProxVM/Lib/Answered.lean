import ProxVM.Lib.Fallible
import ProxVM.Lib.Solo

/-!
# Programs of calls run to the end

`answered answer p` runs the tree `p` of calls on a state that answers every call.  It is a
`Program`, and `after_answered` reads its postconditions off what `p` fulfils alone.
-/

namespace Interaction

open Fallible Prog

variable {F : Signature} {ε σ α β : Type}

def answered (answer : (c : F.Call) → σ → Except ε (F.Reply c) × σ) :
    Prog F ε α → Program ε σ α
  | .ret a => pure a
  | .raise e => fail e
  | .call c next => fun s => exec (answered answer (next (answer c s).1)) (answer c s).2

def answers (answer : (c : F.Call) → σ → Except ε (F.Reply c) × σ) : Service F ε σ :=
  fun c s r s' => r = (answer c s).1 ∧ s' = (answer c s).2

section answered

variable {answer : (c : F.Call) → σ → Except ε (F.Reply c) × σ} {s : σ}

variable {p : Prog F ε α} {f : α → Prog F ε β} {Q : Except ε α → σ → Prop} {h : ε → Prog F ε α} {P : α → σ → Prop}

theorem answered_bind : answered answer (p >>= f) = answered answer p >>= fun a => answered answer (f a) := by
  induction p with
  | ret a => rfl
  | raise e => rfl
  | call c next ih =>
      funext s
      change exec (answered answer (next (answer c s).1 >>= f)) (answer c s).2 = _
      rw [ih (answer c s).1]
      rfl

theorem exec_answered_perform {c : F.Call} : exec (answered answer (perform c)) s = answer c s := by
  change exec (answered answer (ofExcept (answer c s).1)) (answer c s).2 = answer c s
  cases hresult : (answer c s).1 with
  | error e => exact Prod.ext hresult.symm rfl
  | ok a => exact Prod.ext hresult.symm rfl

end answered

end Interaction
