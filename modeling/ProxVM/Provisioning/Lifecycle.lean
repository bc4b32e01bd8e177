import ProxVM.Provisioning.Footprint
import ProxVM.Provisioning.Simulation

/-!
# The life of one job

A job whose runs do not overlap is at any time idle or in the middle of one run.
`LifeStep` lists what can happen to it: others act on the world, a run starts,
makes a call, ends, or crashes between two calls, and the two statements of
`resetForRetry` are executed.  What the others may do is a parameter.
-/

namespace ProxVM

open Interaction

inductive Phase
  | idle
  | running (p : Task RunOutcome)

def runContext (others : World → World → Prop) (hrefl : ∀ w, others w w)
    (htrans : ∀ {w₁ w₂ w₃}, others w₁ w₂ → others w₂ w₃ → others w₁ w₃)
    (guarantee : Call → World → Prop) : Context calls Failure World where
  serve := Served
  rely := others
  guarantee := guarantee
  rely_refl := hrefl
  rely_trans := htrans

inductive LifeStep (jobId : JobId) (others : World → World → Prop) :
    Phase × World → Phase × World → Prop
  | others {phase : Phase} {w w' : World} (hothers : others w w') :
      LifeStep jobId others (phase, w) (phase, w')
  | start {w : World} (attempt : Nat) :
      LifeStep jobId others (.idle, w) (.running (runProvisioningJob jobId attempt), w)
  | call {c : Call} {next : Except Failure c.Reply → Task RunOutcome} {w w' : World}
      {r : Except Failure c.Reply} (hserved : Served c w r w') :
      LifeStep jobId others (.running (.call c next), w) (.running (next r), w')
  | finish {w : World} (result : Except Failure RunOutcome) :
      LifeStep jobId others (.running (.ofExcept result), w) (.idle, w)
  | crash {p : Task RunOutcome} {w : World} : LifeStep jobId others (.running p, w) (.idle, w)
  | resetStatus {w : World} :
      LifeStep jobId others (.idle, w) (.idle, { w with db := w.db.resetStatus w.now jobId })
  | resetFailedSteps {w : World} :
      LifeStep jobId others (.idle, w) (.idle, { w with db := w.db.resetFailedSteps jobId })

abbrev Life (jobId : JobId) (others : World → World → Prop) :
    Phase × World → Phase × World → Prop :=
  Relation.ReflTransGen (LifeStep jobId others)

theorem life_drive {jobId : JobId} {others : World → World → Prop} (fates : Fates) (n : Nat)
    (p : Task RunOutcome) (w : World) : Life jobId others (.running p, w)
      (.running (drive (World.play fates) n (p, w)).1, (drive (World.play fates) n (p, w)).2) :=
  reaches_drive (fun cfg => (Phase.running cfg.1, cfg.2))
    (fun _ _ _ _ _ hplay => .call (served_play hplay)) n (p, w)

section invariant

variable {jobId : JobId} {others : World → World → Prop} {Inv : World → Prop}
  {C : Context calls Failure World}

def Phase.Sound (C : Context calls Failure World) (Inv : World → Prop) : Phase × World → Prop
  | (.idle, w) => Inv w
  | (.running p, w) => C.holds p (fun _ w' => Inv w') w

theorem Phase.Sound.inv {state : Phase × World} (hguar : ∀ c w, C.guarantee c w → Inv w)
    (hsound : Phase.Sound C Inv state) : Inv state.2 := by
  obtain ⟨phase, w⟩ := state
  cases phase with
  | idle => exact hsound
  | running p =>
      cases p with
      | ret a => exact hsound
      | raise e => exact hsound
      | call c next => exact hguar c w (hsound w (C.rely_refl w)).1

theorem life_invariant (hserve : C.serve = Served) (hrely : ∀ w w', others w w' → C.rely w w')
    (hguar : ∀ c w, C.guarantee c w → Inv w) (hstable : ∀ w w', Inv w → C.rely w w' → Inv w')
    (hrun : ∀ attempt w, Inv w → C.holds (runProvisioningJob jobId attempt) (fun _ w' => Inv w') w)
    (hresetStatus : ∀ w, Inv w → Inv { w with db := w.db.resetStatus w.now jobId })
    (hresetSteps : ∀ w, Inv w → Inv { w with db := w.db.resetFailedSteps jobId })
    {w₀ : World} (hinit : Inv w₀) {state : Phase × World}
    (hlife : Life jobId others (.idle, w₀) state) : Phase.Sound C Inv state := by
  induction hlife with
  | refl => exact hinit
  | tail _ hstep ih =>
      cases hstep with
      | @others phase w w' hothers =>
          cases phase with
          | idle => exact hstable w w' ih (hrely w w' hothers)
          | running p =>
              exact Context.holds_of_rely (fun _ w w' hw => hstable w w' hw) ih (hrely w w' hothers)
      | start attempt => exact hrun attempt _ ih
      | @call c next w w' r hserved =>
          have hcall := (ih w (C.rely_refl w)).2 r w'
          rw [hserve] at hcall
          exact hcall hserved
      | finish result => exact Context.holds_ofExcept.mp ih
      | crash => exact Phase.Sound.inv hguar ih
      | resetStatus => exact hresetStatus _ ih
      | resetFailedSteps => exact hresetSteps _ ih

end invariant

end ProxVM
