import Mathlib.Logic.Relation
import ProxVM.Lib.Solo

/-!
# Calls of one kind

`Steps serve P s s'`: calls of the kind `P` are served one after the other, and lead from `s` to `s'`.

- `Steps.keeps`: what every such call keeps, they keep together.
- `Steps.extends_log`: in a log they leave entries of their kind, before what was there.
- `Ends.logged`: what ends, ends with a log.
-/

namespace Interaction

variable {F : Signature} {ε σ α β : Type} {serve : Service F ε σ} {P P' : F.Call → Prop} {s s' s'' : σ}

abbrev Steps (serve : Service F ε σ) (P : F.Call → Prop) : σ → σ → Prop :=
  Relation.ReflTransGen fun s s' => ∃ c r, P c ∧ serve c s r s'

theorem Steps.keeps {I : σ → Prop} (hkeep : ∀ c s r s', P c → I s → serve c s r s' → I s')
    (hsteps : Steps serve P s s') (hI : I s) : I s' := by
  induction hsteps with
  | refl => exact hI
  | tail _ hstep ih =>
      obtain ⟨c, r, hc, hserve⟩ := hstep
      exact hkeep c _ r _ hc ih hserve

variable {p : Prog F ε α} {st st' : σ × Log F ε}

theorem Ends.steps {r : Except ε α} (hends : Ends serve p s r s') (hp : Only P p) : Steps serve P s s' := by
  induction hends with
  | ret => exact .refl
  | raise => exact .refl
  | call hserve _ ih => exact .head ⟨_, _, hp.1, hserve⟩ (ih (hp.2 _))

/-- Calls of the kind `P` are made to the end, and a result is good; or they are made up to a state from which `B` leads
to the end. -/
def Until (serve : Service F ε σ) (P : F.Call → Prop) (good : α → Prop) (B : σ → Except ε α → σ → Prop) (s : σ)
    (r : Except ε α) (s' : σ) : Prop :=
  (Steps serve P s s' ∧ ∀ a, r = .ok a → good a) ∨ ∃ s₁, Steps serve P s s₁ ∧ B s₁ r s'

section sequences

variable {good : α → Prop} {B : σ → Except ε α → σ → Prop} {r : Except ε α}

theorem Until.of_steps (hsteps : Steps serve P s s') (huntil : Until serve P good B s' r s'') :
    Until serve P good B s r s'' := by
  obtain ⟨hlater, hgood⟩ | ⟨s₁, hlater, hrest⟩ := huntil
  · exact .inl ⟨hsteps.trans hlater, hgood⟩
  · exact .inr ⟨s₁, hsteps.trans hlater, hrest⟩

theorem Until.failed {e : ε} (hsteps : Steps serve P s s') : Until serve P good B s (.error e) s' := .inl ⟨hsteps, nofun⟩

theorem Ends.until_bind {p : Prog F ε β} {f : β → Prog F ε α} (hends : Ends serve (p >>= f) s r s') (hp : Only P p)
    (hrest : ∀ b s₁, Ends serve p s (.ok b) s₁ → Ends serve (f b) s₁ r s' → Until serve P good B s₁ r s') :
    Until serve P good B s r s' := by
  obtain ⟨b, s₁, hfirst, hnext⟩ | ⟨e, rfl, hfirst⟩ := hends.of_bind
  · exact (hrest b s₁ hfirst hnext).of_steps (hfirst.steps hp)
  · exact .failed (hfirst.steps hp)

theorem Ends.until_pure {a : α} (hends : Ends serve (pure a : Prog F ε α) s r s') (hgood : good a) :
    Until serve P good B s r s' := by
  obtain ⟨rfl, rfl⟩ := ends_pure.mp hends
  refine .inl ⟨.refl, fun b hsame => ?_⟩
  rw [← Except.ok.inj hsame]
  exact hgood

end sequences

/-! ## Logs -/

theorem Steps.extends_log (hsteps : Steps (logging serve) P st st') :
    ∃ entries : Log F ε, st'.2 = entries ++ st.2 ∧ ∀ entry ∈ entries, P entry.1 := by
  induction hsteps with
  | refl => exact ⟨[], rfl, nofun⟩
  | tail _ hstep ih =>
      obtain ⟨c, r, hc, -, hlog⟩ := hstep
      obtain ⟨entries, hentries, hall⟩ := ih
      refine ⟨⟨c, r⟩ :: entries, ?_, List.forall_mem_cons.mpr ⟨hc, hall⟩⟩
      rw [hlog, hentries, List.cons_append]

theorem Steps.subset_log (hsteps : Steps (logging serve) P st st') : st.2 ⊆ st'.2 := by
  obtain ⟨entries, hlog, -⟩ := hsteps.extends_log
  rw [hlog]
  exact List.subset_append_right entries st.2

theorem mem_log_of_perform {c : F.Call} {r : Except ε (F.Reply c)}
    (hends : Ends (logging serve) (Prog.perform c) st r st') : ⟨c, r⟩ ∈ st'.2 := by
  rw [(ends_perform.mp hends).2]
  exact List.mem_cons_self

theorem Ends.logged {r : Except ε α} (hends : Ends serve p s r s') (log : Log F ε) :
    ∃ log', Ends (logging serve) p (s, log) r (s', log') := by
  induction hends generalizing log with
  | ret => exact ⟨log, .ret⟩
  | raise => exact ⟨log, .raise⟩
  | @call c _ _ _ _ r _ hserve _ ih =>
      obtain ⟨log', hrest⟩ := ih (⟨c, r⟩ :: log)
      exact ⟨log', .call ⟨hserve, rfl⟩ hrest⟩

theorem exists_ends_of_drive {answer : (c : F.Call) → σ → Option (Except ε (F.Reply c) × σ)}
    (hserve : ∀ c s r s', answer c s = some (r, s') → serve c s r s') (n : Nat) {p : Prog F ε α} {Q : Except ε α → Bool}
    (hresult : (drive answer n (p, s)).1.result?.any Q = true) :
    ∃ r, Q r = true ∧ Ends serve p s r (drive answer n (p, s)).2 := by
  obtain ⟨r, hr, hQ⟩ := (Option.any_eq_true _ _).mp hresult
  exact ⟨r, hQ, ends_of_result hserve n hr⟩

end Interaction
