import ProxVM.Lib.Interaction

/-!
# Programs that run alone

Nothing else touches the state while the program runs.

- `logging` serves calls as before and keeps a log of the calls and their outcomes,
  for statements about what a program has seen.
- `ends_of_drive` and `ends_of_result` exhibit an end by computation.
-/

namespace Interaction

open Prog Context

variable {F : Signature} {ε σ α β : Type}

abbrev Service (F : Signature) (ε σ : Type) : Type :=
  (c : F.Call) → σ → Except ε (F.Reply c) → σ → Prop

inductive Ends (serve : Service F ε σ) : Prog F ε α → σ → Except ε α → σ → Prop
  | ret {a : α} {s : σ} : Ends serve (ret a) s (.ok a) s
  | raise {e : ε} {s : σ} : Ends serve (raise e) s (.error e) s
  | call {c : F.Call} {next : Except ε (F.Reply c) → Prog F ε α} {s s' s'' : σ}
      {r : Except ε (F.Reply c)} {result : Except ε α} (hserve : serve c s r s')
      (hrest : Ends serve (next r) s' result s'') : Ends serve (call c next) s result s''

/-- Run alone from `s`, the program comes to make the call `c` in the state `s'`. -/
inductive Makes (serve : Service F ε σ) : Prog F ε α → σ → F.Call → σ → Prop
  | now {c : F.Call} {next : Except ε (F.Reply c) → Prog F ε α} {s : σ} :
      Makes serve (call c next) s c s
  | later {c c' : F.Call} {next : Except ε (F.Reply c) → Prog F ε α} {s s' s'' : σ}
      {r : Except ε (F.Reply c)} (hserve : serve c s r s') (hrest : Makes serve (next r) s' c' s'') :
      Makes serve (call c next) s c' s''

def aloneOwing (serve : Service F ε σ) (guarantee : F.Call → σ → Prop) : Context F ε σ where
  serve := serve
  rely := Eq
  guarantee := guarantee
  rely_refl := fun _ => rfl
  rely_trans := fun h h' => h.trans h'

abbrev alone (serve : Service F ε σ) : Context F ε σ := aloneOwing serve fun _ _ => True

section alone

variable {serve : Service F ε σ} {guarantee : F.Call → σ → Prop} {p : Prog F ε α} {s s' : σ}
  {Q : Except ε α → σ → Prop}

theorem holds_aloneOwing_call {c : F.Call} {next : Except ε (F.Reply c) → Prog F ε α} :
    (aloneOwing serve guarantee).holds (call c next) Q s ↔
      guarantee c s ∧ ∀ r s', serve c s r s' → (aloneOwing serve guarantee).holds (next r) Q s' := by
  rw [Context.holds_call]
  constructor
  · exact fun h => h s rfl
  · rintro h s₁ rfl
    exact h

theorem holds_aloneOwing_perform {c : F.Call} {Q : Except ε (F.Reply c) → σ → Prop} :
    (aloneOwing serve guarantee).holds (perform c) Q s ↔ guarantee c s ∧ ∀ r s', serve c s r s' → Q r s' := by
  rw [Context.holds_perform]
  constructor
  · exact fun h => h s rfl
  · rintro h s₁ rfl
    exact h

theorem holds_aloneOwing_bind {c : F.Call} {f : F.Reply c → Prog F ε α} :
    (aloneOwing serve guarantee).holds (perform c >>= f) Q s ↔ guarantee c s ∧
        (∀ a s', serve c s (.ok a) s' → (aloneOwing serve guarantee).holds (f a) Q s') ∧
        ∀ e s', serve c s (.error e) s' → Q (.error e) s' := by
  rw [Context.holds_bind, holds_aloneOwing_perform]
  refine and_congr_right fun _ => ?_
  constructor
  · exact fun h => ⟨fun a s' hserve => h (.ok a) s' hserve, fun e s' hserve => h (.error e) s' hserve⟩
  · rintro ⟨hok, herror⟩ (e | a) s' hserve
    · exact herror e s' hserve
    · exact hok a s' hserve

theorem holds_alone_iff : (alone serve).holds p Q s ↔ ∀ r s', Ends serve p s r s' → Q r s' := by
  induction p generalizing s with
  | ret a =>
      constructor
      · rintro hQ _ _ ⟨⟩
        exact hQ
      · exact fun h => h _ _ .ret
  | raise e =>
      constructor
      · rintro hQ _ _ ⟨⟩
        exact hQ
      · exact fun h => h _ _ .raise
  | call c next ih =>
      rw [holds_aloneOwing_call]
      constructor
      · rintro ⟨-, hnext⟩ r s'' (_ | _ | ⟨hserve, hrest⟩)
        exact (ih _).mp (hnext _ _ hserve) _ _ hrest
      · intro h
        exact ⟨trivial, fun r s' hserve => (ih r).mpr fun r' s'' hrest =>
          h r' s'' (.call hserve hrest)⟩

theorem Ends.sound {r : Except ε α} (hends : Ends serve p s r s') (hp : (alone serve).holds p Q s) : Q r s' :=
  holds_alone_iff.mp hp r s' hends

variable {r : Except ε α} {a : α} {e : ε} {f : α → Prog F ε β} {h : ε → Prog F ε α} {s₁ : σ}

theorem Ends.sound_owing (hends : Ends serve p s r s')
    (hp : (aloneOwing serve guarantee).holds p Q s) : Q r s' := by
  induction hends with
  | ret => exact hp
  | raise => exact hp
  | call hserve _ ih => exact ih ((holds_aloneOwing_call.mp hp).2 _ _ hserve)

theorem ends_pure : Ends serve (pure a : Prog F ε α) s r s' ↔ r = .ok a ∧ s' = s := by
  constructor
  · intro hends
    cases hends
    exact ⟨rfl, rfl⟩
  · rintro ⟨rfl, rfl⟩
    exact .ret

theorem Ends.of_pure_ok {a b : α} (hends : Ends serve (pure a : Prog F ε α) s (.ok b) s') :
    b = a ∧ s' = s := by
  obtain ⟨heq, hsame⟩ := ends_pure.mp hends
  exact ⟨Except.ok.inj heq, hsame⟩

theorem ends_raise : Ends serve (raise e : Prog F ε α) s r s' ↔ r = .error e ∧ s' = s := by
  constructor
  · intro hends
    cases hends
    exact ⟨rfl, rfl⟩
  · rintro ⟨rfl, rfl⟩
    exact .raise

theorem ends_perform {c : F.Call} {r : Except ε (F.Reply c)} :
    Ends serve (perform c) s r s' ↔ serve c s r s' := by
  constructor
  · intro hends
    exact hends.sound (holds_aloneOwing_perform.mpr ⟨trivial, fun _ _ hserve => hserve⟩)
  · intro hserve
    refine .call hserve ?_
    cases r with
    | ok a => exact .ret
    | error e => exact .raise

theorem Ends.of_bind {r : Except ε β} (hends : Ends serve (p >>= f) s r s') :
    (∃ a s₁, Ends serve p s (.ok a) s₁ ∧ Ends serve (f a) s₁ r s') ∨
      ∃ e, r = .error e ∧ Ends serve p s (.error e) s' := by
  refine hends.sound (Q := fun r s' =>
    (∃ a s₁, Ends serve p s (.ok a) s₁ ∧ Ends serve (f a) s₁ r s') ∨
      ∃ e, r = .error e ∧ Ends serve p s (.error e) s') ?_
  refine holds_bind.mpr (holds_alone_iff.mpr fun r₁ s₁ hp => ?_)
  cases r₁ with
  | ok a => exact holds_alone_iff.mpr fun r₂ s₂ hf => .inl ⟨a, s₁, hp, hf⟩
  | error e => exact .inr ⟨e, rfl, hp⟩

theorem Ends.of_bind_ok {b : β} (hends : Ends serve (p >>= f) s (.ok b) s') :
    ∃ a s₁, Ends serve p s (.ok a) s₁ ∧ Ends serve (f a) s₁ (.ok b) s' := by
  obtain hok | ⟨e, he, -⟩ := hends.of_bind
  · exact hok
  · cases he

theorem Ends.of_tryCatch (hends : Ends serve (p.tryCatch h) s r s') :
    (∃ a, r = .ok a ∧ Ends serve p s (.ok a) s') ∨
      ∃ e s₁, Ends serve p s (.error e) s₁ ∧ Ends serve (h e) s₁ r s' := by
  refine hends.sound (Q := fun r s' => (∃ a, r = .ok a ∧ Ends serve p s (.ok a) s') ∨
    ∃ e s₁, Ends serve p s (.error e) s₁ ∧ Ends serve (h e) s₁ r s') ?_
  refine holds_tryCatch.mpr (holds_alone_iff.mpr fun r₁ s₁ hp => ?_)
  cases r₁ with
  | ok a => exact .inl ⟨a, rfl, hp⟩
  | error e => exact holds_alone_iff.mpr fun r₂ s₂ hh => .inr ⟨e, s₁, hp, hh⟩

theorem holds_alone_of_only {P : F.Call → Prop} {I : σ → Prop}
    (hkeep : ∀ c s r s', P c → I s → serve c s r s' → I s') (hp : Only P p) (hI : I s) :
    (alone serve).holds p (fun _ s' => I s') s := by
  refine Context.holds_of_only (C := alone serve) ?_ (fun _ _ _ _ => trivial) hkeep hp hI
  rintro s _ hI rfl
  exact hI

theorem Ends.keeps {r : Except ε α} {P : F.Call → Prop} {I : σ → Prop}
    (hends : Ends serve p s r s') (hp : Only P p)
    (hkeep : ∀ c s r s', P c → I s → serve c s r s' → I s') (hI : I s) : I s' :=
  hends.sound (holds_alone_of_only hkeep hp hI)

theorem Makes.owes {c : F.Call} (hmakes : Makes serve p s c s')
    (hp : (aloneOwing serve guarantee).holds p Q s) : guarantee c s' := by
  induction hmakes with
  | now => exact (holds_aloneOwing_call.mp hp).1
  | later hserve _ ih => exact ih ((holds_aloneOwing_call.mp hp).2 _ _ hserve)

theorem Makes.kind {P : F.Call → Prop} {c : F.Call} (hmakes : Makes serve p s c s')
    (hp : Only P p) : P c := by
  induction hmakes with
  | now => exact hp.1
  | later _ _ ih => exact ih (hp.2 _)

theorem makes_perform {c c' : F.Call} (hmakes : Makes serve (perform c) s c' s') : c = c' ∧ s = s' := by
  cases hmakes with
  | now => exact ⟨rfl, rfl⟩
  | @later _ _ _ _ _ _ r _ hrest =>
      cases r with
      | ok a => cases hrest
      | error e => cases hrest

/-- A call of two programs one after the other is made by the first, or by the second once the first
has succeeded. -/
theorem Makes.of_bind {c : F.Call} (hmakes : Makes serve (p >>= f) s c s') :
    Makes serve p s c s' ∨ ∃ a s₁, Ends serve p s (.ok a) s₁ ∧ Makes serve (f a) s₁ c s' := by
  induction p generalizing s with
  | ret a => exact .inr ⟨a, s, .ret, hmakes⟩
  | raise e => cases hmakes
  | call c₀ next ih =>
      cases hmakes with
      | now => exact .inl .now
      | later hserve hrest =>
          obtain hhere | ⟨a, s₁, hends, hthere⟩ := ih _ hrest
          · exact .inl (.later hserve hhere)
          · exact .inr ⟨a, s₁, .call hserve hends, hthere⟩

theorem Ends.bind {r : Except ε β} (hends : Ends serve p s (.ok a) s₁)
    (hrest : Ends serve (f a) s₁ r s') : Ends serve (p >>= f) s r s' := by
  induction p generalizing s with
  | ret b =>
      cases hends
      exact hrest
  | raise e => cases hends
  | call c₀ next ih =>
      cases hends with
      | call hserve hnext => exact .call hserve (ih _ hnext)

theorem Ends.bind_error (hends : Ends serve p s (.error e) s') : Ends serve (p >>= f) s (.error e) s' := by
  induction p generalizing s with
  | ret b => cases hends
  | raise e =>
      cases hends
      exact .raise
  | call c₀ next ih =>
      cases hends with
      | call hserve hnext => exact .call hserve (ih _ hnext)

theorem Ends.tryCatch_ok (hends : Ends serve p s (.ok a) s') : Ends serve (p.tryCatch h) s (.ok a) s' := by
  induction p generalizing s with
  | ret b => exact hends
  | raise e => cases hends
  | call c₀ next ih =>
      cases hends with
      | call hserve hnext => exact .call hserve (ih _ hnext)

theorem Ends.tryCatch_error (hends : Ends serve p s (.error e) s₁) (hcaught : Ends serve (h e) s₁ r s') :
    Ends serve (p.tryCatch h) s r s' := by
  induction p generalizing s with
  | ret b => cases hends
  | raise e =>
      cases hends
      exact hcaught
  | call c₀ next ih =>
      cases hends with
      | call hserve hnext => exact .call hserve (ih _ hnext)

theorem Ends.makes_bind {c : F.Call}
    (hends : Ends serve p s (.ok a) s₁) (hmakes : Makes serve (f a) s₁ c s') : Makes serve (p >>= f) s c s' := by
  induction p generalizing s with
  | ret b =>
      cases hends
      exact hmakes
  | raise e => cases hends
  | call c₀ next ih =>
      cases hends with
      | call hserve hrest => exact .later hserve (ih _ hrest)

theorem holds_aloneOwing_of_stable {I : σ → Prop} (hguarantee : ∀ c s, I s → guarantee c s)
    (hkeep : ∀ c s r s', I s → serve c s r s' → I s') (hI : I s) :
    (aloneOwing serve guarantee).holds p (fun _ s' => I s') s := by
  induction p generalizing s with
  | ret a => exact hI
  | raise e => exact hI
  | call c next ih =>
      exact holds_aloneOwing_call.mpr
        ⟨hguarantee c s hI, fun r s' hserve => ih r (hkeep c s r s' hI hserve)⟩

theorem holds_aloneOwing_keeping {I : σ → Prop} (hkeep : ∀ c s r s', I s → serve c s r s' → I s')
    (hp : (aloneOwing serve guarantee).holds p Q s) (hI : I s) :
    (aloneOwing serve guarantee).holds p (fun r s' => Q r s' ∧ I s') s := by
  induction p generalizing s with
  | ret a => exact ⟨hp, hI⟩
  | raise e => exact ⟨hp, hI⟩
  | call c next ih =>
      obtain ⟨hguarantee, hnext⟩ := holds_aloneOwing_call.mp hp
      exact holds_aloneOwing_call.mpr
        ⟨hguarantee, fun r s' hserve => ih r (hnext r s' hserve) (hkeep c s r s' hI hserve)⟩

/-- On the way of a program that fulfils its part, what every call keeps that meets what is owed
holds in every state. -/
theorem keeps_of_owing {I : σ → Prop} {p' : Prog F ε α}
    (hkeep : ∀ c s r s', guarantee c s → I s → serve c s r s' → I s')
    (hp : (aloneOwing serve guarantee).holds p Q s) (hI : I s)
    (hreach : Reaches (alone serve) (p, s) (p', s')) : I s' := by
  have hall : ∀ cfg, Reaches (alone serve) (p, s) cfg →
      (aloneOwing serve guarantee).holds cfg.1 Q cfg.2 ∧ I cfg.2 := by
    intro cfg hcfg
    induction hcfg with
    | refl => exact ⟨hp, hI⟩
    | tail _ hmoves ih =>
        cases hmoves with
        | call hserve =>
            obtain ⟨hguarantee, hnext⟩ := holds_aloneOwing_call.mp ih.1
            exact ⟨hnext _ _ hserve, hkeep _ _ _ _ hguarantee ih.2 hserve⟩
        | others hothers =>
            cases hothers
            exact ih
  exact (hall (p', s') hreach).2

theorem Ends.map {τ : Type} {serve' : Service F ε τ} (f : σ → τ)
    (hserve : ∀ c s r s', serve c s r s' → serve' c (f s) r (f s'))
    (hends : Ends serve p s r s') : Ends serve' p (f s) r (f s') := by
  induction hends with
  | ret => exact .ret
  | raise => exact .raise
  | call hcall _ ih => exact .call (hserve _ _ _ _ hcall) ih

end alone

/-! ## Logs -/

abbrev Log (F : Signature) (ε : Type) : Type := List ((c : F.Call) × Except ε (F.Reply c))

def logging (serve : Service F ε σ) : Service F ε (σ × Log F ε) :=
  fun c s r s' => serve c s.1 r s'.1 ∧ s'.2 = ⟨c, r⟩ :: s.2

theorem forall_logging {serve : Service F ε σ} {c : F.Call} {s : σ × Log F ε}
    {P : Except ε (F.Reply c) → σ × Log F ε → Prop} : (∀ r s', logging serve c s r s' → P r s') ↔
      ∀ r w', serve c s.1 r w' → P r (w', ⟨c, r⟩ :: s.2) := by
  constructor
  · exact fun h r w' hserve => h r _ ⟨hserve, rfl⟩
  · rintro h r ⟨w', log⟩ ⟨hserve, hlog⟩
    cases hlog
    exact h r w' hserve

def record : Service F ε (Log F ε) := fun c log r log' => log' = ⟨c, r⟩ :: log

theorem Ends.subset_log {serve : Service F ε σ} {p : Prog F ε α} {s s' : σ × Log F ε}
    {r : Except ε α} (hends : Ends (logging serve) p s r s') : s.2 ⊆ s'.2 := by
  induction hends with
  | ret => exact fun _ hmem => hmem
  | raise => exact fun _ hmem => hmem
  | call hserve _ ih =>
      intro entry hmem
      refine ih ?_
      rw [hserve.2]
      exact List.mem_cons_of_mem _ hmem

theorem Ends.keeps_owing {serve : Service F ε σ} {guarantee : F.Call → Log F ε → Prop}
    {p : Prog F ε α} {s s' : σ × Log F ε} {r : Except ε α} {Q : Except ε α → Log F ε → Prop}
    {I : σ → Prop} (hends : Ends (logging serve) p s r s') (hp : (aloneOwing record guarantee).holds p Q s.2)
    (hkeep : ∀ c w log r w', guarantee c log → I w → serve c w r w' → I w') (hI : I s.1) : I s'.1 := by
  induction hends with
  | ret => exact hI
  | raise => exact hI
  | call hserve _ ih =>
      obtain ⟨hguarantee, hnext⟩ := holds_aloneOwing_call.mp hp
      have hI' := hkeep _ _ _ _ _ hguarantee hI hserve.1
      exact ih (hnext _ _ hserve.2) hI'

/-- What the calls keep, of the state and the log, that meet what the program owes to its log, and what it owes besides
where replies are as `honest` says. -/
theorem Ends.keeps_owing_both {serve : Service F ε σ} {guarantee : F.Call → Log F ε → Prop} {owes : F.Call → Prop}
    {honest : (c : F.Call) → Except ε (F.Reply c) → Prop} {p : Prog F ε α} {s s' : σ × Log F ε} {r : Except ε α}
    {Q : Except ε α → Log F ε → Prop} {Q' : Except ε α → Unit → Prop} {I : σ × Log F ε → Prop}
    (hends : Ends (logging serve) p s r s') (hp : (aloneOwing record guarantee).holds p Q s.2)
    (hp' : (aloneOwing (fun c _ r _ => honest c r) fun c _ => owes c).holds p Q' ())
    (hhonest : ∀ c w r w', serve c w r w' → honest c r)
    (hkeep : ∀ c s r s', guarantee c s.2 → owes c → I s → logging serve c s r s' → I s') (hI : I s) : I s' := by
  induction hends with
  | ret => exact hI
  | raise => exact hI
  | call hserve _ ih =>
      obtain ⟨hguarantee, hnext⟩ := holds_aloneOwing_call.mp hp
      obtain ⟨howes, hnext'⟩ := holds_aloneOwing_call.mp hp'
      exact ih (hnext _ _ hserve.2) (hnext' _ () (hhonest _ _ _ _ hserve.1)) (hkeep _ _ _ _ hguarantee howes hI hserve)

theorem holds_record_bind {guarantee : F.Call → Log F ε → Prop} {c : F.Call}
    {f : F.Reply c → Prog F ε α} {Q : Except ε α → Log F ε → Prop} {log : Log F ε}
    (hguarantee : guarantee c log)
    (hok : ∀ a, (aloneOwing record guarantee).holds (f a) Q (⟨c, .ok a⟩ :: log))
    (herror : ∀ e, Q (.error e) (⟨c, .error e⟩ :: log)) :
    (aloneOwing record guarantee).holds (perform c >>= f) Q log := by
  refine holds_aloneOwing_bind.mpr ⟨hguarantee, ?_, ?_⟩
  · rintro a _ rfl
    exact hok a
  · rintro e _ rfl
    exact herror e

/-! ## Exhibiting ends -/

variable {answer : (c : F.Call) → σ → Option (Except ε (F.Reply c) × σ)}

theorem ends_of_drive {serve : Service F ε σ}
    (hserve : ∀ c s r s', answer c s = some (r, s') → serve c s r s') {n : Nat}
    {p : Prog F ε α} {s s' : σ} {result : Except ε α}
    (hdrive : drive answer n (p, s) = (ofExcept result, s')) : Ends serve p s result s' := by
  induction n generalizing p s with
  | zero =>
      cases hdrive
      cases result with
      | ok a => exact .ret
      | error e => exact .raise
  | succ n ih =>
      cases p with
      | ret a =>
          cases result with
          | ok b =>
              cases hdrive
              exact .ret
          | error e => cases hdrive
      | raise e =>
          cases result with
          | ok b => cases hdrive
          | error e' =>
              cases hdrive
              exact .raise
      | call c next =>
          unfold drive at hdrive
          cases hanswer : answer c s with
          | none =>
              rw [hanswer] at hdrive
              cases result <;> cases hdrive
          | some reply =>
              obtain ⟨r, s₁⟩ := reply
              rw [hanswer] at hdrive
              exact .call (hserve c s r s₁ hanswer) (ih hdrive)

theorem ends_of_result {serve : Service F ε σ}
    (hserve : ∀ c s r s', answer c s = some (r, s') → serve c s r s') (n : Nat)
    {p : Prog F ε α} {s : σ} {result : Except ε α}
    (hresult : (drive answer n (p, s)).1.result? = some result) :
    Ends serve p s result (drive answer n (p, s)).2 :=
  ends_of_drive hserve (Prod.ext (Prog.eq_ofExcept hresult) rfl)

def Prog.pending? : Prog F ε α → Option F.Call
  | ret _ => none
  | raise _ => none
  | call c _ => some c

theorem Prog.eq_call_of_pending {p : Prog F ε α} {c : F.Call} (hpending : p.pending? = some c) :
    ∃ next, p = .call c next := by
  cases p with
  | ret a => cases hpending
  | raise e => cases hpending
  | call c' next =>
      cases hpending
      exact ⟨next, rfl⟩

theorem makes_of_pending {serve : Service F ε σ}
    (hserve : ∀ c s r s', answer c s = some (r, s') → serve c s r s') (n : Nat)
    {p : Prog F ε α} {s : σ} {c : F.Call} (hpending : (drive answer n (p, s)).1.pending? = some c) :
    Makes serve p s c (drive answer n (p, s)).2 := by
  induction n generalizing p s with
  | zero =>
      cases p with
      | ret a => cases hpending
      | raise e => cases hpending
      | call c' next =>
          cases hpending
          exact .now
  | succ n ih =>
      cases p with
      | ret a => cases hpending
      | raise e => cases hpending
      | call c' next =>
          unfold drive at hpending ⊢
          cases hanswer : answer c' s with
          | none =>
              rw [hanswer] at hpending
              cases hpending
              exact .now
          | some reply =>
              obtain ⟨r, s₁⟩ := reply
              rw [hanswer] at hpending
              exact .later (hserve c' s r s₁ hanswer) (ih hpending)

end Interaction
