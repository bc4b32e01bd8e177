import ProxVM.Lib.Interaction

/-!
# Programs side by side

A pool is a list of programs, each with a role, that share a state.  In one step a
program makes a call, or a program that has ended leaves the pool, possibly with a
successor, or the environment takes a turn and may bring in a newcomer.  `Rules`
say how calls are served, which of them are let through, what follows an end and
what the environment may do.

- `forall_of_poolStep`: what each program satisfies by itself is kept by a step, if
  each call keeps it and successors and newcomers have it.
- `guarded_of_poolStep`: the rule of rely and guarantee.
- `poolRun_drive` and `poolRun_drive_beside`: a program of the pool may run alone for a while.
-/

namespace Interaction

open Prog

structure Thread (F : Signature) (ε : Type) {ρ : Type} (Result : ρ → Type) where
  role : ρ
  prog : Prog F ε (Result role)

structure Pool (F : Signature) (ε σ : Type) {ρ : Type} (Result : ρ → Type) where
  state : σ
  threads : List (Thread F ε Result)

structure Rules (F : Signature) (ε σ : Type) {ρ : Type} (Result : ρ → Type) where
  serve : (c : F.Call) → σ → Except ε (F.Reply c) → σ → Prop
  admits : Pool F ε σ Result → ρ → F.Call → Prop
  ends : (role : ρ) → Except ε (Result role) → σ → Option (Thread F ε Result) → σ → Prop
  turn : σ → Option (Thread F ε Result) → σ → Prop

variable {F : Signature} {ε σ ρ : Type} {Result : ρ → Type} {R : Rules F ε σ Result}

inductive PoolStep (R : Rules F ε σ Result) : Pool F ε σ Result → Pool F ε σ Result → Prop
  | call {before after : List (Thread F ε Result)} {role : ρ} {c : F.Call}
      {next : Except ε (F.Reply c) → Prog F ε (Result role)} {s s' : σ}
      {r : Except ε (F.Reply c)}
      (hadmits : R.admits ⟨s, before ++ ⟨role, .call c next⟩ :: after⟩ role c)
      (hserve : R.serve c s r s') :
      PoolStep R ⟨s, before ++ ⟨role, .call c next⟩ :: after⟩ ⟨s', before ++ ⟨role, next r⟩ :: after⟩
  | ends {before after : List (Thread F ε Result)} {role : ρ} {result : Except ε (Result role)}
      {s s' : σ} {successor : Option (Thread F ε Result)}
      (hends : R.ends role result s successor s') :
      PoolStep R ⟨s, before ++ ⟨role, .ofExcept result⟩ :: after⟩
        ⟨s', before ++ (successor.toList ++ after)⟩
  | turn {threads : List (Thread F ε Result)} {s s' : σ} {newcomer : Option (Thread F ε Result)}
      (hturn : R.turn s newcomer s') : PoolStep R ⟨s, threads⟩ ⟨s', newcomer.toList ++ threads⟩

abbrev PoolRun (R : Rules F ε σ Result) : Pool F ε σ Result → Pool F ε σ Result → Prop :=
  Relation.ReflTransGen (PoolStep R)

theorem PoolStep.callFirst {role : ρ} {c : F.Call}
    {next : Except ε (F.Reply c) → Prog F ε (Result role)} {s s' : σ} {r : Except ε (F.Reply c)}
    {others : List (Thread F ε Result)}
    (hadmits : R.admits ⟨s, ⟨role, .call c next⟩ :: others⟩ role c) (hserve : R.serve c s r s') :
    PoolStep R ⟨s, ⟨role, .call c next⟩ :: others⟩ ⟨s', ⟨role, next r⟩ :: others⟩ :=
  show PoolStep R ⟨s, [] ++ ⟨role, .call c next⟩ :: others⟩ ⟨s', [] ++ ⟨role, next r⟩ :: others⟩ from
    .call hadmits hserve

theorem PoolStep.endsFirst {role : ρ} {result : Except ε (Result role)} {s s' : σ}
    {others : List (Thread F ε Result)} {successor : Option (Thread F ε Result)}
    (hends : R.ends role result s successor s') :
    PoolStep R ⟨s, ⟨role, .ofExcept result⟩ :: others⟩ ⟨s', successor.toList ++ others⟩ :=
  show PoolStep R ⟨s, [] ++ ⟨role, .ofExcept result⟩ :: others⟩
    ⟨s', [] ++ (successor.toList ++ others)⟩ from .ends hends

theorem forall_of_poolStep {S : Thread F ε Result → Prop} {P P' : Pool F ε σ Result}
    (hcall : ∀ {role c} {next : Except ε (F.Reply c) → Prog F ε (Result role)} {s r s'},
      S ⟨role, .call c next⟩ → R.serve c s r s' → P.state = s → S ⟨role, next r⟩)
    (hends : ∀ {role} {result : Except ε (Result role)} {s s' t},
      S ⟨role, .ofExcept result⟩ → R.ends role result s (some t) s' → S t)
    (hturn : ∀ {s s' t}, R.turn s (some t) s' → S t)
    (hS : ∀ t ∈ P.threads, S t) (hstep : PoolStep R P P') : ∀ t ∈ P'.threads, S t := by
  cases hstep with
  | call hadmits hserve =>
      rw [List.forall_mem_append, List.forall_mem_cons] at hS ⊢
      exact ⟨hS.1, hcall hS.2.1 hserve rfl, hS.2.2⟩
  | @ends before after role result s s' successor hend =>
      rw [List.forall_mem_append, List.forall_mem_cons] at hS
      rw [List.forall_mem_append, List.forall_mem_append]
      refine ⟨hS.1, ?_, hS.2.2⟩
      cases successor with
      | none => exact fun t ht => absurd ht List.not_mem_nil
      | some t => exact List.forall_mem_singleton.mpr (hends hS.2.1 hend)
  | @turn threads s s' newcomer hturns =>
      rw [List.forall_mem_append]
      refine ⟨?_, hS⟩
      cases newcomer with
      | none => exact fun t ht => absurd ht List.not_mem_nil
      | some t => exact List.forall_mem_singleton.mpr (hturn hturns)

/-- What holds of every program in the state it shares is kept by a step, if the program that
moves keeps it for itself and its move keeps it for the others. -/
theorem forall_of_poolStep_in {S : σ → Thread F ε Result → Prop} {P P' : Pool F ε σ Result}
    (hcall : ∀ {role c} {next : Except ε (F.Reply c) → Prog F ε (Result role)} {s r s'},
      P.state = s → R.admits P role c → R.serve c s r s' → S s ⟨role, .call c next⟩ → S s' ⟨role, next r⟩)
    (hothers : ∀ {role c s r s'}, P.state = s → R.admits P role c → R.serve c s r s' →
      ∀ t ∈ P.threads, S s t → S s' t) (hends : ∀ {role} {result : Except ε (Result role)} {s s' successor},
      R.ends role result s successor s' → (∀ t, S s t → S s' t) ∧ ∀ t, successor = some t → S s' t)
    (hturn : ∀ {s s' newcomer}, R.turn s newcomer s' →
      (∀ t, S s t → S s' t) ∧ ∀ t, newcomer = some t → S s' t)
    (hS : ∀ t ∈ P.threads, S P.state t) (hstep : PoolStep R P P') : ∀ t ∈ P'.threads, S P'.state t := by
  cases hstep with
  | @call before after role c next s s' r hadmits hserve =>
      have hkept := hothers rfl hadmits hserve
      have hmoved : S s' ⟨role, next r⟩ :=
        hcall rfl hadmits hserve (hS _ (List.mem_append_right before List.mem_cons_self))
      intro t ht
      rcases List.mem_append.mp ht with hbefore | hrest
      · have hmem := List.mem_append_left (⟨role, .call c next⟩ :: after) hbefore
        exact hkept t hmem (hS t hmem)
      · rcases List.mem_cons.mp hrest with rfl | hafter
        · exact hmoved
        · have hmem := List.mem_append_right before (List.mem_cons_of_mem ⟨role, .call c next⟩ hafter)
          exact hkept t hmem (hS t hmem)
  | @ends before after role result s s' successor hend =>
      obtain ⟨hkept, hsuccessor⟩ := hends hend
      intro t ht
      rcases List.mem_append.mp ht with hbefore | hrest
      · exact hkept t (hS t (List.mem_append_left _ hbefore))
      · rcases List.mem_append.mp hrest with hnew | hafter
        · exact hsuccessor t (Option.mem_toList.mp hnew)
        · exact hkept t (hS t (List.mem_append_right before (List.mem_cons_of_mem _ hafter)))
  | @turn threads s s' newcomer hturns =>
      obtain ⟨hkept, hnewcomer⟩ := hturn hturns
      intro t ht
      rcases List.mem_append.mp ht with hnew | hold
      · exact hnewcomer t (Option.mem_toList.mp hnew)
      · exact hkept t (hS t hold)

/-- The same, if what a move keeps for the others depends on how they stand beside the program that
moves. -/
theorem forall_of_poolStep_beside {S : σ → Thread F ε Result → Prop} {P P' : Pool F ε σ Result}
    (hcall : ∀ {role c} {next : Except ε (F.Reply c) → Prog F ε (Result role)} {s r s'},
      R.serve c s r s' → S s ⟨role, .call c next⟩ → S s' ⟨role, next r⟩)
    (hothers : ∀ {before after role c} {next : Except ε (F.Reply c) → Prog F ε (Result role)} {s r s'},
      R.admits ⟨s, before ++ ⟨role, .call c next⟩ :: after⟩ role c → R.serve c s r s' →
        S s ⟨role, .call c next⟩ → ∀ t ∈ before ++ after, S s t → S s' t)
    (hends : ∀ {role} {result : Except ε (Result role)} {s s' successor},
      R.ends role result s successor s' → (∀ t, S s t → S s' t) ∧ ∀ t, successor = some t → S s' t)
    (hturn : ∀ {s s' newcomer}, R.turn s newcomer s' →
      (∀ t, S s t → S s' t) ∧ ∀ t, newcomer = some t → S s' t)
    (hS : ∀ t ∈ P.threads, S P.state t) (hstep : PoolStep R P P') : ∀ t ∈ P'.threads, S P'.state t := by
  cases hstep with
  | @call before after role c next s s' r hadmits hserve =>
      rw [List.forall_mem_append, List.forall_mem_cons] at hS ⊢
      have hkept := hothers hadmits hserve hS.2.1
      exact ⟨fun t ht => hkept t (List.mem_append_left _ ht) (hS.1 t ht), hcall hserve hS.2.1,
        fun t ht => hkept t (List.mem_append_right _ ht) (hS.2.2 t ht)⟩
  | @ends before after role result s s' successor hend =>
      obtain ⟨hkept, hsuccessor⟩ := hends hend
      rw [List.forall_mem_append, List.forall_mem_cons] at hS
      rw [List.forall_mem_append, List.forall_mem_append]
      exact ⟨fun t ht => hkept t (hS.1 t ht), fun t ht => hsuccessor t (Option.mem_toList.mp ht),
        fun t ht => hkept t (hS.2.2 t ht)⟩
  | @turn threads s s' newcomer hturns =>
      obtain ⟨hkept, hnewcomer⟩ := hturn hturns
      rw [List.forall_mem_append]
      exact ⟨fun t ht => hnewcomer t (Option.mem_toList.mp ht), fun t ht => hkept t (hS t ht)⟩

/-! ## Programs that meet their contexts -/

theorem forall_mem_middle {α : Type} {B : α → Prop} {before after : List α} {x : α} :
    (∀ y ∈ before ++ x :: after, B y) ↔ B x ∧ ∀ y ∈ before ++ after, B y := by
  rw [List.forall_mem_append, List.forall_mem_cons, List.forall_mem_append, and_left_comm]

/-- Every program of the pool meets the context of its role, in a state that satisfies `I`. -/
structure Guarded (C : ρ → Context F ε σ) (Q : (role : ρ) → Except ε (Result role) → σ → Prop)
    (I : σ → Prop) (P : Pool F ε σ Result) : Prop where
  inv : I P.state
  threads : ∀ t ∈ P.threads, (C t.role).holds t.prog (Q t.role) P.state

def Held {γ : Type} (S : σ → γ → Thread F ε Result → Prop) (D : γ → γ → Prop) (P : Pool F ε σ Result) : Prop :=
  ∃ held : List (γ × Thread F ε Result), held.map Prod.snd = P.threads ∧
    (∀ p ∈ held, S P.state p.1 p.2) ∧ held.Pairwise fun p q => D p.1 q.1

section tokens

variable {γ : Type} {S : σ → γ → Thread F ε Result → Prop} {D : γ → γ → Prop} {P P' : Pool F ε σ Result}

theorem Held.of_mem (hheld : Held S D P) {t : Thread F ε Result} (hmem : t ∈ P.threads) : ∃ g, S P.state g t := by
  obtain ⟨held, hthreads, hS, -⟩ := hheld
  rw [← hthreads] at hmem
  obtain ⟨⟨g, t⟩, hp, rfl⟩ := List.mem_map.mp hmem
  exact ⟨g, hS _ hp⟩

theorem pairwise_middle {α : Type} {D : α → α → Prop} (hsymm : ∀ g h, D g h → D h g) {first last : List α} {g : α} :
    (first ++ g :: last).Pairwise D ↔ (∀ h ∈ first ++ last, D g h) ∧ (first ++ last).Pairwise D := by
  have hperm : (first ++ g :: last).Perm (g :: (first ++ last)) := List.perm_middle
  rw [hperm.pairwise_iff fun {g h} => hsymm g h, List.pairwise_cons]

/-- Tokens that are apart stay apart in a step, if the program that moves gets one that is apart from
those of the others, and its move keeps what holds of them, where the state satisfies `I`. -/
theorem held_of_poolStep {I : σ → Prop} (hI : I P.state) (hsymm : ∀ g h, D g h → D h g)
    (hcall : ∀ {before after role c} {next : Except ε (F.Reply c) → Prog F ε (Result role)} {s r s' g},
      I s → R.admits ⟨s, before ++ ⟨role, .call c next⟩ :: after⟩ role c → R.serve c s r s' →
        S s g ⟨role, .call c next⟩ → ∃ g', S s' g' ⟨role, next r⟩ ∧
          ∀ h t, D g h → S s h t → S s' h t ∧ D g' h)
    (hends : ∀ {role} {result : Except ε (Result role)} {s s' successor g},
      R.ends role result s successor s' → S s g ⟨role, .ofExcept result⟩ →
        (∀ h t, D g h → S s h t → S s' h t) ∧ ∀ t, successor = some t → ∃ g', S s' g' t ∧ ∀ h, D g h → D g' h)
    (hturn : ∀ {s s' newcomer}, R.turn s newcomer s' →
      (∀ h t, S s h t → S s' h t) ∧ ∀ t, newcomer = some t → ∃ g, S s' g t ∧ ∀ h, D g h)
    (hheld : Held S D P) (hstep : PoolStep R P P') : Held S D P' := by
  have hsymm' : ∀ p q : γ × Thread F ε Result, D p.1 q.1 → D q.1 p.1 := fun p q => hsymm p.1 q.1
  obtain ⟨held, hthreads, hS, hapart⟩ := hheld
  cases hstep with
  | @call before after role c next s s' r hadmits hserve =>
      obtain ⟨first, rest, rfl, rfl, hrest⟩ := List.map_eq_append_iff.mp hthreads
      obtain ⟨⟨g, t⟩, last, rfl, ht, rfl⟩ := List.map_eq_cons_iff.mp hrest
      cases ht
      rw [pairwise_middle hsymm'] at hapart
      rw [forall_mem_middle] at hS
      obtain ⟨g', hg', hothers⟩ := hcall hI hadmits hserve hS.1
      have hkept : ∀ p ∈ first ++ last, S s' p.1 p.2 ∧ D g' p.1 := fun p hp =>
        hothers p.1 p.2 (hapart.1 p hp) (hS.2 p hp)
      refine ⟨first ++ (g', ⟨role, next r⟩) :: last, ?_, ?_, ?_⟩
      · simp only [List.map_append, List.map_cons]
      · exact forall_mem_middle.mpr ⟨hg', fun p hp => (hkept p hp).1⟩
      · exact (pairwise_middle hsymm').mpr ⟨fun p hp => (hkept p hp).2, hapart.2⟩
  | @ends before after role result s s' successor hend =>
      obtain ⟨first, rest, rfl, rfl, hrest⟩ := List.map_eq_append_iff.mp hthreads
      obtain ⟨⟨g, t⟩, last, rfl, ht, rfl⟩ := List.map_eq_cons_iff.mp hrest
      cases ht
      rw [pairwise_middle hsymm'] at hapart
      rw [forall_mem_middle] at hS
      obtain ⟨hothers, hsuccessor⟩ := hends hend hS.1
      have hkept : ∀ p ∈ first ++ last, S s' p.1 p.2 := fun p hp => hothers p.1 p.2 (hapart.1 p hp) (hS.2 p hp)
      cases successor with
      | none => exact ⟨first ++ last, by simp, hkept, hapart.2⟩
      | some t =>
          obtain ⟨g', hg', hD⟩ := hsuccessor t rfl
          refine ⟨first ++ (g', t) :: last, by simp, ?_, ?_⟩
          · exact forall_mem_middle.mpr ⟨hg', hkept⟩
          · exact (pairwise_middle hsymm').mpr ⟨fun p hp => hD p.1 (hapart.1 p hp), hapart.2⟩
  | @turn threads s s' newcomer hturns =>
      obtain ⟨hkept, hnewcomer⟩ := hturn hturns
      have hold : ∀ p ∈ held, S s' p.1 p.2 := fun p hp => hkept p.1 p.2 (hS p hp)
      cases newcomer with
      | none => exact ⟨held, hthreads, hold, hapart⟩
      | some t =>
          obtain ⟨g, hg, hD⟩ := hnewcomer t rfl
          refine ⟨(g, t) :: held, ?_, List.forall_mem_cons.mpr ⟨hg, hold⟩,
            List.pairwise_cons.mpr ⟨fun p _ => hD p.1, hapart⟩⟩
          rw [List.map_cons, hthreads]
          rfl

end tokens

/-! ## One program among the others -/

/-- One element of the list satisfies `A` and all the others satisfy `B`. -/
def Single {α : Type} (A B : α → Prop) (l : List α) : Prop :=
  ∃ x rest, l.Perm (x :: rest) ∧ A x ∧ ∀ y ∈ rest, B y

section single

variable {α : Type} {A A' B : α → Prop} {before after : List α} {x : α}

theorem single_of (hx : A x) (hothers : ∀ y ∈ before ++ after, B y) : Single A B (before ++ x :: after) :=
  ⟨x, before ++ after, List.perm_middle, hx, hothers⟩

theorem Single.insert (hsingle : Single A B (before ++ after)) (hx : B x) :
    Single A B (before ++ x :: after) := by
  obtain ⟨y, rest, hperm, hy, hrest⟩ := hsingle
  refine ⟨y, x :: rest, ?_, hy, List.forall_mem_cons.mpr ⟨hx, hrest⟩⟩
  exact List.perm_middle.trans ((hperm.cons x).trans (List.Perm.swap y x rest))

theorem Single.cons {l : List α} (hsingle : Single A B l) (hx : B x) : Single A B (x :: l) :=
  Single.insert (show Single A B ([] ++ l) from hsingle) hx

theorem Single.split (hsingle : Single A B (before ++ x :: after)) :
    (A x ∧ ∀ y ∈ before ++ after, B y) ∨ (B x ∧ Single A B (before ++ after)) := by
  obtain ⟨y, rest, hperm, hy, hrest⟩ := hsingle
  have hfront : (x :: (before ++ after)).Perm (y :: rest) := List.perm_middle.symm.trans hperm
  obtain rfl | hmem := List.mem_cons.mp (hfront.mem_iff.mp List.mem_cons_self)
  · refine .inl ⟨hy, fun z hz => hrest z ?_⟩
    exact hfront.cons_inv.mem_iff.mp hz
  · obtain ⟨first, last, rfl⟩ := List.append_of_mem hmem
    refine .inr ⟨hrest x hmem, y, first ++ last, ?_, hy, fun z hz => hrest z ?_⟩
    · have hmove : (y :: (first ++ x :: last)).Perm (x :: y :: (first ++ last)) :=
        (List.perm_middle.cons y).trans (List.Perm.swap x y (first ++ last))
      exact (hfront.trans hmove).cons_inv
    · exact (List.perm_middle.mem_iff.mpr (List.mem_cons_of_mem x hz))

theorem Single.mono {l : List α} (hsingle : Single A B l) (himp : ∀ x, A x → A' x) : Single A' B l := by
  obtain ⟨x, rest, hperm, hx, hrest⟩ := hsingle
  exact ⟨x, rest, hperm, himp x hx, hrest⟩

end single

/-! ## Exhibiting runs -/

variable {answer : (c : F.Call) → σ → Option (Except ε (F.Reply c) × σ)}

theorem poolRun_drive_answered {role : ρ} {others : List (Thread F ε Result)}
    (hcall : ∀ c next s r s', answer c s = some (r, s') →
      R.admits ⟨s, ⟨role, .call c next⟩ :: others⟩ role c ∧ R.serve c s r s') (n : Nat)
    (p : Prog F ε (Result role)) (s : σ) : PoolRun R ⟨s, ⟨role, p⟩ :: others⟩
      ⟨(drive answer n (p, s)).2, ⟨role, (drive answer n (p, s)).1⟩ :: others⟩ :=
  reaches_drive (fun cfg => (⟨cfg.2, ⟨role, cfg.1⟩ :: others⟩ : Pool F ε σ Result))
    (fun c next s r s' hanswer => .callFirst (hcall c next s r s' hanswer).1 (hcall c next s r s' hanswer).2) n (p, s)

theorem poolRun_drive_beside {role : ρ} {others : List (Thread F ε Result)}
    (hadmits : ∀ c next s, R.admits ⟨s, ⟨role, .call c next⟩ :: others⟩ role c)
    (hserve : ∀ c s r s', answer c s = some (r, s') → R.serve c s r s') (n : Nat)
    (p : Prog F ε (Result role)) (s : σ) : PoolRun R ⟨s, ⟨role, p⟩ :: others⟩
      ⟨(drive answer n (p, s)).2, ⟨role, (drive answer n (p, s)).1⟩ :: others⟩ :=
  poolRun_drive_answered (fun c next s r s' hanswer => ⟨hadmits c next s, hserve c s r s' hanswer⟩) n p s

theorem poolRun_drive (hadmits : ∀ P role c, R.admits P role c)
    (hserve : ∀ c s r s', answer c s = some (r, s') → R.serve c s r s') (n : Nat) (role : ρ)
    (p : Prog F ε (Result role)) (s : σ) (others : List (Thread F ε Result)) :
    PoolRun R ⟨s, ⟨role, p⟩ :: others⟩
      ⟨(drive answer n (p, s)).2, ⟨role, (drive answer n (p, s)).1⟩ :: others⟩ :=
  poolRun_drive_beside (fun _ _ _ => hadmits _ _ _) hserve n p s

theorem poolRun_to_end (hadmits : ∀ P role c, R.admits P role c)
    (hserve : ∀ c s r s', answer c s = some (r, s') → R.serve c s r s') (n : Nat) (role : ρ)
    (p : Prog F ε (Result role)) (s : σ) {others : List (Thread F ε Result)}
    {result : Except ε (Result role)} {successor : Option (Thread F ε Result)} {s' : σ}
    (hresult : (drive answer n (p, s)).1.result? = some result)
    (hends : R.ends role result (drive answer n (p, s)).2 successor s') :
    PoolRun R ⟨s, ⟨role, p⟩ :: others⟩ ⟨s', successor.toList ++ others⟩ := by
  refine (poolRun_drive hadmits hserve n role p s others).tail ?_
  rw [Prog.eq_ofExcept hresult]
  exact .endsFirst hends

end Interaction
