import ProxVM.Shares.Links

/-!
# Counting the uses of a share link

Any number of redemptions of a link run side by side.  Each looks at the number of uses before
it consumes one, and the statement that consumes it looks again.
-/

namespace ProxVM.Shares

open Tables Interaction

/-! ## Redemptions that succeeded -/

def redeemedLink : (request : Request) → Task request.Result → Option LinkId
  | .redeem _, .ret (some link) => some link.id
  | _, _ => none

def consumed : (c : Call) → Except AppError c.Reply → Option LinkId
  | .consumeUse _, .ok (some link) => some link.id
  | _, _ => none

/-- The redemptions of a link that succeeded: those that have returned it, and those that have
only to return it. -/
def successes (P : SharePool) (id : LinkId) : Nat :=
  P.state.redeemed.count id +
    P.threads.countP fun t => decide (redeemedLink t.role t.prog = some id)

def World.useCount (w : World) (id : LinkId) : Nat :=
  match w.links.find? id with
  | some link => link.useCount
  | none => 0

def Counts (request : Request) : Task request.Result → Prop
  | .ret _ => True
  | .raise _ => True
  | .call c next => ∀ r, redeemedLink request (next r) = consumed c r ∧ Counts request (next r)

section programs

variable {request : Request} {hashShareToken : String → String}

theorem redeemedLink_raise (e : AppError) : redeemedLink request (.raise e) = none := by
  cases request <;> rfl

theorem counts_bind {c : Call} {f : c.Reply → Task request.Result} (hc : ∀ r, consumed c r = none)
    (hf : ∀ a, redeemedLink request (f a) = none ∧ Counts request (f a)) : Counts request (ask c >>= f) := by
  intro r
  rw [hc r]
  cases r with
  | error e => exact ⟨redeemedLink_raise e, trivial⟩
  | ok a => exact hf a

theorem counts_of_only (hrequest : ∀ p, redeemedLink request p = none) {p : Task request.Result}
    (hp : Only (F := calls) (fun c => ∀ r, consumed c r = none) p) : Counts request p := by
  induction p with
  | ret a => trivial
  | raise e => trivial
  | call c next ih =>
      intro r
      rw [hrequest, hp.1 r]
      exact ⟨rfl, ih r (hp.2 r)⟩

theorem counts_consumeUse (token : String) (id : LinkId) : Counts (.redeem token) (ask (.consumeUse id)) := by
  rintro (e | (_ | link))
  · exact ⟨rfl, trivial⟩
  · exact ⟨rfl, trivial⟩
  · exact ⟨rfl, trivial⟩

theorem counts_redeemShareLink (token : String) :
    Counts (.redeem token) (redeemShareLink hashShareToken token) := by
  unfold redeemShareLink
  split
  · trivial
  · refine counts_bind (fun _ => rfl) fun now => ⟨rfl, ?_⟩
    refine counts_bind (fun _ => rfl) fun candidates => ?_
    cases candidates.find? fun row => sameHash (hashShareToken token) row.tokenHash with
    | none => exact ⟨rfl, trivial⟩
    | some link =>
        dsimp only
        split
        · exact ⟨rfl, counts_consumeUse token link.id⟩
        · exact ⟨rfl, trivial⟩

theorem counts_prog (request : Request) : Counts request (request.prog hashShareToken) := by
  cases request with
  | create input =>
      refine counts_of_only (fun p => by cases p <;> rfl) ?_
      change Only _ (createShareLink hashShareToken input)
      unfold createShareLink
      split
      · trivial
      · split
        · trivial
        · exact (only_perform.mpr fun _ => rfl).bind fun _ =>
            (only_perform.mpr fun _ => rfl).bind fun _ =>
              (only_perform.mpr fun _ => rfl).bind fun _ => only_orRaise
  | revoke id =>
      exact counts_of_only (fun p => by cases p <;> rfl) (only_perform.mpr fun _ => rfl)
  | redeem token => exact counts_redeemShareLink token
  | clock ms =>
      exact counts_of_only (fun p => by cases p <;> rfl) (only_perform.mpr fun _ => rfl)

end programs

/-! ## The invariant -/

structure Counted (P : SharePool) : Prop where
  counts : ∀ t ∈ P.threads, Counts t.role t.prog
  counted : ∀ id, P.state.useCount id = successes P id
  bounded : ∀ link ∈ P.state.links, ∀ n, link.maxUses = some n → link.useCount ≤ n

section invariant

variable {hashShareToken : String → String} {admits : SharePool → Request → Call → Prop}
  {P P' : SharePool} {w w' : World} {c : Call} {r : Except AppError c.Reply}

theorem World.consumeUse_cases (w : World) (id : LinkId) :
    w.consumeUse id = (none, w) ∨ ∃ link ∈ w.links, link.id = id ∧ link.usable = true ∧
      w.consumeUse id = (some link.used, w.addUse link) := by
  unfold World.consumeUse
  cases hfind : w.links.find? id with
  | none => exact .inl rfl
  | some link =>
      obtain ⟨hlink, hid⟩ := Table.find?_eq_some_iff.mp hfind
      by_cases husable : link.usable = true
      · exact .inr ⟨link, hlink, hid, husable, if_pos husable⟩
      · exact .inl (if_neg husable)

theorem World.insertLink_eq_some {new : NewLink} (hins : w.insertLink new = some w') :
    ∃ links, w' = { w with links } ∧ (∀ l ∈ w.links, l.id ≠ new.id) ∧
      ∀ l, l ∈ links ↔ l ∈ w.links ∨ l = new.row := by
  unfold World.insertLink at hins
  split at hins
  · cases hins
  · obtain ⟨links, hlinks, rfl⟩ := Option.map_eq_some_iff.mp hins
    obtain ⟨hfresh, hmem⟩ := Table.insert?_eq_some hlinks
    exact ⟨links, rfl, hfresh, hmem⟩

theorem World.useCount_of_mem {link : ShareLink} (hlink : link ∈ w.links) :
    w.useCount link.id = link.useCount := by
  rw [World.useCount, Table.find?_of_mem hlink]

theorem useCount_updateWhere {p : ShareLink → Bool} {f : ShareLink → ShareLink}
    {hkey : ∀ l, (f l).id = l.id} (hf : ∀ l, (f l).useCount = l.useCount) (id : LinkId) :
    World.useCount { w with links := w.links.updateWhere p f hkey } id = w.useCount id := by
  simp only [World.useCount, Table.find?_updateWhere]
  cases w.links.find? id with
  | none => rfl
  | some link =>
      simp only [Option.map_some]
      split
      · exact hf link
      · rfl

structure CountsUses (w w' : World) (use : Option LinkId) : Prop where
  redeemed : w'.redeemed = w.redeemed
  useCount : ∀ id, w'.useCount id = w.useCount id + if use = some id then 1 else 0
  bounded : (∀ link ∈ w.links, ∀ n, link.maxUses = some n → link.useCount ≤ n) →
    ∀ link ∈ w'.links, ∀ n, link.maxUses = some n → link.useCount ≤ n

theorem CountsUses.refl (w : World) : CountsUses w w none := ⟨rfl, fun _ => rfl, fun h => h⟩

theorem useCount_addUse {link : ShareLink} (hlink : link ∈ w.links) (id : LinkId) :
    (w.addUse link).useCount id = w.useCount id + if some link.id = some id then 1 else 0 := by
  simp only [World.useCount, World.addUse, Table.find?_updateWhere, Option.some.injEq]
  by_cases hid : link.id = id
  · subst hid
    rw [Table.find?_of_mem hlink, if_pos rfl, Option.map_some, if_pos (decide_eq_true rfl)]
    rfl
  · rw [if_neg hid]
    cases hother : w.links.find? id with
    | none => rfl
    | some l =>
        have hne : l.id ≠ link.id := fun h => hid (h.symm.trans (Table.key_of_find? hother))
        rw [Option.map_some, if_neg (by simpa using hne)]
        rfl

theorem countsUses_consumeUse (id : LinkId) :
    CountsUses w (w.consumeUse id).2 (consumed (.consumeUse id) (.ok (w.consumeUse id).1)) := by
  rcases w.consumeUse_cases id with hnone | ⟨link, hlink, -, husable, hsome⟩
  · rw [hnone]
    exact CountsUses.refl w
  · rw [hsome]
    refine ⟨rfl, useCount_addUse hlink, fun hbounded l hl n hn => ?_⟩
    obtain ⟨l₀, hl₀, rfl⟩ := mem_addUse.mp hl
    by_cases hid : l₀.id = link.id
    · -- The statement looked at the bound itself.
      obtain rfl := Table.eq_of_key_eq hl₀ hlink hid
      rw [if_pos hid] at hn ⊢
      have hmax : l₀.maxUses = some n := hn
      have hlt : l₀.useCount < n := by simpa [ShareLink.usable, hmax] using husable
      exact hlt
    · rw [if_neg hid] at hn ⊢
      exact hbounded l₀ hl₀ n hn

theorem countsUses_of_serves (hserve : Serves c w r w') : CountsUses w w' (consumed c r) := by
  rcases hserve with hserve | ⟨e, rfl, rfl⟩
  · cases c with
    | dateNow =>
        cases hserve
        exact CountsUses.refl w
    | selectValid now =>
        cases hserve
        exact CountsUses.refl w
    | consumeUse id =>
        cases hserve
        exact countsUses_consumeUse id
    | revoke id =>
        cases hserve
        refine ⟨rfl, useCount_updateWhere fun _ => rfl, fun hbounded l hl n hn => ?_⟩
        obtain ⟨l₀, hl₀, rfl⟩ := mem_revoke.mp hl
        have hsame := hbounded l₀ hl₀ n
        split at hn
        · rename_i hrevoked
          rw [if_pos hrevoked]
          exact hsame hn
        · rename_i hkept
          rw [if_neg hkept]
          exact hsame hn
    | insert new =>
        simp only [answer] at hserve
        split at hserve
        · rename_i w₁ hins
          cases hserve
          obtain ⟨links, rfl, hfresh, hmem⟩ := World.insertLink_eq_some hins
          refine ⟨rfl, fun id => ?_, fun hbounded l hl n hn => ?_⟩
          · change World.useCount _ id = w.useCount id
            by_cases hid : new.id = id
            · have hold : w.links.find? id = none :=
                Table.find?_eq_none_iff.mpr fun l hl => hid ▸ hfresh l hl
              have hnew : new.row ∈ links := (hmem new.row).mpr (.inr rfl)
              have hzero := World.useCount_of_mem (w := { w with links }) hnew
              rw [show new.row.id = id from hid] at hzero
              rw [hzero, World.useCount, hold]
              rfl
            · have hsame : links.find? id = w.links.find? id :=
                Table.find?_congr fun l hl => by
                  rw [hmem l]
                  refine ⟨fun h => h.resolve_right ?_, .inl⟩
                  rintro rfl
                  exact hid hl
              rw [World.useCount, World.useCount, hsame]
          · rcases (hmem l).mp hl with hold | rfl
            · exact hbounded l hold n hn
            · exact Nat.zero_le n
        · cases hserve
          exact CountsUses.refl w
    | getShareLink id =>
        cases hserve
        exact CountsUses.refl w
    | passTime ms =>
        cases hserve
        exact ⟨rfl, fun _ => rfl, fun h => h⟩
  · have hnone : consumed c (.error e) = none := by cases c <;> rfl
    rw [hnone]
    exact CountsUses.refl w'

theorem redeemedLink_call {request : Request} {next : Except AppError c.Reply → Task request.Result} :
    redeemedLink request (.call c next) = none := by
  cases request <;> rfl

theorem redeemedLink_prog (request : Request) :
    redeemedLink request (request.prog hashShareToken) = none := by
  cases request with
  | redeem token =>
      change redeemedLink (.redeem token) (redeemShareLink hashShareToken token) = none
      unfold redeemShareLink
      split
      · rfl
      · rfl
  | create input => rfl
  | revoke id => rfl
  | clock ms => rfl

theorem count_finish (request : Request) (r : Except AppError request.Result) (w : World)
    (id : LinkId) : (finish request r w).redeemed.count id =
      w.redeemed.count id + if redeemedLink request (.ofExcept r) = some id then 1 else 0 := by
  match request, r with
  | .redeem token, .ok (some link) =>
      simp only [finish, redeemedLink, Prog.ofExcept, List.count_cons, beq_iff_eq,
        Option.some.injEq]
  | .redeem token, .ok none => rfl
  | .redeem token, .error e => rfl
  | .create input, .ok _ => rfl
  | .create input, .error _ => rfl
  | .revoke id, .ok _ => rfl
  | .revoke id, .error _ => rfl
  | .clock ms, .ok _ => rfl
  | .clock ms, .error _ => rfl

theorem links_finish (request : Request) (r : Except AppError request.Result) (w : World) :
    (finish request r w).links = w.links := by
  unfold finish
  split
  · rfl
  · rfl

theorem Counted.step (hcounted : Counted P)
    (hstep : PoolStep (shareRules hashShareToken admits) P P') : Counted P' := by
  have hcounts : ∀ t ∈ P'.threads, Counts t.role t.prog := by
    refine forall_of_poolStep (S := fun t => Counts t.role t.prog) ?_ ?_ ?_ hcounted.counts hstep
    · intro request c next s r s' hnext _ _
      exact (hnext r).2
    · intro request result s s' t _ hends
      exact absurd hends.1 (by simp)
    · rintro s s' t ⟨-, request, heq⟩
      cases heq
      exact counts_prog request
  refine ⟨hcounts, ?_, ?_⟩
  · intro id
    have hbefore := hcounted.counted id
    cases hstep with
    | @call before after request c next s s' r hadmits hserve =>
        have hthread := hcounted.counts ⟨request, .call c next⟩
          (List.mem_append_right before List.mem_cons_self)
        have huses := countsUses_of_serves hserve
        have hlink := (hthread r).1
        simp only [successes, List.countP_append, List.countP_cons, redeemedLink_call] at hbefore ⊢
        rw [huses.useCount id, huses.redeemed, hbefore, hlink]
        simp only [reduceCtorEq, decide_false, Bool.false_eq_true, if_false, decide_eq_true_eq]
        omega
    | @ends before after request result s s' successor hends =>
        obtain ⟨rfl, rfl⟩ := hends
        have hsame : (finish request result s).useCount id = s.useCount id := by
          rw [World.useCount, World.useCount, links_finish]
        simp only [successes, List.countP_append, List.countP_cons, decide_eq_true_eq,
          Option.toList_none, List.nil_append] at hbefore ⊢
        rw [hsame, hbefore, count_finish]
        omega
    | turn hturn =>
        obtain ⟨rfl, request, rfl⟩ := hturn
        simp only [successes, Option.toList_some, List.cons_append, List.nil_append,
          List.countP_cons, redeemedLink_prog] at hbefore ⊢
        simpa using hbefore
  · cases hstep with
    | call hadmits hserve => exact (countsUses_of_serves hserve).bounded hcounted.bounded
    | @ends before after request result s s' successor hends =>
        obtain ⟨-, rfl⟩ := hends
        rw [links_finish]
        exact hcounted.bounded
    | turn hturn =>
        obtain ⟨rfl, -⟩ := hturn
        exact hcounted.bounded

theorem Counted.run (hcounted : Counted P)
    (hrun : PoolRun (shareRules hashShareToken admits) P P') : Counted P' := by
  induction hrun with
  | refl => exact hcounted
  | tail _ hstep ih => exact ih.step hstep

end invariant

/-! ## The law -/

def SharePool.start (now : Time) : SharePool := ⟨⟨now, Table.empty, [], []⟩, []⟩

theorem Counted.start (now : Time) : Counted (SharePool.start now) where
  counts _ ht := absurd ht List.not_mem_nil
  counted _ := rfl
  bounded link hlink := absurd hlink (Table.not_mem_empty link)

/-- **The uses of a share link.**  Whatever redemptions, creations and revocations run side by
side, the number of uses of a link is the number of redemptions of it that succeeded, and it
never exceeds `maxUses`. -/
theorem uses_counted (hashShareToken : String → String) (now : Time) (P : SharePool)
    (hrun : PoolRun (shareRules hashShareToken fun _ _ _ => True) (SharePool.start now) P) :
    ∀ link ∈ P.state.links, link.useCount = successes P link.id ∧
      ∀ n, link.maxUses = some n → successes P link.id ≤ n := by
  intro link hlink
  have hcounted := (Counted.start now).run hrun
  have hequal : link.useCount = successes P link.id :=
    (World.useCount_of_mem hlink).symm.trans (hcounted.counted link.id)
  refine ⟨hequal, fun n hn => ?_⟩
  rw [← hequal]
  exact hcounted.bounded link hlink n hn

def sampleUsed : World :=
  ⟨1000, ⟨[sampleLink.used], by decide⟩, [⟨sampleLink, 1000⟩], [1]⟩

theorem uses_counted_sample : sampleLink.used.useCount = successes ⟨sampleUsed, []⟩ sampleLink.used.id ∧
    ∀ n, sampleLink.used.maxUses = some n → successes ⟨sampleUsed, []⟩ sampleLink.used.id ≤ n := by
  have hredeemed : drive (fun c w => some (answer c w)) 3 (redeemShareLink (fun token => token)
      "token", sampleWorld) = (.ofExcept (.ok (some sampleLink.used)),
        { sampleUsed with redeemed := [] }) := by rfl
  have hends := @endsFirst (fun token => token) (.redeem "token") _ _ _ (.ok (some sampleLink.used))
    [] 3 hredeemed
  have hrun : PoolRun (freeRules fun token => token) (SharePool.start 1000) ⟨sampleUsed, []⟩ :=
    sampleWorld_reached.trans (.head (startsFirst _ (.redeem "token") sampleWorld []) hends)
  exact uses_counted (fun token => token) 1000 ⟨sampleUsed, []⟩ hrun sampleLink.used
    (List.mem_singleton_self _)

end ProxVM.Shares
