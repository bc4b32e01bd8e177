import Mathlib.Data.Nat.Bitwise
import ProxVM.Shares.Uses

/-!
# Revoked and expired share links

`redeemShareLink` looks for a link that is neither revoked nor expired, and consumes the use in
a second statement, which looks at the number of uses only.
-/

namespace ProxVM.Shares

open Tables Interaction

/-! ## The comparison of hashes -/

theorem foldl_diff_eq_zero (digits : List (Char × Char)) (diff : Nat) :
    digits.foldl (fun diff digits => diff ||| (digits.1.toNat ^^^ digits.2.toNat)) diff = 0 ↔
      diff = 0 ∧ ∀ pair ∈ digits, pair.1 = pair.2 := by
  induction digits generalizing diff with
  | nil => simp
  | cons pair digits ih =>
      have hpair : pair.1.toNat ^^^ pair.2.toNat = 0 ↔ pair.1 = pair.2 :=
        Nat.xor_eq_zero_iff.trans ⟨fun h => Char.toNat_inj.mp h, fun h => congrArg Char.toNat h⟩
      rw [List.foldl_cons, ih, Nat.or_eq_zero_iff, hpair, List.forall_mem_cons, and_assoc]

theorem eq_of_zip {α : Type} {xs ys : List α} (hlength : ys.length = xs.length)
    (hpairs : ∀ pair ∈ xs.zip ys, pair.1 = pair.2) : ys = xs := by
  induction xs generalizing ys with
  | nil => exact List.length_eq_zero_iff.mp hlength
  | cons x xs ih =>
      cases ys with
      | nil => exact absurd hlength (by simp)
      | cons y ys =>
          rw [List.zip_cons_cons, List.forall_mem_cons] at hpairs
          have hrest : ys = xs := ih (Nat.succ.inj hlength) hpairs.2
          have hfirst : y = x := hpairs.1.symm
          rw [hfirst, hrest]

theorem eq_of_sameHash {wanted candidate : String} (hsame : sameHash wanted candidate = true) :
    candidate = wanted := by
  simp only [sameHash, Bool.and_eq_true, decide_eq_true_eq] at hsame
  obtain ⟨hlength, hdiff⟩ := hsame
  have hpairs := ((foldl_diff_eq_zero _ 0).mp hdiff).2
  exact String.toList_inj.mp (eq_of_zip hlength hpairs)

/-! ## The condition -/

def aboutToUse (t : ShareThread) : Option LinkId :=
  match t.prog with
  | .call (.consumeUse id) _ => some id
  | _ => none

/-- Nothing takes a link from a redemption.  When a redemption looks for its link, the link has
not expired since the look at the clock, and while it is about to consume the use the link is not
revoked and does not expire. -/
def Undisturbed (hashShareToken : String → String) (P : SharePool) : Request → Call → Prop
  | .redeem token, .selectValid now =>
      ∀ link ∈ P.state.links, link.tokenHash = hashShareToken token → now < link.expiresAt →
        P.state.now < link.expiresAt
  | _, .revoke id => ∀ t ∈ P.threads, aboutToUse t ≠ some id
  | _, .passTime ms =>
      ∀ t ∈ P.threads, ∀ link ∈ P.state.links, aboutToUse t = some link.id →
        P.state.now + ms < link.expiresAt
  | _, _ => True

/-! ## Where a redemption stands -/

inductive Standing (hashShareToken : String → String) (w : World) (token : String) :
    Task (Option ShareLink) → Prop
  | starts : Standing hashShareToken w token (redeemShareLink hashShareToken token)
  | looks (now : Time) : Standing hashShareToken w token (useMatch hashShareToken token now)
  | uses {link : ShareLink} (hlink : link ∈ w.links) (hvalid : link.valid w.now = true) :
      Standing hashShareToken w token (ask (.consumeUse link.id))
  | ended (r : Except AppError (Option ShareLink)) : Standing hashShareToken w token (.ofExcept r)

def Spares (c : Call) : Prop := ∀ id, c ≠ .consumeUse id

def Fits (hashShareToken : String → String) (w : World) (t : ShareThread) : Prop :=
  match t with
  | ⟨.redeem token, p⟩ => Standing hashShareToken w token p
  | ⟨.create _, p⟩ => Only (F := calls) Spares p
  | ⟨.revoke _, p⟩ => Only (F := calls) Spares p
  | ⟨.clock _, p⟩ => Only (F := calls) Spares p

section invariant

variable {hashShareToken : String → String} {w w' : World} {P P' : SharePool}

theorem only_createShareLink {S : Call → Prop} (hnow : S .dateNow) (hinsert : ∀ new, S (.insert new))
    (hget : ∀ id, S (.getShareLink id)) (input : CreateInput) :
    Only (F := calls) S (createShareLink hashShareToken input) := by
  unfold createShareLink
  split
  · trivial
  · split
    · trivial
    · refine (only_perform.mpr hnow).bind fun now => ?_
      refine (only_perform.mpr (hinsert _)).bind fun _ => ?_
      exact (only_perform.mpr (hget _)).bind fun _ => only_orRaise

theorem fits_prog (request : Request) : Fits hashShareToken w ⟨request, request.prog hashShareToken⟩ := by
  cases request with
  | redeem token => exact .starts
  | create input =>
      exact only_createShareLink (fun _ h => nomatch h) (fun _ _ h => nomatch h)
        (fun _ _ h => nomatch h) input
  | revoke id =>
      have hspares : Spares (.revoke id) := fun _ h => nomatch h
      exact show Only (F := calls) Spares (ask (.revoke id)) from only_perform.mpr hspares
  | clock ms =>
      have hspares : Spares (.passTime ms) := fun _ h => nomatch h
      exact show Only (F := calls) Spares (ask (.passTime ms)) from only_perform.mpr hspares

variable {request : Request} {c : Call} {link : ShareLink} {t : ShareThread}

variable {r : Except AppError c.Reply} {next : Except AppError c.Reply → Task request.Result}

theorem valid_kept (hadmits : Undisturbed hashShareToken P request c)
    (hserve : Serves c P.state r w') (ht : t ∈ P.threads) (hlink : link ∈ P.state.links)
    (huse : aboutToUse t = some link.id) (hvalid : link.valid P.state.now = true) :
    ∃ link' ∈ w'.links, link'.id = link.id ∧ link'.valid w'.now = true := by
  have hsame : ∃ link' ∈ P.state.links, link'.id = link.id ∧ link'.valid P.state.now = true :=
    ⟨link, hlink, rfl, hvalid⟩
  rcases hserve with hserve | ⟨e, -, rfl⟩
  · cases c with
    | dateNow =>
        cases hserve
        exact hsame
    | selectValid now =>
        cases hserve
        exact hsame
    | consumeUse id =>
        cases hserve
        rcases P.state.consumeUse_cases id with hnone | ⟨used, -, -, -, hsome⟩
        · rw [hnone]
          exact hsame
        · -- A use changes neither the expiry nor the revocation.
          rw [hsome]
          refine ⟨if link.id = used.id then link.used else link, ?_, ?_, ?_⟩
          · exact mem_addUse.mpr ⟨link, hlink, rfl⟩
          · split
            · rfl
            · rfl
          · split
            · exact hvalid
            · exact hvalid
    | revoke id =>
        cases hserve
        have hother : link.id ≠ id := by
          rintro rfl
          exact (show ∀ t ∈ P.threads, aboutToUse t ≠ some link.id by
            cases request <;> exact hadmits) t ht huse
        refine ⟨link, mem_revoke.mpr ⟨link, hlink, ?_⟩, rfl, hvalid⟩
        rw [if_neg fun h => hother h.1]
    | insert new =>
        simp only [answer] at hserve
        split at hserve
        · rename_i w₁ hins
          cases hserve
          obtain ⟨links, rfl, -, hmem⟩ := World.insertLink_eq_some hins
          exact ⟨link, (hmem link).mpr (.inl hlink), rfl, hvalid⟩
        · cases hserve
          exact hsame
    | getShareLink id =>
        cases hserve
        exact hsame
    | passTime ms =>
        cases hserve
        have hlater : P.state.now + ms < link.expiresAt :=
          (show ∀ t ∈ P.threads, ∀ link ∈ P.state.links, aboutToUse t = some link.id →
            P.state.now + ms < link.expiresAt by cases request <;> exact hadmits) t ht link hlink huse
        refine ⟨link, hlink, rfl, ?_⟩
        simp only [ShareLink.valid, Bool.and_eq_true, decide_eq_true_eq] at hvalid ⊢
        exact ⟨hvalid.1, hlater⟩
  · exact hsame

theorem fits_others (hadmits : Undisturbed hashShareToken P request c) (hserve : Serves c P.state r w')
    (ht : t ∈ P.threads) (hfits : Fits hashShareToken P.state t) : Fits hashShareToken w' t := by
  obtain ⟨role, p⟩ := t
  cases role with
  | create input => exact hfits
  | revoke id => exact hfits
  | clock ms => exact hfits
  | redeem token =>
      change Standing hashShareToken P.state token p at hfits
      cases hfits with
      | starts => exact .starts
      | looks now => exact .looks now
      | ended r => exact .ended r
      | uses hlink hvalid =>
          obtain ⟨link', hlink', hid, hvalid'⟩ := valid_kept hadmits hserve ht hlink rfl hvalid
          rw [← hid]
          exact Standing.uses hlink' hvalid'

theorem valid_of_match {token : String} {now : Time}
    (hadmits : Undisturbed hashShareToken P (.redeem token) (.selectValid now))
    (hmatch : (P.state.links.rows.filter fun l => l.valid now).find?
      (fun row => sameHash (hashShareToken token) row.tokenHash) = some link) :
    link ∈ P.state.links ∧ link.valid P.state.now = true := by
  obtain ⟨hlink, hnow⟩ := List.mem_filter.mp (List.mem_of_find?_eq_some hmatch)
  have hfound := List.find?_some hmatch
  have hhash : link.tokenHash = hashShareToken token := eq_of_sameHash hfound
  simp only [ShareLink.valid, Bool.and_eq_true, decide_eq_true_eq] at hnow ⊢
  exact ⟨hlink, hnow.1, hadmits link hlink hhash hnow.2⟩

theorem Standing.call {token : String} {c : Call} {r : Except AppError c.Reply}
    {next : Except AppError c.Reply → Task (Option ShareLink)}
    (hadmits : Undisturbed hashShareToken P (.redeem token) c) (hserve : Serves c P.state r w')
    (hstanding : Standing hashShareToken P.state token (.call c next)) :
    Standing hashShareToken w' token (next r) := by
  generalize hp : (.call c next : Task (Option ShareLink)) = p at hstanding
  cases hstanding with
  | starts =>
      unfold redeemShareLink at hp
      split at hp
      · cases hp
      · cases hp
        rcases hserve with hserve | ⟨e, rfl, -⟩
        · cases hserve
          exact .looks _
        · exact .ended (.error e)
  | looks now =>
      cases hp
      rcases hserve with hserve | ⟨e, rfl, -⟩
      · cases hserve
        simp only [Prog.ofExcept, Prog.bind]
        cases hmatch : (P.state.links.rows.filter fun l => l.valid now).find? fun row =>
            sameHash (hashShareToken token) row.tokenHash with
        | none => exact .ended (.ok none)
        | some link =>
            obtain ⟨hlink, hvalid⟩ := valid_of_match hadmits hmatch
            dsimp only
            split
            · exact .uses hlink hvalid
            · exact .ended (.ok none)
      · exact .ended (.error e)
  | uses hlink hvalid =>
      cases hp
      exact .ended r
  | ended result => cases result <;> cases hp

theorem fits_call (hadmits : Undisturbed hashShareToken P request c) (hserve : Serves c P.state r w')
    (hfits : Fits hashShareToken P.state ⟨request, .call c next⟩) :
    Fits hashShareToken w' ⟨request, next r⟩ := by
  cases request with
  | create input => exact (show Only (F := calls) Spares (.call c next) from hfits).2 r
  | revoke id => exact (show Only (F := calls) Spares (.call c next) from hfits).2 r
  | clock ms => exact (show Only (F := calls) Spares (.call c next) from hfits).2 r
  | redeem token => exact Standing.call hadmits hserve hfits

theorem finish_same (request : Request) (r : Except AppError request.Result) (w : World) :
    (finish request r w).links = w.links ∧ (finish request r w).now = w.now ∧
      (finish request r w).uses = w.uses := by
  unfold finish
  split
  · exact ⟨rfl, rfl, rfl⟩
  · exact ⟨rfl, rfl, rfl⟩

theorem fits_congr (hlinks : w'.links = w.links) (hnow : w'.now = w.now)
    (hfits : Fits hashShareToken w t) : Fits hashShareToken w' t := by
  obtain ⟨role, p⟩ := t
  cases role with
  | create input => exact hfits
  | revoke id => exact hfits
  | clock ms => exact hfits
  | redeem token =>
      change Standing hashShareToken w token p at hfits
      cases hfits with
      | starts => exact .starts
      | looks now => exact .looks now
      | ended r => exact .ended r
      | uses hlink hvalid => exact Standing.uses (hlinks ▸ hlink) (hnow ▸ hvalid)

/-! ## The law -/

def Use.Lawful (use : Use) : Prop := use.link.revokedAt = none ∧ use.time < use.link.expiresAt

structure Valid (hashShareToken : String → String) (P : SharePool) : Prop where
  fits : ∀ t ∈ P.threads, Fits hashShareToken P.state t
  lawful : ∀ use ∈ P.state.uses, use.Lawful

theorem uses_of_serves (hserve : Serves c w r w') (hspares : Spares c) : w'.uses = w.uses := by
  rcases hserve with hserve | ⟨e, -, rfl⟩
  · cases c with
    | consumeUse id => exact absurd rfl (hspares id)
    | insert new =>
        simp only [answer] at hserve
        split at hserve
        · rename_i w₁ hins
          cases hserve
          obtain ⟨links, rfl, -⟩ := World.insertLink_eq_some hins
          rfl
        · cases hserve
          rfl
    | _ =>
        cases hserve
        rfl
  · rfl

theorem lawful_call (hserve : Serves c w r w') (hfits : Fits hashShareToken w ⟨request, .call c next⟩)
    (hlawful : ∀ use ∈ w.uses, use.Lawful) : ∀ use ∈ w'.uses, use.Lawful := by
  by_cases hspares : Spares c
  · rw [uses_of_serves hserve hspares]
    exact hlawful
  · cases request with
    | create input => exact absurd (show Only (F := calls) Spares (.call c next) from hfits).1 hspares
    | revoke id => exact absurd (show Only (F := calls) Spares (.call c next) from hfits).1 hspares
    | clock ms => exact absurd (show Only (F := calls) Spares (.call c next) from hfits).1 hspares
    | redeem token =>
        change Standing hashShareToken w token (.call c next) at hfits
        generalize hp : (.call c next : Task (Option ShareLink)) = p at hfits
        cases hfits with
        | starts =>
            unfold redeemShareLink at hp
            split at hp
            · cases hp
            · cases hp
              exact absurd (fun _ h => nomatch h) hspares
        | looks now =>
            cases hp
            exact absurd (fun _ h => nomatch h) hspares
        | ended result => cases result <;> cases hp
        | @uses link hlink hvalid =>
            cases hp
            rcases hserve with hserve | ⟨e, -, rfl⟩
            · cases hserve
              rcases w.consumeUse_cases link.id with hnone | ⟨used, hused, hid, -, hsome⟩
              · rw [hnone]
                exact hlawful
              · rw [hsome]
                obtain rfl := Table.eq_of_key_eq hused hlink hid
                simp only [ShareLink.valid, Bool.and_eq_true, Option.isNone_iff_eq_none,
                  decide_eq_true_eq] at hvalid
                exact List.forall_mem_cons.mpr ⟨hvalid, hlawful⟩
            · exact hlawful

theorem Valid.step (hvalid : Valid hashShareToken P)
    (hstep : PoolStep (shareRules hashShareToken (Undisturbed hashShareToken)) P P') :
    Valid hashShareToken P' := by
  constructor
  · refine forall_of_poolStep_in ?_ ?_ ?_ ?_ hvalid.fits hstep
    · rintro role c next s r s' rfl hadmits hserve hfits
      exact fits_call hadmits hserve hfits
    · rintro role c s r s' rfl hadmits hserve t ht hfits
      exact fits_others hadmits hserve ht hfits
    · rintro role result s s' successor ⟨rfl, rfl⟩
      obtain ⟨hlinks, hnow, -⟩ := finish_same role result s
      exact ⟨fun t => fits_congr hlinks hnow, fun t ht => nomatch ht⟩
    · rintro s s' newcomer ⟨rfl, request, rfl⟩
      refine ⟨fun t hfits => hfits, fun t ht => ?_⟩
      cases ht
      exact fits_prog request
  · cases hstep with
    | @call before after role c next s s' r hadmits hserve =>
        have hthread := hvalid.fits ⟨role, .call c next⟩
          (List.mem_append_right before List.mem_cons_self)
        exact lawful_call hserve hthread hvalid.lawful
    | @ends before after role result s s' successor hends =>
        obtain ⟨-, rfl⟩ := hends
        rw [(finish_same role result s).2.2]
        exact hvalid.lawful
    | turn hturn =>
        obtain ⟨rfl, -⟩ := hturn
        exact hvalid.lawful

end invariant

/-- **Revoked and expired share links.**  Whatever runs side by side, each use is consumed while
the link is neither revoked nor expired, in every run in which nothing takes a link from a
redemption. -/
theorem uses_valid (hashShareToken : String → String) (now : Time) (P : SharePool)
    (hrun : PoolRun (shareRules hashShareToken (Undisturbed hashShareToken)) (SharePool.start now)
      P) : ∀ use ∈ P.state.uses, use.link.revokedAt = none ∧ use.time < use.link.expiresAt := by
  have hstart : Valid hashShareToken (SharePool.start now) :=
    ⟨fun t ht => absurd ht List.not_mem_nil, fun use huse => absurd huse List.not_mem_nil⟩
  have hvalid : Valid hashShareToken P := by
    induction hrun with
    | refl => exact hstart
    | tail _ hstep ih => exact ih.step hstep
  exact hvalid.lawful

abbrev gentleRules : Rules calls AppError World Request.Result :=
  shareRules (fun token => token) (Undisturbed fun token => token)

theorem uses_valid_sample : sampleLink.revokedAt = none ∧ 1000 < sampleLink.expiresAt := by
  have hcreate : PoolRun gentleRules (SharePool.start 1000) ⟨sampleWorld, []⟩ := by
    have hends : gentleRules.ends (.create sampleInput) (.ok sampleLink) sampleWorld none
        sampleWorld := ⟨rfl, rfl⟩
    refine .head (.turn ⟨rfl, .create sampleInput, rfl⟩) ?_
    refine .head (.callFirst (r := .ok (1000 : Time)) trivial (.inl rfl)) ?_
    refine .head (.callFirst (r := .ok ()) trivial (.inl rfl)) ?_
    refine .head (.callFirst (r := .ok (some sampleLink)) trivial (.inl rfl)) ?_
    exact .single (.endsFirst hends)
  have hlooks : PoolRun gentleRules ⟨sampleWorld, []⟩
      ⟨sampleWorld, [⟨.redeem "token", useMatch (fun token => token) "token" 1000⟩]⟩ := by
    have hadmits : gentleRules.admits
        ⟨sampleWorld, [⟨.redeem "token", redeemShareLink (fun token => token) "token"⟩]⟩
        (.redeem "token") .dateNow := trivial
    have hserve : gentleRules.serve .dateNow sampleWorld (.ok (1000 : Time)) sampleWorld := .inl rfl
    have hstep := PoolStep.callFirst hadmits hserve
    exact .head (.turn ⟨rfl, .redeem "token", rfl⟩) (.single hstep)
  have hfinds : PoolStep gentleRules
      ⟨sampleWorld, [⟨.redeem "token", useMatch (fun token => token) "token" 1000⟩]⟩
      ⟨sampleWorld, [⟨.redeem "token", ask (.consumeUse 1)⟩]⟩ := by
    have hadmits : gentleRules.admits
        ⟨sampleWorld, [⟨.redeem "token", useMatch (fun token => token) "token" 1000⟩]⟩
        (.redeem "token") (.selectValid 1000) := fun _ _ _ h => h
    have hserve : gentleRules.serve (.selectValid 1000) sampleWorld (.ok [sampleLink]) sampleWorld :=
      .inl rfl
    exact PoolStep.callFirst hadmits hserve
  have huses : PoolRun gentleRules ⟨sampleWorld, [⟨.redeem "token", ask (.consumeUse 1)⟩]⟩
      ⟨sampleUsed, []⟩ := by
    have hends : gentleRules.ends (.redeem "token") (.ok (some sampleLink.used))
        { sampleUsed with redeemed := [] } none sampleUsed := ⟨rfl, rfl⟩
    have hserve : gentleRules.serve (.consumeUse 1) sampleWorld (.ok (some sampleLink.used))
        { sampleUsed with redeemed := [] } := .inl rfl
    exact .head (.callFirst trivial hserve) (.single (.endsFirst hends))
  exact uses_valid _ 1000 ⟨sampleUsed, []⟩ ((hcreate.trans hlooks).trans (.head hfinds huses))
    ⟨sampleLink, 1000⟩ (List.mem_singleton_self _)

def sampleRevoked : ShareLink := { sampleLink with revokedAt := some 1000 }

def sampleStolen : World :=
  ⟨1000, ⟨[sampleRevoked.used], by decide⟩, [⟨sampleRevoked, 1000⟩], [1]⟩

/-- A redemption has found its link when the link is revoked, and then uses it. -/
theorem use_after_revocation : ¬ ∀ (hashShareToken : String → String) (now : Time) (P : SharePool),
    PoolRun (shareRules hashShareToken fun _ _ _ => True) (SharePool.start now) P →
      ∀ use ∈ P.state.uses, use.link.revokedAt = none ∧ use.time < use.link.expiresAt := by
  intro hlaw
  have hlooks : drive (fun c w => some (answer c w)) 2 (redeemShareLink (fun token => token)
      "token", sampleWorld) = (ask (.consumeUse 1), sampleWorld) := by rfl
  have hrevokes : drive (fun c w => some (answer c w)) 1 (revokeShareLink 1, sampleWorld) =
      (.ofExcept (.ok true), { sampleWorld with links := ⟨[sampleRevoked], by decide⟩ }) := by rfl
  have huses : drive (fun c w => some (answer c w)) 1 (ask (.consumeUse 1),
      { sampleWorld with links := ⟨[sampleRevoked], by decide⟩ }) =
        (.ofExcept (.ok (some sampleRevoked.used)), { sampleStolen with redeemed := [] }) := by rfl
  have hredeemer := @runsFirst (fun token => token) (.redeem "token") _ _ _ _ [] 2 hlooks
  have hrevoker := @endsFirst (fun token => token) (.revoke 1) _ _ _ (.ok true)
    [⟨.redeem "token", ask (.consumeUse 1)⟩] 1 hrevokes
  have hstolen := @endsFirst (fun token => token) (.redeem "token") _ _ _
    (.ok (some sampleRevoked.used)) [] 1 huses
  have hrun : PoolRun (freeRules fun token => token) (SharePool.start 1000) ⟨sampleStolen, []⟩ :=
    sampleWorld_reached.trans <|
      (Relation.ReflTransGen.head (startsFirst _ (.redeem "token") sampleWorld []) hredeemer).trans <|
        .head (startsFirst _ (.revoke 1) sampleWorld _) (hrevoker.trans hstolen)
  have hlawful := hlaw (fun token => token) 1000 ⟨sampleStolen, []⟩ hrun ⟨sampleRevoked, 1000⟩
    List.mem_cons_self
  exact absurd hlawful.1 (by decide)

end ProxVM.Shares
