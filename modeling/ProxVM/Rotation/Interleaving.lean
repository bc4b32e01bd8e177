import ProxVM.Lib.Pool
import ProxVM.Rotation.Agreement

/-!
# Rotations side by side

Any number of rotations of one VM run at the same time.  A rotation reads the stored
credential before it wins the claim, so it may work with a row that another one has
replaced meanwhile.  The claim keeps the rest apart: a rotation that has it changes the
vault and the guest alone, and one that does not have it changes nothing.
-/

namespace ProxVM.Rotation

open Interaction Context

variable {S : Setting} {vmId : VmId} {opts : RotationOptions} {actor : RotationActor} {plan : Plan}
  {row : VmCredentialRow} {w w' : World} {log : RotationLog}

/-! ## The positions of a rotation -/

def UpToDate (S : Setting) (vmId : VmId) (w : World) : Prop :=
  ∀ row, w.vault vmId = some row → ∃ password,
    S.decrypt row.passwordCiphertext = .ok password ∧ w.lastApplied = some password

structure Setting.Sound (S : Setting) : Prop where
  faithful : S.faithful = true
  vaultUp : S.vaultUp = true
  rollbacksLand : S.rollbacksLand = true

def RotationCall.quiet : RotationCall → Bool
  | .vmsRequireById _ => true
  | .credsFindByVm _ => true
  | .generatePassword => true
  | c => c.closing

def Entry.wins : Entry → Bool
  | ⟨.credsTryClaimRotation _, .ok true⟩ => true
  | _ => false

def Holding (S : Setting) (vmId : VmId) (w : World) (p : RotationTask RotationResult) : Prop :=
  w.statusOf vmId = some .rotating ∧ ∃ log, (claimed S vmId).holds p (fun _ s =>
    UpToDate S vmId s.1 ∧ s.1.statusOf vmId ≠ some .rotating) (w, log)

def Outside (S : Setting) (vmId : VmId) : RotationTask RotationResult → Prop
  | .ret _ => True
  | .raise _ => True
  | .call c next => (c.quiet = true ∨ c = .credsTryClaimRotation vmId) ∧ ∀ r,
      (Entry.wins ⟨c, r⟩ = false → Outside S vmId (next r)) ∧
      (Entry.wins ⟨c, r⟩ = true → ∀ w row, Claimed vmId row w → UpToDate S vmId w →
        Holding S vmId w (next r))

theorem serves_of_closing {c : RotationCall} (hclosing : c.closing = true)
    (r : Except Failure c.Reply) : Serves S c w r w := by
  cases c <;> first | exact rfl | exact absurd hclosing Bool.false_ne_true

theorem wins_of_closing {c : RotationCall} (hclosing : c.closing = true)
    (r : Except Failure c.Reply) : Entry.wins ⟨c, r⟩ = false := by
  cases c <;> first | rfl | exact absurd hclosing Bool.false_ne_true

theorem quiet_of_closing {c : RotationCall} (hclosing : c.closing = true) : c.quiet = true := by
  cases c <;> first | rfl | exact absurd hclosing Bool.false_ne_true

theorem wins_of_quiet {c : RotationCall} (hquiet : c.quiet = true) (r : Except Failure c.Reply) :
    Entry.wins ⟨c, r⟩ = false := by
  cases c <;> first | rfl | exact absurd hquiet Bool.false_ne_true

theorem same_of_quiet {c : RotationCall} {r : Except Failure c.Reply} (hquiet : c.quiet = true)
    (hserve : Serves S c w r w') : w' = w := by
  cases c <;>
    first | exact hserve | exact hserve.1 | exact absurd hquiet Bool.false_ne_true

theorem outside_of_holds {p : RotationTask RotationResult}
    (hfree : w.statusOf vmId ≠ some .rotating) (hp : (claimed S vmId).holds p (fun _ s =>
      UpToDate S vmId s.1 ∧ s.1.statusOf vmId ≠ some .rotating) (w, log)) :
    Outside S vmId p ∧ UpToDate S vmId w := by
  induction p generalizing log with
  | ret a => exact ⟨trivial, hp.1⟩
  | raise e => exact ⟨trivial, hp.1⟩
  | call c next ih =>
      obtain ⟨hguarantee, hnext⟩ := holds_aloneOwing_call.mp hp
      have hclosing : c.closing = true := hguarantee hfree
      have hrest : ∀ r, Outside S vmId (next r) ∧ UpToDate S vmId w := fun r =>
        ih r (forall_logging.mp hnext r w (serves_of_closing hclosing r))
      refine ⟨⟨.inl (quiet_of_closing hclosing), fun r => ⟨fun _ => (hrest r).1, fun hwins => ?_⟩⟩,
        (hrest (.error unavailable)).2⟩
      rw [wins_of_closing hclosing] at hwins
      exact absurd hwins Bool.false_ne_true

/-! ## A rotation takes these positions -/

def anyReply : Service rotationCalls Failure Unit := fun _ _ _ _ => True

theorem outside_bind {α : Type} {p : RotationTask α} {f : α → RotationTask RotationResult}
    (hp : (aloneOwing anyReply fun c _ => c.quiet = true).holds p
      (fun r _ => ∀ a, r = .ok a → Outside S vmId (f a)) ()) : Outside S vmId (p >>= f) := by
  change Outside S vmId (p.bind f)
  induction p with
  | ret a => exact hp a rfl
  | raise e => trivial
  | call c next ih =>
      obtain ⟨hquiet, hnext⟩ := holds_aloneOwing_call.mp hp
      refine ⟨.inl hquiet, fun r => ⟨fun _ => ih r (hnext r () trivial), fun hwins => ?_⟩⟩
      rw [wins_of_quiet hquiet] at hwins
      exact absurd hwins Bool.false_ne_true

theorem holds_prepare_any {decrypt : String → Except Failure String} (hforce : opts.force = false) :
    (aloneOwing anyReply fun c _ => c.quiet = true).holds (prepare decrypt vmId opts)
      (fun r _ => ∀ plan, r = .ok plan → plan.existing.status ≠ .rotating) () := by
  have herror : ∀ {e : Failure} {plan : Plan}, (Except.error e : Except Failure Plan) = .ok plan →
      plan.existing.status ≠ .rotating := fun h => by cases h
  unfold prepare
  refine holds_aloneOwing_bind.mpr ⟨rfl, fun vm _ _ => ?_, fun e _ _ _ => herror⟩
  refine holds_aloneOwing_bind.mpr ⟨rfl, fun found _ _ => ?_, fun e _ _ _ => herror⟩
  refine holds_bind.mpr (holds_orRaise.mpr ⟨fun row _ => ?_, fun _ _ => herror⟩)
  refine holds_bind.mpr (holds_orRaise.mpr ⟨fun host _ => ?_, fun _ _ => herror⟩)
  refine holds_ite.mpr ⟨fun _ _ => herror, fun _ => ?_⟩
  refine holds_bind.mpr (holds_ofExcept.mpr ?_)
  have hlast : ∀ {s : Unit} {oldPassword newPassword : String},
      (aloneOwing anyReply fun c _ => c.quiet = true).holds
        (if row.status = .rotating ∧ ¬ opts.force then
          throwRotation rotationInProgress
        else
          pure ⟨vm, host, row, opts.username.getD row.username, oldPassword, newPassword⟩ :
            RotationTask Plan)
        (fun r _ => ∀ plan : Plan, r = .ok plan → plan.existing.status ≠ .rotating) s := by
    intro s oldPassword newPassword
    refine holds_ite.mpr ⟨fun _ _ => herror, fun hfree plan hplan hrotating => ?_⟩
    cases hplan
    refine hfree ⟨hrotating, ?_⟩
    rw [hforce]
    exact Bool.false_ne_true
  cases decrypt row.passwordCiphertext with
  | error e => exact fun _ => herror
  | ok oldPassword =>
      cases opts.newPassword with
      | some password => exact hlast
      | none => exact holds_aloneOwing_bind.mpr ⟨rfl, fun _ _ _ => hlast, fun _ _ _ _ => herror⟩

theorem upToDate_of_outcome (hS : S.Sound) (hbefore : UpToDate S vmId w)
    (hclaimed : Claimed vmId row w) (hfree : plan.existing.status ≠ .rotating)
    (houtcome : Outcome S vmId plan w row w' log) :
    UpToDate S vmId w' ∧ w'.statusOf vmId ≠ some .rotating := by
  have hwritten : ∀ {row' : VmCredentialRow} {password : String}, w'.vault vmId = some row' →
      S.decrypt row'.passwordCiphertext = .ok password → w'.lastApplied = some password →
      row'.status ≠ .rotating → UpToDate S vmId w' ∧ w'.statusOf vmId ≠ some .rotating := by
    intro row' password hrow' hcipher hlast hstatus
    refine ⟨fun row₁ hrow₁ => ?_, ?_⟩
    · obtain rfl := Option.some.inj (hrow₁.symm.trans hrow')
      exact ⟨password, hcipher, hlast⟩
    · rw [World.statusOf_of_row hrow']
      exact fun h => hstatus (Option.some.inj h)
  cases houtcome with
  | stuck hrow hrotating hrefused haudit hdown =>
      rw [hS.vaultUp] at hdown
      cases hdown
  | restored n hrow hguest hreported hquiet hfaithful =>
      obtain ⟨password, hpassword, hlast⟩ := hbefore row hclaimed.found
      refine hwritten hrow hpassword ?_ hfree
      unfold World.lastApplied
      rw [hguest, hfaithful hS.faithful]
      exact hlast
  | rolledBack restored ciphertext hcipher hrow hothers hguest hseen hlast hreported hquiet =>
      refine hwritten hrow hcipher (hlast hS.faithful hS.rollbacksLand) ?_
      cases restored with
      | true => exact fun h => by cases h
      | false => exact fun h => by cases h
  | stored verified ciphertext hcipher hrow hguest hseen hlast hreported hquiet =>
      refine hwritten hrow hcipher (hlast hS.faithful) ?_
      cases verified with
      | true => exact fun h => by cases h
      | false => exact fun h => by cases h

theorem holding_carryOut (hS : S.Sound) (hbefore : UpToDate S vmId w) (hclaimed : Claimed vmId row w)
    (hfree : plan.existing.status ≠ .rotating) : Holding S vmId w (carryOut vmId opts actor plan) := by
  refine ⟨hclaimed.statusOf, [], ?_⟩
  refine holds_mono (holds_carryOut hclaimed ⟨rfl, rfl, rfl⟩ rfl) fun _ _ houtcome => ?_
  exact upToDate_of_outcome hS hbefore hclaimed hfree houtcome

theorem outside_rotateVmCredential (hS : S.Sound) (hforce : opts.force = false) :
    Outside S vmId (rotateVmCredential S.decrypt vmId opts actor) := by
  unfold rotateVmCredential
  refine outside_bind (holds_mono (holds_prepare_any hforce) fun r _ hr plan hplan => ?_)
  have hfree := hr plan hplan
  refine ⟨.inr rfl, fun r => ⟨fun hwins => ?_, fun hwins w row hclaimed hbefore => ?_⟩⟩
  · obtain e | won := r
    · trivial
    · cases won with
      | true => exact absurd hwins.symm Bool.false_ne_true
      | false =>
          rw [hforce]
          trivial
  · obtain e | won := r
    · cases hwins
    · cases won with
      | true => exact holding_carryOut hS hbefore hclaimed hfree
      | false => cases hwins

/-! ## Runs -/

def rotationRules (S : Setting) (vmId : VmId) :
    Rules rotationCalls Failure World fun _ : Unit => RotationResult where
  serve := Serves S
  admits := fun _ _ _ => True
  ends := fun _ _ w successor w' => successor = none ∧ w' = w
  turn := fun w newcomer w' => w' = w ∧ ∃ opts actor, opts.force = false ∧
    newcomer = some ⟨(), rotateVmCredential S.decrypt vmId opts actor⟩

abbrev RotationPool := Pool rotationCalls Failure World fun _ : Unit => RotationResult

def OneAtATime (S : Setting) (vmId : VmId) (P : RotationPool) : Prop :=
  ((∀ t ∈ P.threads, Outside S vmId t.prog) ∧ UpToDate S vmId P.state) ∨
    Single (fun t => Holding S vmId P.state t.prog) (fun t => Outside S vmId t.prog) P.threads

theorem claim_of_wins {r : Except Failure Bool} (hserve : Serves S (.credsTryClaimRotation vmId) w r w')
    (hwins : Entry.wins ⟨.credsTryClaimRotation vmId, r⟩ = true) :
    ∃ row, w.vault vmId = some row ∧ row.status ≠ .rotating ∧ w' = w.claim vmId := by
  obtain ⟨rfl, rfl⟩ | ⟨-, -, e, rfl⟩ := hserve
  · have hclaimable : w.vault.claimable vmId = true := by
      cases h : w.vault.claimable vmId with
      | true => rfl
      | false =>
          have hfirst : (w.vault.tryClaimRotation vmId).1 = false := h
          rw [hfirst] at hwins
          cases hwins
    obtain ⟨row, hrow, hstatus⟩ := Vault.claimable_eq_true.mp hclaimable
    refine ⟨row, hrow, hstatus, ?_⟩
    have hvault : (w.vault.tryClaimRotation vmId).2 = w.vault.setStatus vmId .rotating :=
      if_pos hclaimable
    rw [hvault]
    rfl
  · cases hwins

theorem same_of_outside {c : RotationCall} {r : Except Failure c.Reply}
    (hcall : c.quiet = true ∨ c = .credsTryClaimRotation vmId) (hserve : Serves S c w r w')
    (hwins : Entry.wins ⟨c, r⟩ = false) : w' = w := by
  obtain hquiet | rfl := hcall
  · exact same_of_quiet hquiet hserve
  · obtain ⟨rfl, rfl⟩ | ⟨-, hw', -⟩ := hserve
    · have hclaimable : w.vault.claimable vmId = false := by
        cases h : w.vault.claimable vmId with
        | false => rfl
        | true =>
            have hfirst : (w.vault.tryClaimRotation vmId).1 = true := h
            rw [hfirst] at hwins
            cases hwins
      have hvault : (w.vault.tryClaimRotation vmId).2 = w.vault := by
        unfold Vault.tryClaimRotation
        rw [hclaimable]
        rfl
      rw [hvault]
    · exact hw'

theorem upToDate_claim (hbefore : UpToDate S vmId w) : UpToDate S vmId (w.claim vmId) := by
  intro row' hrow'
  have hset : w.vault.setStatus vmId .rotating vmId = some row' := hrow'
  rw [Vault.setStatus_self] at hset
  obtain ⟨row, hrow, rfl⟩ := Option.map_eq_some_iff.mp hset
  exact hbefore row hrow

section step

variable {before after : List (Thread rotationCalls Failure fun _ : Unit => RotationResult)} {role : Unit}
  {c : RotationCall} {next : Except Failure c.Reply → RotationTask RotationResult}
  {r : Except Failure c.Reply}

theorem oneAtATime_of_free
    (hall : ∀ t ∈ before ++ (⟨role, .call c next⟩ : Thread _ _ _) :: after, Outside S vmId t.prog)
    (hbefore : UpToDate S vmId w) (hserve : Serves S c w r w') :
    OneAtATime S vmId ⟨w', before ++ ⟨role, next r⟩ :: after⟩ := by
  rw [List.forall_mem_append, List.forall_mem_cons] at hall
  obtain ⟨hfirst, ⟨hcall, hnext⟩, hlast⟩ := hall
  cases hwins : Entry.wins ⟨c, r⟩ with
  | false =>
      rw [same_of_outside hcall hserve hwins]
      refine .inl ⟨?_, hbefore⟩
      rw [List.forall_mem_append, List.forall_mem_cons]
      exact ⟨hfirst, (hnext r).1 hwins, hlast⟩
  | true =>
      obtain hquiet | rfl := hcall
      · rw [wins_of_quiet hquiet] at hwins
        cases hwins
      · obtain ⟨row, hrow, -, rfl⟩ := claim_of_wins hserve hwins
        refine .inr (single_of ?_ ?_)
        · exact (hnext r).2 hwins _ _ (claimed_claim hrow) (upToDate_claim hbefore)
        · exact List.forall_mem_append.mpr ⟨hfirst, hlast⟩

theorem oneAtATime_of_busy (ht : Outside S vmId (.call c next)) (hserve : Serves S c w r w')
    (hothers : Single (fun t => Holding S vmId w t.prog) (fun t => Outside S vmId t.prog)
      (before ++ after)) : OneAtATime S vmId ⟨w', before ++ ⟨role, next r⟩ :: after⟩ := by
  obtain ⟨hcall, hnext⟩ := ht
  have hrotating : w.statusOf vmId = some .rotating := by
    obtain ⟨t, rest, -, hholding, -⟩ := hothers
    exact hholding.1
  have hwins : Entry.wins ⟨c, r⟩ = false := by
    by_contra hne
    have hwon : Entry.wins ⟨c, r⟩ = true := by simpa using hne
    obtain hquiet | rfl := hcall
    · exact hne (wins_of_quiet hquiet r)
    · obtain ⟨row, hrow, hstatus, -⟩ := claim_of_wins hserve hwon
      rw [World.statusOf_of_row hrow] at hrotating
      exact hstatus (Option.some.inj hrotating)
  rw [same_of_outside hcall hserve hwins]
  exact .inr (hothers.insert ((hnext r).1 hwins))

theorem oneAtATime_of_holding (ht : Holding S vmId w (.call c next)) (hserve : Serves S c w r w')
    (hothers : ∀ t ∈ before ++ after, Outside S vmId t.prog) :
    OneAtATime S vmId ⟨w', before ++ ⟨role, next r⟩ :: after⟩ := by
  obtain ⟨-, log, hp⟩ := ht
  have hnext := forall_logging.mp (holds_aloneOwing_call.mp hp).2 r w' hserve
  by_cases hrotating : w'.statusOf vmId = some .rotating
  · exact .inr (single_of ⟨hrotating, _, hnext⟩ hothers)
  · obtain ⟨houtside, hafter⟩ := outside_of_holds hrotating hnext
    rw [List.forall_mem_append] at hothers
    refine .inl ⟨?_, hafter⟩
    rw [List.forall_mem_append, List.forall_mem_cons]
    exact ⟨hothers.1, houtside, hothers.2⟩

end step

theorem OneAtATime.step {P P' : RotationPool} (hS : S.Sound) (hinv : OneAtATime S vmId P)
    (hstep : PoolStep (rotationRules S vmId) P P') : OneAtATime S vmId P' := by
  cases hstep with
  | call hadmits hserve =>
      obtain ⟨hall, hbefore⟩ | hsingle := hinv
      · exact oneAtATime_of_free hall hbefore hserve
      · obtain ⟨hholding, hothers⟩ | ⟨houtside, hothers⟩ := hsingle.split
        · exact oneAtATime_of_holding hholding hserve hothers
        · exact oneAtATime_of_busy houtside hserve hothers
  | ends hends =>
      obtain ⟨rfl, rfl⟩ := hends
      obtain ⟨hall, hbefore⟩ | hsingle := hinv
      · rw [List.forall_mem_append, List.forall_mem_cons] at hall
        exact .inl ⟨List.forall_mem_append.mpr ⟨hall.1, hall.2.2⟩, hbefore⟩
      · obtain ⟨⟨hrotating, log, hp⟩, hothers⟩ | ⟨-, hothers⟩ := hsingle.split
        · exact absurd hrotating (holds_ofExcept.mp hp).2
        · exact .inr hothers
  | turn hturn =>
      obtain ⟨rfl, opts, actor, hforce, rfl⟩ := hturn
      have hnew : Outside S vmId (rotateVmCredential S.decrypt vmId opts actor) :=
        outside_rotateVmCredential hS hforce
      obtain ⟨hall, hbefore⟩ | hsingle := hinv
      · exact .inl ⟨List.forall_mem_cons.mpr ⟨hnew, hall⟩, hbefore⟩
      · exact .inr (hsingle.cons hnew)

theorem OneAtATime.run {P P' : RotationPool} (hS : S.Sound) (hinv : OneAtATime S vmId P)
    (hrun : PoolRun (rotationRules S vmId) P P') : OneAtATime S vmId P' := by
  induction hrun with
  | refl => exact hinv
  | tail _ hstep ih => exact ih.step hS hstep

/-- Once all rotations have ended, the stored password is the one that was set on the
guest last. -/
theorem stored_eq_lastApplied (hS : S.Sound) (hbefore : UpToDate S vmId w)
    (hrun : PoolRun (rotationRules S vmId) ⟨w, []⟩ ⟨w', []⟩) : UpToDate S vmId w' := by
  have hstart : OneAtATime S vmId ⟨w, []⟩ := .inl ⟨fun t ht => absurd ht List.not_mem_nil, hbefore⟩
  obtain ⟨-, hafter⟩ | ⟨t, rest, hperm, -, -⟩ := hstart.run hS hrun
  · exact hafter
  · exact absurd hperm.symm.eq_nil (List.cons_ne_nil t rest)

/-! ## What the promises are for -/

def promising (vaultUp rollbacksLand : Bool) : Setting :=
  { decrypt := sampleDecrypt, faithful := true, vaultUp, rollbacksLand }

def agentOnly (refuses : RotationCall → Bool) : Behaviour where
  ssh := (false, ⟨false, "connection refused", none⟩)
  agent := (true, .ok ⟨some 0, ""⟩)
  reachable := false
  refuses

def RotationCall.updatesRow : RotationCall → Bool
  | .credsUpdateRow _ _ _ _ => true
  | _ => false

def promisingRun (S : Setting) (b : Behaviour) (opts : RotationOptions) :
    RotationTask RotationResult × World :=
  drive (World.play S sampleSeal b) 24 (rotateVmCredential S.decrypt 30 opts sampleActor,
    sampleWorld .verified)

theorem upToDate_sampleWorld {S : Setting} (hS : S.decrypt = sampleDecrypt) :
    UpToDate S 30 (sampleWorld .verified) := by
  intro row hrow
  obtain rfl : sampleCredential .verified = row := Option.some.inj hrow
  have hopen : sampleDecrypt "v1:old" = .ok "old" := by decide +kernel
  refine ⟨"old", ?_, rfl⟩
  rw [hS]
  exact hopen

theorem poolRun_promisingRun {S : Setting} {b : Behaviour} (hforce : opts.force = false)
    (hresult : (promisingRun S b opts).1.result?.isSome = true) :
    PoolRun (rotationRules S 30) ⟨sampleWorld .verified, []⟩ ⟨(promisingRun S b opts).2, []⟩ := by
  obtain ⟨result, hresult⟩ := Option.isSome_iff_exists.mp hresult
  have hturn : (rotationRules S 30).turn (sampleWorld .verified)
      (some ⟨(), rotateVmCredential S.decrypt 30 opts sampleActor⟩) (sampleWorld .verified) :=
    ⟨rfl, opts, sampleActor, hforce, rfl⟩
  have harrives : PoolRun (rotationRules S 30) ⟨sampleWorld .verified, []⟩
      ⟨sampleWorld .verified, [⟨(), rotateVmCredential S.decrypt 30 opts sampleActor⟩]⟩ :=
    .single (.turn hturn)
  exact harrives.trans (poolRun_to_end (R := rotationRules S 30) (fun _ _ _ => trivial) (fun _ _ _ _ => serves_play) 24 ()
    _ _ hresult ⟨rfl, rfl⟩)

theorem stored_eq_lastApplied_agent : UpToDate (promising true true) 30
      (promisingRun (promising true true) (agentOnly fun _ => false)
        { sampleOptions with verify := some false }).2 :=
  stored_eq_lastApplied ⟨rfl, rfl, rfl⟩ (upToDate_sampleWorld rfl)
    (poolRun_promisingRun rfl (by decide +kernel))

theorem not_upToDate_of_new (status : CredStatus) {S : Setting} (hS : S.decrypt = sampleDecrypt)
    (hrow : w.vault 30 = some (sampleCredential status)) (hlast : w.lastApplied = some "new") :
    ¬ UpToDate S 30 w := by
  intro hafter
  obtain ⟨password, hpassword, happlied⟩ := hafter _ hrow
  obtain rfl : "new" = password := Option.some.inj (hlast.symm.trans happlied)
  have hopen : sampleDecrypt "v1:old" ≠ .ok "new" := by decide +kernel
  rw [hS] at hpassword
  exact hopen hpassword

/-- Without the promise about rollbacks, and without the promise about the vault, one
rotation over a guest that reports faithfully loses the password it applied. -/
theorem not_stored_eq_lastApplied :
    (¬ ∀ (S : Setting) (vmId : VmId) (w w' : World), S.faithful = true → S.vaultUp = true →
        UpToDate S vmId w → PoolRun (rotationRules S vmId) ⟨w, []⟩ ⟨w', []⟩ → UpToDate S vmId w') ∧
      ¬ ∀ (S : Setting) (vmId : VmId) (w w' : World), S.faithful = true → S.rollbacksLand = true →
        UpToDate S vmId w → PoolRun (rotationRules S vmId) ⟨w, []⟩ ⟨w', []⟩ → UpToDate S vmId w' := by
  constructor
  · intro hall
    have hresult : (promisingRun (promising true false) (agentOnly fun _ => false)
        sampleOptions).1.result?.isSome = true := by decide +kernel
    refine not_upToDate_of_new .failed rfl ?_ ?_ (hall (promising true false) 30 _ _ rfl
      rfl (upToDate_sampleWorld rfl) (poolRun_promisingRun rfl hresult))
    · decide +kernel
    · decide +kernel
  · intro hall
    have hresult : (promisingRun (promising false true) (agentOnly RotationCall.updatesRow)
        { sampleOptions with verify := some false }).1.result?.isSome = true := by decide +kernel
    refine not_upToDate_of_new .rotating rfl ?_ ?_ (hall (promising false true) 30 _ _ rfl
      rfl (upToDate_sampleWorld rfl) (poolRun_promisingRun rfl hresult))
    · decide +kernel
    · decide +kernel

end ProxVM.Rotation
