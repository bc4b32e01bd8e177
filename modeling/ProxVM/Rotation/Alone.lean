import ProxVM.Rotation.Outcome

/-!
# A rotation that runs alone

`prepare` reads the row and changes nothing, `claim` sets it to `ROTATING`, and what
comes under the claim ends in one of the ways of `Outcome`.  `rotate_ends` puts the
three together.
-/

namespace ProxVM.Rotation

open Interaction Context

variable {S : Setting} {vmId : VmId} {opts : RotationOptions} {actor : RotationActor} {plan : Plan}
  {row : VmCredentialRow} {w w' : World} {log : RotationLog}

def Entry.claims : Entry → Bool
  | ⟨.credsTryClaimRotation _, .ok true⟩ => true
  | ⟨.credsSetStatus _ .rotating, .ok _⟩ => true
  | _ => false

def taken (log : RotationLog) : Bool := log.any Entry.claims

/-- The plan of a rotation that has read `row`. -/
structure Fits (S : Setting) (opts : RotationOptions) (row : VmCredentialRow) (plan : Plan) : Prop where
  existing : plan.existing = row
  username : plan.username = opts.username.getD row.username
  password : S.decrypt row.passwordCiphertext = .ok plan.oldPassword
  free : row.status = .rotating → opts.force = true

structure Idle (log : RotationLog) : Prop where
  taken : taken log = false
  reported : reported log = false

def Prepared (S : Setting) (vmId : VmId) (opts : RotationOptions) (w : World)
    (r : Except Failure Plan) (s : World × RotationLog) : Prop :=
  s.1 = w ∧ Idle s.2 ∧ ∀ plan, r = .ok plan →
    Quiet s.2 ∧ ∃ row, w.vault vmId = some row ∧ Fits S opts row plan

theorem Prepared.of_error (hidle : Idle log) {e : Failure} : Prepared S vmId opts w (.error e) (w, log) :=
  ⟨rfl, hidle, fun _ h => by cases h⟩

theorem holds_checkFree {vm : VmRow} {host newPassword oldPassword : String}
    (hrow : w.vault vmId = some row) (hpassword : S.decrypt row.passwordCiphertext = .ok oldPassword)
    (hidle : Idle log) (hquiet : Quiet log) : (alone (logging (Serves S))).holds
      (if row.status = .rotating ∧ ¬ opts.force then throwRotation rotationInProgress else
        pure ⟨vm, host, row, opts.username.getD row.username, oldPassword, newPassword⟩)
      (Prepared S vmId opts w) (w, log) := by
  refine holds_ite.mpr ⟨fun _ => .of_error hidle, fun hfree => ⟨rfl, hidle, ?_⟩⟩
  rintro plan hplan
  cases hplan
  refine ⟨hquiet, row, hrow, rfl, rfl, hpassword, fun hrotating => ?_⟩
  by_contra hforce
  exact hfree ⟨hrotating, hforce⟩

theorem holds_prepare : (alone (logging (Serves S))).holds (prepare S.decrypt vmId opts)
    (Prepared S vmId opts w) (w, []) := by
  unfold prepare
  refine holds_askRotation_bind.mpr ⟨trivial, ?_, ?_⟩
  · rintro vm w₁ ⟨hw₁, -⟩
    subst w₁
    refine holds_askRotation_bind.mpr ⟨trivial, ?_, ?_⟩
    · rintro found w₂ ⟨hw₂, hfind⟩
      subst w₂
      have hfound : found = w.vault vmId := by
        obtain h | ⟨-, e, h⟩ := hfind
        · exact Except.ok.inj h
        · cases h
      refine holds_bind.mpr (holds_orRaise.mpr ⟨fun row hrow => ?_, fun _ => .of_error ⟨rfl, rfl⟩⟩)
      have hstored : w.vault vmId = some row := hfound.symm.trans hrow
      refine holds_bind.mpr (holds_orRaise.mpr ⟨fun host _ => ?_, fun _ => .of_error ⟨rfl, rfl⟩⟩)
      refine holds_ite.mpr ⟨fun _ => .of_error ⟨rfl, rfl⟩, fun _ => ?_⟩
      refine holds_bind.mpr (holds_ofExcept.mpr ?_)
      cases hpassword : S.decrypt row.passwordCiphertext with
      | error e => exact .of_error ⟨rfl, rfl⟩
      | ok oldPassword =>
          cases opts.newPassword with
          | some password => exact holds_checkFree hstored hpassword ⟨rfl, rfl⟩ ⟨rfl, rfl, rfl⟩
          | none =>
              refine holds_askRotation_bind.mpr ⟨trivial, ?_, ?_⟩
              · rintro password w₃ hw₃
                obtain rfl : w₃ = w := hw₃
                exact holds_checkFree hstored hpassword ⟨rfl, rfl⟩ ⟨rfl, rfl, rfl⟩
              · rintro e w₃ hw₃
                obtain rfl : w₃ = w := hw₃
                exact .of_error ⟨rfl, rfl⟩
    · rintro e w₂ ⟨hw₂, -⟩
      subst w₂
      exact .of_error ⟨rfl, rfl⟩
  · rintro e w₁ ⟨hw₁, -⟩
    subst w₁
    exact .of_error ⟨rfl, rfl⟩

def World.claim (w : World) (vmId : VmId) : World :=
  { w with vault := w.vault.setStatus vmId .rotating }

theorem claimed_claim (hrow : w.vault vmId = some row) :
    Claimed vmId { row with status := .rotating } (w.claim vmId) := by
  refine ⟨?_, rfl⟩
  have hset : w.vault.setStatus vmId .rotating vmId = some { row with status := .rotating } := by
    rw [Vault.setStatus_self, hrow]
    rfl
  exact hset

def ClaimEnd (vmId : VmId) (row : VmCredentialRow) (w : World) (r : Except Failure Unit)
    (s : World × RotationLog) : Prop :=
  reported s.2 = false ∧
    match r with
    | .ok _ => s.1 = w.claim vmId ∧ Quiet s.2
    | .error _ => (s.1 = w ∧ taken s.2 = false) ∨
        (s.1 = w.claim vmId ∧ row.status = .rotating ∧ auditRefused s.2 = true)

theorem holds_claim (hrow : w.vault vmId = some row) (hidle : Idle log) (hquiet : Quiet log) :
    (alone (logging (Serves S))).holds (claim vmId opts.force actor) (ClaimEnd vmId row w) (w, log) := by
  unfold claim
  refine holds_askRotation_bind.mpr ⟨trivial, ?_, ?_⟩
  · rintro won w₁ (⟨hwon, hw₁⟩ | ⟨-, -, e, he⟩)
    · have hclaimable : won = w.vault.claimable vmId := Except.ok.inj hwon
      subst w₁
      refine holds_ite.mpr ⟨fun htrue => ?_, fun hfalse => ?_⟩
      · have hvault : (w.vault.tryClaimRotation vmId).2 = w.vault.setStatus vmId .rotating :=
          if_pos (hclaimable.symm.trans htrue)
        refine ⟨hidle.reported, ?_, hquiet.cons ⟨rfl, rfl, rfl⟩⟩
        rw [hvault]
        rfl
      · have hnot : w.vault.claimable vmId = false := by
          rw [← hclaimable]
          exact Bool.eq_false_iff.mpr hfalse
        have hvault : (w.vault.tryClaimRotation vmId).2 = w.vault := by
          unfold Vault.tryClaimRotation
          rw [hnot]
          rfl
        have hrotating : row.status = .rotating := by
          by_contra hne
          have htrue := Vault.claimable_eq_true.mpr ⟨row, hrow, hne⟩
          rw [hnot] at htrue
          exact Bool.false_ne_true htrue
        obtain rfl : won = false := Bool.eq_false_iff.mpr hfalse
        rw [hvault]
        have hidle₁ : Idle (⟨.credsTryClaimRotation vmId, .ok false⟩ :: log) :=
          ⟨hidle.taken, hidle.reported⟩
        have hquiet₁ : Quiet (⟨.credsTryClaimRotation vmId, .ok false⟩ :: log) :=
          hquiet.cons ⟨rfl, rfl, rfl⟩
        refine holds_ite.mpr ⟨fun _ => ?_, fun _ => ⟨hidle.reported, .inl ⟨rfl, hidle₁.taken⟩⟩⟩
        refine holds_askRotation_bind.mpr ⟨trivial, ?_, ?_⟩
        · rintro _ w₂ (⟨-, hw₂⟩ | ⟨-, -, e, he⟩)
          · subst w₂
            refine holds_askRotation.mpr ⟨trivial, ?_⟩
            rintro (e | a) w₃ hw₃
            · obtain rfl : w₃ = World.claim w vmId := hw₃
              exact ⟨hidle.reported, .inr ⟨rfl, hrotating, rfl⟩⟩
            · obtain rfl : w₃ = World.claim w vmId := hw₃
              exact ⟨hidle.reported, rfl, (hquiet₁.cons ⟨rfl, rfl, rfl⟩).cons ⟨rfl, rfl, rfl⟩⟩
          · cases he
        · rintro e w₂ (⟨he, -⟩ | ⟨-, hw₂, -⟩)
          · cases he
          · subst w₂
            exact ⟨hidle.reported, .inl ⟨rfl, hidle₁.taken⟩⟩
    · cases he
  · rintro e w₁ (⟨he, -⟩ | ⟨-, hw₁, -⟩)
    · cases he
    · subst w₁
      exact ⟨hidle.reported, .inl ⟨rfl, hidle.taken⟩⟩

inductive AloneEnd (S : Setting) (vmId : VmId) (opts : RotationOptions) (w : World) :
    World → RotationLog → Prop
  /-- It never had the claim. -/
  | refused {log : RotationLog} (hidle : Idle log) : AloneEnd S vmId opts w w log
  /-- The audit row of the forced claim was refused. -/
  | unaudited {log : RotationLog} {row : VmCredentialRow} (hrow : w.vault vmId = some row)
      (hrotating : row.status = .rotating) (haudit : auditRefused log = true)
      (hreported : reported log = false) : AloneEnd S vmId opts w (w.claim vmId) log
  | carriedOut {w' : World} {log : RotationLog} {row : VmCredentialRow} {plan : Plan}
      (hrow : w.vault vmId = some row) (hfits : Fits S opts row plan)
      (houtcome : Outcome S vmId plan (w.claim vmId) { row with status := .rotating } w' log) :
      AloneEnd S vmId opts w w' log

theorem rotate_ends {r : Except Failure RotationResult}
    (hends : Ends (logging (Serves S)) (rotateVmCredential S.decrypt vmId opts actor) (w, []) r (w', log)) :
    AloneEnd S vmId opts w w' log := by
  obtain ⟨plan, ⟨w₁, log₁⟩, hprepare, hrest⟩ | ⟨e, -, hprepare⟩ := hends.of_bind
  · obtain ⟨hw₁, hidle, hplan⟩ := hprepare.sound holds_prepare
    obtain rfl : w₁ = w := hw₁
    obtain ⟨hquiet, row, hrow, hfits⟩ := hplan plan rfl
    obtain ⟨a, ⟨w₂, log₂⟩, hclaim, hcarry⟩ | ⟨e, -, hclaim⟩ := hrest.of_bind
    · obtain ⟨hreported, hw₂, hquiet₂⟩ := hclaim.sound (holds_claim hrow hidle hquiet)
      obtain rfl : w₂ = w₁.claim vmId := hw₂
      refine .carriedOut hrow hfits ?_
      exact hcarry.sound_owing (holds_carryOut (claimed_claim hrow) hquiet₂ hreported)
    · obtain ⟨hreported, ⟨hw', htaken⟩ | ⟨hw', hrotating, haudit⟩⟩ :=
        hclaim.sound (holds_claim hrow hidle hquiet)
      · obtain rfl : w' = w₁ := hw'
        exact .refused ⟨htaken, hreported⟩
      · obtain rfl : w' = w₁.claim vmId := hw'
        exact .unaudited hrow hrotating haudit hreported
  · obtain ⟨hw', hidle, -⟩ := hprepare.sound holds_prepare
    obtain rfl : w' = w := hw'
    exact .refused hidle

end ProxVM.Rotation
