import ProxVM.Rotation.Agreement

/-!
# The claim of a rotation is given back

`releases_iff` says when a rotation that took its claim leaves it behind, where the
database accepts the final status: the status to restore was `ROTATING` itself, the
audit row of a forced claim was refused, or a call on the way to the final status was.
-/

namespace ProxVM.Rotation

open Interaction

variable {S : Setting} {vmId : VmId} {opts : RotationOptions} {actor : RotationActor}
  {row : VmCredentialRow} {w w' : World} {log : RotationLog}

def Stranded (row : VmCredentialRow) (log : RotationLog) : Prop :=
  (row.status = .rotating ∧ reported log = false) ∨ auditRefused log = true ∨ vaultRefused log = true

theorem not_stranded (hreported : reported log = true) (hquiet : Quiet log) : ¬ Stranded row log := by
  rintro (⟨-, hsilent⟩ | haudit | hvault)
  · rw [hreported] at hsilent
    exact absurd hsilent.symm Bool.false_ne_true
  · rw [hquiet.audit] at haudit
    exact Bool.false_ne_true haudit
  · rw [hquiet.vault] at hvault
    exact Bool.false_ne_true hvault

/-- A rotation that took its claim, and whose final status the database accepted, has
given the claim back exactly if nothing stranded it. -/
theorem rotateVmCredential_releases_iff {r : Except Failure RotationResult}
    (hends : Ends (logging (Serves S)) (rotateVmCredential S.decrypt vmId opts actor) (w, []) r (w', log))
    (hrow : w.vault vmId = some row) (htaken : taken log = true) (hfinal : finalRefused log = false) :
    w'.statusOf vmId ≠ some .rotating ↔ ¬ Stranded row log := by
  cases rotate_ends hends with
  | refused hidle =>
      rw [hidle.taken] at htaken
      exact absurd htaken Bool.false_ne_true
  | unaudited hrow' hrotating haudit hreported =>
      refine iff_of_false (fun hne => hne (claimed_claim hrow').statusOf) ?_
      exact fun h => h (.inr (.inl haudit))
  | @carriedOut _ _ row' plan hrow' hfits houtcome =>
      obtain rfl : row = row' := Option.some.inj (hrow.symm.trans hrow')
      cases houtcome with
      | stuck hrow₁ hrotating hrefused haudit hdown =>
          have hvault : vaultRefused log = true := by
            obtain h | h := hrefused
            · exact h
            · rw [hfinal] at h
              exact absurd h Bool.false_ne_true
          refine iff_of_false (fun hne => hne ?_) fun h => h (.inr (.inr hvault))
          rw [World.statusOf_of_row hrow₁, hrotating]
      | restored n hrow₁ hguest hreported hquiet hfaithful =>
          have hstatus : w'.statusOf vmId = some row.status := by
            rw [World.statusOf_of_row hrow₁, hfits.existing]
          rw [hstatus, Stranded, hreported, hquiet.audit, hquiet.vault]
          simp
      | rolledBack restored ciphertext hcipher hrow₁ hothers hguest hseen hlast hreported hquiet =>
          refine iff_of_true ?_ (not_stranded hreported hquiet)
          rw [World.statusOf_of_row hrow₁]
          intro hstatus
          cases restored <;> cases hstatus
      | stored verified ciphertext hcipher hrow₁ hguest hseen hlast hreported hquiet =>
          refine iff_of_true ?_ (not_stranded hreported hquiet)
          rw [World.statusOf_of_row hrow₁]
          intro hstatus
          cases verified <;> cases hstatus

def clientDown : Behaviour where
  ssh := (false, ⟨false, "unreachable", none⟩)
  agent := (false, .error unavailable)
  reachable := false
  refuses
    | .getProxmoxClient => true
    | _ => false

def forcedOptions : RotationOptions := { sampleOptions with force := true }

theorem rotateVmCredential_releases_iff_forced :
    (sampleRun clientDown forcedOptions .rotating).2.1.statusOf 30 ≠ some .rotating ↔
      ¬ Stranded (sampleCredential .rotating) (sampleRun clientDown forcedOptions .rotating).2.2 := by
  have hresult : (sampleRun clientDown forcedOptions .rotating).1.result?.isSome = true := by
    decide +kernel
  obtain ⟨r, hends⟩ := sampleRun_ends hresult
  exact rotateVmCredential_releases_iff hends rfl (by decide +kernel) (by decide +kernel)

/-- It leaves the credential `ROTATING`, although the database accepted every write. -/
theorem not_rotateVmCredential_releases :
    ¬ ∀ (S : Setting) (vmId : VmId) (opts : RotationOptions) (actor : RotationActor) (w w' : World)
        (r : Except Failure RotationResult) (log : RotationLog),
      Ends (logging (Serves S)) (rotateVmCredential S.decrypt vmId opts actor) (w, []) r (w', log) →
        taken log = true → finalRefused log = false → w'.statusOf vmId ≠ some .rotating := by
  intro hall
  have hresult : (sampleRun clientDown forcedOptions .rotating).1.result?.isSome = true := by
    decide +kernel
  obtain ⟨r, hends⟩ := sampleRun_ends hresult
  refine hall sampleSetting 30 forcedOptions sampleActor _ _ r _ hends ?_ ?_ ?_
  · decide +kernel
  · decide +kernel
  · decide +kernel

end ProxVM.Rotation
