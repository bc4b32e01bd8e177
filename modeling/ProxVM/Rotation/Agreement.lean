import ProxVM.Rotation.Alone
import ProxVM.Rotation.Simulation

/-!
# Vault and guest after a rotation

A rotation that reads every report as a failure restores the status it found, also
where one of its commands had taken effect.  `agrees_iff` says that this is the only
way in which a `VERIFIED` credential stops being the guest's.
-/

namespace ProxVM.Rotation

open Interaction

variable {S : Setting} {vmId : VmId} {opts : RotationOptions} {actor : RotationActor} {plan : Plan}
  {row : VmCredentialRow} {w w' : World} {log : RotationLog}

def Agrees (S : Setting) (w : World) (vmId : VmId) : Prop :=
  ∀ row, w.vault vmId = some row → ∃ password,
    S.decrypt row.passwordCiphertext = .ok password ∧
      w.guest.passwordOf row.username = some password

def changesSince (w w' : World) : List (String × String) :=
  w'.guest.changes.take (w'.guest.changes.length - w.guest.changes.length)

/-- A command gave the stored account another password, and every report was read as a
failure. -/
def SilentChange (S : Setting) (vmId : VmId) (w w' : World) (log : RotationLog) : Prop :=
  reported log = false ∧ ∃ row, w.vault vmId = some row ∧ ∃ change ∈ changesSince w w',
    change.1 = row.username ∧ S.decrypt row.passwordCiphertext ≠ .ok change.2

variable {n : Nat} {status : CredStatus}

theorem changesSince_of_setTimes {username password : String}
    (hguest : w'.guest = w.guest.setTimes username password n) :
    changesSince w w' = List.replicate n (username, password) := by
  have hchanges : w'.guest.changes = List.replicate n (username, password) ++ w.guest.changes := by
    rw [hguest, GuestAccounts.changes_setTimes]
  have hlength : w'.guest.changes.length - w.guest.changes.length =
      (List.replicate n (username, password)).length := by
    rw [hchanges, List.length_append]
    omega
  unfold changesSince
  rw [hlength, hchanges, List.take_left]

theorem not_silentChange_of_reported (hreported : reported log = true) : ¬ SilentChange S vmId w w' log := by
  rintro ⟨hsilent, -⟩
  rw [hreported] at hsilent
  exact absurd hsilent.symm Bool.false_ne_true

theorem agrees_restored_iff (hrow : w.vault vmId = some row) (hbefore : Agrees S w vmId)
    (hrow' : w'.vault vmId = some { row with status })
    (hguest : w'.guest = w.guest.setTimes plan.username plan.newPassword n)
    (hreported : reported log = false) : Agrees S w' vmId ↔ ¬ SilentChange S vmId w w' log := by
  obtain ⟨password, hpassword, haccount⟩ := hbefore row hrow
  have hsame : ∀ {row'}, w'.vault vmId = some row' → row' = { row with status } :=
    fun h => Option.some.inj (h.symm.trans hrow')
  constructor
  · rintro hafter ⟨-, row₀, hrow₀, change, hchange, hname, hother⟩
    obtain rfl : row = row₀ := Option.some.inj (hrow.symm.trans hrow₀)
    rw [changesSince_of_setTimes hguest] at hchange
    obtain ⟨hn, rfl⟩ := List.mem_replicate.mp hchange
    obtain ⟨password', hpassword', haccount'⟩ := hafter _ hrow'
    have hnow : w'.guest.passwordOf row.username = some plan.newPassword := by
      rw [hguest, ← hname]
      exact GuestAccounts.passwordOf_setTimes_self hn
    have hnew : some plan.newPassword = some password' := hnow.symm.trans haccount'
    cases hnew
    exact hother hpassword'
  · intro hsilent row' hrow₁
    rw [hsame hrow₁]
    refine ⟨password, hpassword, ?_⟩
    change w'.guest.passwordOf row.username = some password
    by_cases hname : plan.username = row.username
    · by_cases hn : n = 0
      · rw [hguest, hn]
        exact haccount
      · -- the account got the new password, so it must be the stored one
        have hmem : (plan.username, plan.newPassword) ∈ changesSince w w' := by
          rw [changesSince_of_setTimes hguest]
          exact List.mem_replicate.mpr ⟨hn, rfl⟩
        have heq : S.decrypt row.passwordCiphertext = .ok plan.newPassword := by
          by_contra hne
          exact hsilent ⟨hreported, row, hrow, _, hmem, hname, hne⟩
        obtain rfl : plan.newPassword = password := Except.ok.inj (heq.symm.trans hpassword)
        rw [hguest, ← hname]
        exact GuestAccounts.passwordOf_setTimes_self hn
    · rw [hguest, GuestAccounts.passwordOf_setTimes_of_ne (Ne.symm hname)]
      exact haccount

theorem agrees_of_row {username ciphertext password : String} {keyId : String}
    (hrow : w'.vault vmId = some { row with
      username, passwordCiphertext := ciphertext, keyId, status })
    (hcipher : S.decrypt ciphertext = .ok password)
    (haccount : w'.guest.passwordOf username = some password) : Agrees S w' vmId := by
  intro row' hrow'
  obtain rfl := Option.some.inj (hrow'.symm.trans hrow)
  exact ⟨password, hcipher, haccount⟩

theorem World.statusOf_of_row (hrow : w.vault vmId = some row) : w.statusOf vmId = some row.status := by
  unfold World.statusOf Vault.statusOf
  rw [hrow]
  rfl

/-- Whenever a rotation has ended and the stored status is `VERIFIED`, the guest has the
stored password, if it had it before, unless the rotation overlooked a change. -/
theorem rotateVmCredential_agrees_iff {r : Except Failure RotationResult}
    (hends : Ends (logging (Serves S)) (rotateVmCredential S.decrypt vmId opts actor) (w, []) r (w', log))
    (hbefore : Agrees S w vmId) (hverified : w'.statusOf vmId = some .verified) :
    Agrees S w' vmId ↔ ¬ SilentChange S vmId w w' log := by
  cases rotate_ends hends with
  | refused hidle =>
      refine ⟨fun _ => ?_, fun _ => hbefore⟩
      rintro ⟨-, row, -, change, hchange, -⟩
      rw [changesSince, Nat.sub_self] at hchange
      exact absurd hchange List.not_mem_nil
  | unaudited hrow hrotating haudit hreported =>
      rw [(claimed_claim hrow).statusOf] at hverified
      cases hverified
  | @carriedOut _ _ row plan hrow hfits houtcome =>
      cases houtcome with
      | stuck hrow' hrotating hrefused haudit hdown =>
          rw [World.statusOf_of_row hrow', hrotating] at hverified
          cases hverified
      | restored n hrow' hguest hreported hquiet hfaithful =>
          exact agrees_restored_iff hrow hbefore hrow' hguest hreported
      | rolledBack restored ciphertext hcipher hrow' hothers hguest hseen hlast hreported hquiet =>
          refine ⟨fun _ => not_silentChange_of_reported hreported, fun _ => ?_⟩
          have hrestored : restored = true := by
            rw [World.statusOf_of_row hrow'] at hverified
            cases restored with
            | true => rfl
            | false => cases hverified
          refine agrees_of_row hrow' hcipher ?_
          rw [hfits.existing]
          by_cases hname : plan.username = row.username
          · rw [← hname]
            exact hguest hrestored
          · rw [hothers _ (Ne.symm hname)]
            obtain ⟨password, hpassword, haccount⟩ := hbefore _ hrow
            obtain rfl : password = plan.oldPassword :=
              Except.ok.inj (hpassword.symm.trans hfits.password)
            exact haccount
      | stored verified ciphertext hcipher hrow' hguest hseen hlast hreported hquiet =>
          refine ⟨fun _ => not_silentChange_of_reported hreported, fun _ => ?_⟩
          have hset : verified = true := by
            rw [World.statusOf_of_row hrow'] at hverified
            cases verified with
            | true => rfl
            | false => cases hverified
          exact agrees_of_row hrow' hcipher (hguest hset)

def sampleSetting : Setting :=
  { decrypt := sampleDecrypt, faithful := false, vaultUp := false, rollbacksLand := false }

def sampleRun (b : Behaviour) (opts : RotationOptions) (status : CredStatus) :
    RotationTask RotationResult × World × RotationLog :=
  drive (World.playLogged sampleSetting sampleSeal b) 12
    (rotateVmCredential sampleDecrypt 30 opts sampleActor, sampleWorld status, [])

theorem agrees_sampleWorld (status : CredStatus) : Agrees sampleSetting (sampleWorld status) 30 := by
  rintro row hrow
  obtain rfl : sampleCredential status = row := Option.some.inj hrow
  have hopen : sampleDecrypt "v1:old" = .ok "old" := by decide +kernel
  exact ⟨"old", hopen, rfl⟩

theorem sampleRun_ends {b : Behaviour} (hresult : (sampleRun b opts status).1.result?.isSome = true) :
    ∃ r, Ends (logging (Serves sampleSetting)) (rotateVmCredential sampleDecrypt 30 opts sampleActor)
      (sampleWorld status, []) r (sampleRun b opts status).2 := by
  obtain ⟨r, hr⟩ := Option.isSome_iff_exists.mp hresult
  exact ⟨r, ends_of_result (fun _ _ _ _ => logging_playLogged) 12 hr⟩

theorem rotateVmCredential_agrees_iff_silent :
    Agrees sampleSetting (sampleRun silentChpasswd sampleOptions .verified).2.1 30 ↔
      ¬ SilentChange sampleSetting 30 (sampleWorld .verified)
        (sampleRun silentChpasswd sampleOptions .verified).2.1
        (sampleRun silentChpasswd sampleOptions .verified).2.2 := by
  have hresult : (sampleRun silentChpasswd sampleOptions .verified).1.result?.isSome = true := by
    decide +kernel
  obtain ⟨r, hends⟩ := sampleRun_ends hresult
  exact rotateVmCredential_agrees_iff hends (agrees_sampleWorld .verified) (by decide +kernel)

/-- That rotation leaves a `VERIFIED` credential that the guest no longer has. -/
theorem not_rotateVmCredential_agrees :
    ¬ ∀ (S : Setting) (vmId : VmId) (opts : RotationOptions) (actor : RotationActor) (w w' : World)
        (r : Except Failure RotationResult) (log : RotationLog),
      Ends (logging (Serves S)) (rotateVmCredential S.decrypt vmId opts actor) (w, []) r (w', log) →
        Agrees S w vmId → w'.statusOf vmId = some .verified → Agrees S w' vmId := by
  intro hall
  have hresult : (sampleRun silentChpasswd sampleOptions .verified).1.result?.isSome = true := by
    decide +kernel
  obtain ⟨r, hends⟩ := sampleRun_ends hresult
  have hrow : (sampleRun silentChpasswd sampleOptions .verified).2.1.vault 30 =
      some (sampleCredential .verified) := by decide +kernel
  have haccount : (sampleRun silentChpasswd sampleOptions .verified).2.1.guest.passwordOf "admin" =
      some "new" := by decide +kernel
  have hafter := hall sampleSetting 30 sampleOptions sampleActor _ _ r _ hends
    (agrees_sampleWorld .verified) (by decide +kernel)
  obtain ⟨password, hpassword, hnow⟩ := hafter _ hrow
  obtain rfl : "new" = password := Option.some.inj (haccount.symm.trans hnow)
  have hopen : sampleDecrypt "v1:old" ≠ .ok "new" := by decide +kernel
  exact hopen hpassword

end ProxVM.Rotation
