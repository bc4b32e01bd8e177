import ProxVM.Rotation.Mechanisms

/-!
# The ways a rotation ends

One specification for each stage of a rotation under its claim.  `Outcome` collects
the ways in which `carryOut` can end, and `holds_carryOut` says that there are no
others.
-/

namespace ProxVM.Rotation

open Interaction Context

variable {S : Setting} {vmId : VmId} {plan : Plan} {w : World} {log : RotationLog}

def Refused (log : RotationLog) : Prop := vaultRefused log = true ∨ finalRefused log = true

def LoginSeen (plan : Plan) (password : String) (log : RotationLog) : Prop :=
  ∃ result : SshResult, result.authenticated = true ∧
    (⟨.probeSsh ⟨some plan.host, 22, plan.username, password⟩, .ok result⟩ : Entry) ∈ log

/-- How a rotation that has the claim on `row` in `w` leaves the world. -/
inductive Outcome (S : Setting) (vmId : VmId) (plan : Plan) (w : World) (row : VmCredentialRow) :
    World → RotationLog → Prop
  /-- A statement was refused, and the claim is still there. -/
  | stuck {w' : World} {log' : RotationLog} {row' : VmCredentialRow}
      (hrow : w'.vault vmId = some row') (hrotating : row'.status = .rotating)
      (hrefused : Refused log') (haudit : auditRefused log' = false) (hdown : S.vaultUp = false) :
      Outcome S vmId plan w row w' log'
  /-- No mechanism reported a success. -/
  | restored {w' : World} {log' : RotationLog} (n : Nat)
      (hrow : w'.vault vmId = some { row with status := plan.existing.status })
      (hguest : w'.guest = w.guest.setTimes plan.username plan.newPassword n)
      (hreported : reported log' = false) (hquiet : Quiet log')
      (hfaithful : S.faithful = true → n = 0) : Outcome S vmId plan w row w' log'
  /-- The verification failed, and the old password was tried again. -/
  | rolledBack {w' : World} {log' : RotationLog} (restored : Bool) (ciphertext : String)
      (hcipher : S.decrypt ciphertext = .ok plan.oldPassword)
      (hrow : w'.vault vmId = some { row with
        username := plan.existing.username, passwordCiphertext := ciphertext
        keyId := keyIdOf ciphertext, status := if restored then .verified else .failed })
      (hothers : ∀ account, account ≠ plan.username →
        w'.guest.passwordOf account = w.guest.passwordOf account)
      (hguest : restored = true → w'.guest.passwordOf plan.username = some plan.oldPassword)
      (hseen : restored = true → LoginSeen plan plan.oldPassword log')
      (hlast : S.faithful = true → S.rollbacksLand = true → w'.lastApplied = some plan.oldPassword)
      (hreported : reported log' = true) (hquiet : Quiet log') : Outcome S vmId plan w row w' log'
  /-- The new password was stored. -/
  | stored {w' : World} {log' : RotationLog} (verified : Bool) (ciphertext : String)
      (hcipher : S.decrypt ciphertext = .ok plan.newPassword)
      (hrow : w'.vault vmId = some { row with
        username := plan.username, passwordCiphertext := ciphertext
        keyId := keyIdOf ciphertext, status := if verified then .verified else .provisioned })
      (hguest : verified = true → w'.guest.passwordOf plan.username = some plan.newPassword)
      (hseen : verified = true → plan.vm.osType = some .windows ∨
        LoginSeen plan plan.newPassword log')
      (hlast : S.faithful = true → w'.lastApplied = some plan.newPassword)
      (hreported : reported log' = true) (hquiet : Quiet log') : Outcome S vmId plan w row w' log'

theorem Outcome.cons {row : VmCredentialRow} {w' : World} {log' : RotationLog} {e : Entry}
    (he : e.Plain) (hreports : e.reports = false) (houtcome : Outcome S vmId plan w row w' log') :
    Outcome S vmId plan w row w' (e :: log') := by
  have hseen : ∀ {password}, LoginSeen plan password log' → LoginSeen plan password (e :: log') := by
    rintro password ⟨result, hauth, hmem⟩
    exact ⟨result, hauth, List.mem_cons_of_mem e hmem⟩
  have hsame : reported (e :: log') = reported log' := by
    rw [reported_cons, hreports, Bool.false_or]
  cases houtcome with
  | stuck hrow hrotating hrefused haudit hdown =>
      refine .stuck hrow hrotating ?_ ?_ hdown
      · rwa [Refused, vaultRefused_cons, finalRefused_cons, he.vault, he.final, Bool.false_or,
          Bool.false_or]
      · rw [auditRefused_cons, he.audit, haudit]
        rfl
  | restored n hrow hguest hreported hquiet hfaithful =>
      exact .restored n hrow hguest (hsame.trans hreported) (hquiet.cons he) hfaithful
  | rolledBack restored ciphertext hcipher hrow hothers hguest hlogin hlast hreported hquiet =>
      exact .rolledBack restored ciphertext hcipher hrow hothers hguest (fun h => hseen (hlogin h))
        hlast (hsame.trans hreported) (hquiet.cons he)
  | stored verified ciphertext hcipher hrow hguest hlogin hlast hreported hquiet =>
      exact .stored verified ciphertext hcipher hrow hguest (fun h => (hlogin h).imp_right hseen)
        hlast (hsame.trans hreported) (hquiet.cons he)

/-! ## The vault -/

structure Claimed (vmId : VmId) (row : VmCredentialRow) (w : World) : Prop where
  found : w.vault vmId = some row
  rotating : row.status = .rotating

theorem Claimed.statusOf {row : VmCredentialRow} (hclaimed : Claimed vmId row w) :
    w.statusOf vmId = some .rotating := by
  unfold World.statusOf Vault.statusOf
  rw [hclaimed.found, Option.map_some, hclaimed.rotating]

theorem Claimed.setTimes {row : VmCredentialRow} (hclaimed : Claimed vmId row w)
    (username password : String) (n : Nat) : Claimed vmId row (w.setTimes username password n) :=
  ⟨hclaimed.found, hclaimed.rotating⟩

variable {w' w₁ : World} {α : Type} {actor : RotationActor} {detail : RotationDetail} {e : AppError}
  {username password : String} {n : Nat} {rollbackError : Option String} {verified : Bool}

theorem Claimed.stuck {row row' : VmCredentialRow} (hclaimed : Claimed vmId row' w')
    (hrefused : Refused log) (haudit : auditRefused log = false) (hdown : S.vaultUp = false) :
    Outcome S vmId plan w row w' log :=
  .stuck hclaimed.found hclaimed.rotating hrefused haudit hdown

inductive Written (S : Setting) (vmId : VmId) (row : VmCredentialRow) (username password : String)
    (status : CredStatus) (w : World) (log : RotationLog) :
    Except Failure Unit → World → RotationLog → Prop
  | written {w' : World} {log' : RotationLog} (ciphertext : String)
      (hcipher : S.decrypt ciphertext = .ok password)
      (hrow : w'.vault vmId = some { row with
        username, passwordCiphertext := ciphertext, keyId := keyIdOf ciphertext, status })
      (hguest : w'.guest = w.guest) (hsubset : log ⊆ log') (hreported : reported log' = reported log)
      (hquiet : Quiet log')
      (hland : S.rollbacksLand = true → status = .failed → w.lastApplied = some password) :
      Written S vmId row username password status w log (.ok ()) w' log'
  | refused {log' : RotationLog} (e : Failure) (hrefused : Refused log')
      (haudit : auditRefused log' = false) (hdown : S.vaultUp = false) :
      Written S vmId row username password status w log (.error e) w log'

theorem holds_updateRow {row : VmCredentialRow} (hclaimed : Claimed vmId row w)
    (hquiet : Quiet log) (username password : String) (status : CredStatus) :
    (claimed S vmId).holds (updateRow row.id username password status)
      (fun r s => Written S vmId row username password status w log r s.1 s.2) (w, log) := by
  unfold updateRow
  refine holds_askRotation_bind.mpr ⟨mayCall hclaimed.statusOf, ?_, ?_⟩
  · rintro ciphertext w' ⟨hw, hsealed⟩
    subst w'
    have hcipher : S.decrypt ciphertext = .ok password := by
      obtain ⟨ciphertext', heq, hdecrypt⟩ | ⟨-, e, he⟩ := hsealed
      · cases heq
        exact hdecrypt
      · cases he
    refine holds_askRotation.mpr ⟨mayCall hclaimed.statusOf, ?_⟩
    rintro r w' ⟨⟨rfl, hw⟩ | ⟨hdown, hw, e, rfl⟩, hland⟩
    · subst w'
      refine .written ciphertext hcipher (Vault.updateRow_self hclaimed.found rfl _ _ _) rfl ?_ rfl
        ((hquiet.cons ⟨rfl, rfl, rfl⟩).cons ?_) ?_
      · exact fun x hx => List.mem_cons_of_mem _ (List.mem_cons_of_mem _ hx)
      · exact ⟨by cases status <;> rfl, by cases status <;> rfl, rfl⟩
      · intro hS hfailed
        obtain ⟨password', hdecrypt, hlast⟩ := hland hS hfailed
        rw [hcipher] at hdecrypt
        cases hdecrypt
        exact hlast
    · subst w'
      refine .refused e ?_ hquiet.audit hdown
      cases status with
      | rotating => exact .inl rfl
      | _ => exact .inr rfl
  · rintro e w' ⟨hw, hsealed⟩
    subst w'
    obtain ⟨ciphertext, heq, -⟩ | ⟨hdown, -⟩ := hsealed
    · cases heq
    · exact .refused e (.inl rfl) hquiet.audit hdown

variable {Q : Except Failure α → World × RotationLog → Prop}

theorem holds_findByVm_bind {row : VmCredentialRow} {f : Option VmCredentialRow → RotationTask α}
    (hclaimed : Claimed vmId row w) (hfound : (claimed S vmId).holds (f (some row)) Q
      (w, ⟨.credsFindByVm vmId, .ok (some row)⟩ :: log))
    (hrefused : ∀ e, S.vaultUp = false → Q (.error e) (w, ⟨.credsFindByVm vmId, .error e⟩ :: log)) :
    (claimed S vmId).holds (askRotation (.credsFindByVm vmId) >>= f) Q (w, log) := by
  refine holds_askRotation_bind.mpr ⟨mayCall hclaimed.statusOf, ?_, ?_⟩
  · rintro found w' ⟨hw, hfind | ⟨-, e, he⟩⟩
    · subst w'
      rw [hclaimed.found] at hfind
      cases hfind
      exact hfound
    · cases he
  · rintro e w' ⟨hw, hfind | ⟨hdown, -⟩⟩
    · cases hfind
    · subst w'
      exact hrefused e hdown

theorem holds_store {row : VmCredentialRow} (hclaimed : Claimed vmId row w) (hquiet : Quiet log)
    (username password : String) (status : CredStatus) :
    (claimed S vmId).holds (store vmId username password status)
      (fun r s => Written S vmId row username password status w log r s.1 s.2) (w, log) := by
  unfold store
  refine holds_findByVm_bind hclaimed ?_ ?_
  · refine holds_mono (holds_updateRow hclaimed (hquiet.cons ⟨rfl, rfl, rfl⟩) username password status) ?_
    rintro r ⟨w', log'⟩ hwritten
    cases hwritten with
    | written ciphertext hcipher hrow hguest hsubset hreported hquiet hland =>
        exact .written ciphertext hcipher hrow hguest (List.subset_of_cons_subset hsubset) hreported
          hquiet hland
    | refused e hrefused haudit hdown => exact .refused e hrefused haudit hdown
  · exact fun e hdown => .refused e (.inl rfl) hquiet.audit hdown

/-! ## Giving up -/

variable {row : VmCredentialRow}

theorem holds_restoreStatus {n : Nat} (hclaimed : Claimed vmId row w) (hquiet : Quiet log)
    (hreported : reported log = false) (hfaithful : S.faithful = true → n = 0) :
    (claimed S vmId).holds (restoreStatus vmId plan) (fun _ s => Outcome S vmId plan w row s.1 s.2)
      (w.setTimes plan.username plan.newPassword n, log) := by
  have hclaimed' := hclaimed.setTimes plan.username plan.newPassword n
  refine holds_askRotation.mpr ⟨mayCall hclaimed'.statusOf, ?_⟩
  rintro r w' (⟨rfl, hw⟩ | ⟨hdown, hw, e, rfl⟩)
  · subst w'
    refine .restored n ?_ rfl hreported (hquiet.cons ⟨rfl, rfl, rfl⟩) hfaithful
    have hset : w.vault.setStatus vmId plan.existing.status vmId =
        some { row with status := plan.existing.status } := by
      rw [Vault.setStatus_self, hclaimed.found]
      rfl
    exact hset
  · subst w'
    exact hclaimed'.stuck (.inr rfl) hquiet.audit hdown

theorem holds_connect (hclaimed : Claimed vmId row w) (hquiet : Quiet log)
    (hreported : reported log = false) : (claimed S vmId).holds (connect vmId plan) (fun r s => match r with
      | .ok _ => s.1 = w ∧ Quiet s.2 ∧ reported s.2 = false
      | .error _ => Outcome S vmId plan w row s.1 s.2) (w, log) := by
  unfold connect
  rw [holds_tryCatch]
  refine holds_askRotation.mpr ⟨mayCall hclaimed.statusOf, ?_⟩
  rintro (e | a) w' hw
  · obtain rfl : w' = w := hw
    refine holds_bind.mpr (holds_mono (holds_restoreStatus (n := 0) hclaimed
      (hquiet.cons ⟨rfl, rfl, rfl⟩) hreported fun _ => rfl) ?_)
    rintro (e' | a) s houtcome
    · exact houtcome
    · exact houtcome
  · exact ⟨hw, hquiet.cons ⟨rfl, rfl, rfl⟩, hreported⟩

theorem holds_close_throw (hplain : ∀ r, Entry.Plain ⟨.auditRecord actor vmId detail, r⟩)
    (houtcome : Outcome S vmId plan w row w₁ log)
    (hQ : ∀ e s, Outcome S vmId plan w row s.1 s.2 → Q (.error e) s) :
    (claimed S vmId).holds (askRotation (.auditRecord actor vmId detail) >>= fun _ =>
      (throwRotation e : RotationTask α)) Q (w₁, log) := by
  refine holds_askRotation_bind.mpr ⟨fun _ => rfl, ?_, ?_⟩
  · rintro a w' hw
    obtain rfl : w' = w₁ := hw
    exact hQ _ _ (houtcome.cons (hplain _) rfl)
  · rintro e' w' hw
    obtain rfl : w' = w₁ := hw
    exact hQ _ _ (houtcome.cons (hplain _) rfl)

theorem holds_attempts (firm : Bool) (hfirm : firm = true → plan.vm.osType = some .windows)
    (hclaimed : Claimed vmId row w) : (claimed S vmId).holds
      (firstSuccess (attempts plan.vm plan.host plan.username plan.oldPassword plan.newPassword))
      (fun r s => ∃ found n, r = .ok found ∧
        Tried S plan.username plan.newPassword firm w log found.isSome s.1 s.2 n) (w, log) := by
  refine holds_firstSuccess ?_ hclaimed.statusOf
  intro attempt hattempt w log hrotating
  unfold attempts at hattempt
  by_cases hwindows : plan.vm.osType = some .windows
  · rw [if_pos hwindows, List.mem_singleton] at hattempt
    rw [hattempt]
    exact holds_rotateViaGuestAgent firm hrotating
  · have hsoft : firm = false := by
      cases firm with
      | true => exact absurd (hfirm rfl) hwindows
      | false => rfl
    rw [if_neg hwindows, List.mem_cons, List.mem_singleton] at hattempt
    subst hsoft
    obtain rfl | rfl := hattempt
    · exact holds_rotateViaSsh hrotating
    · exact holds_rotateViaGuestAgent false hrotating

structure Applied (S : Setting) (plan : Plan) (w : World) (w' : World) (log' : RotationLog)
    (n : Nat) : Prop where
  world : w' = w.setTimes plan.username plan.newPassword n
  quiet : Quiet log'
  reported : reported log' = true
  faithful : S.faithful = true → n ≠ 0
  windows : plan.vm.osType = some .windows → n ≠ 0

theorem holds_applyPassword (hclaimed : Claimed vmId row w)
    (hquiet : Quiet log) (hreported : reported log = false) :
    (claimed S vmId).holds (applyPassword vmId plan actor) (fun r s => match r with
      | .ok _ => ∃ n, Applied S plan w s.1 s.2 n
      | .error _ => Outcome S vmId plan w row s.1 s.2) (w, log) := by
  unfold applyPassword
  rw [holds_bind]
  refine holds_mono (holds_attempts (decide (plan.vm.osType = some .windows)) of_decide_eq_true
    hclaimed) ?_
  rintro r ⟨w₁, log₁⟩ ⟨found, n, rfl, htried⟩
  cases found with
  | some applied =>
      refine ⟨n, htried.world, htried.quiet hquiet, ?_, ?_, ?_⟩
      · rw [htried.reports, hreported]
        rfl
      · intro hS
        rw [htried.faithful hS]
        exact Nat.one_ne_zero
      · exact fun hwindows => htried.effect (decide_eq_true hwindows) rfl
  | none =>
      have hw₁ : w₁ = w.setTimes plan.username plan.newPassword n := htried.world
      have hreported₁ : reported log₁ = false := by
        rw [htried.reports, hreported]
        rfl
      subst hw₁
      refine holds_bind.mpr (holds_mono (holds_restoreStatus hclaimed (htried.quiet hquiet)
        hreported₁ htried.faithful) ?_)
      rintro (e | a) ⟨w₂, log₂⟩ houtcome
      · exact houtcome
      · exact holds_close_throw (fun _ => ⟨rfl, rfl, rfl⟩) houtcome fun _ _ h => h

/-! ## Verification and rollback -/

theorem World.lastApplied_setTimes (hn : n ≠ 0) :
    (w.setTimes username password n).lastApplied = some password := by
  obtain ⟨m, rfl⟩ := Nat.exists_eq_succ_of_ne_zero hn
  rfl

theorem holds_rollBack (hrotating : w.statusOf vmId = some .rotating) :
    (claimed S vmId).holds (rollBack plan) (fun r s => ∃ rollbackError m, r = .ok rollbackError ∧
      Tried S plan.username plan.oldPassword false w log (Option.isNone rollbackError) s.1 s.2 m)
      (w, log) := by
  unfold rollBack
  rw [holds_tryCatch, holds_bind]
  refine holds_mono (holds_rotateViaSsh hrotating) ?_
  rintro r s ⟨m, htried⟩
  cases r with
  | error e => exact ⟨some e.message, m, rfl, htried⟩
  | ok result =>
      refine ⟨_, m, rfl, ?_⟩
      cases hsuccess : result.success with
      | true => simpa [succeeded, hsuccess] using htried
      | false => simpa [succeeded, hsuccess] using htried

theorem holds_probeSsh_bind {target : SshTarget} {f : SshResult → RotationTask α} (hrotating : w.statusOf vmId = some .rotating)
    (hf : ∀ result : SshResult,
      (result.authenticated = true → w.guest.passwordOf target.username = some target.password) →
      (claimed S vmId).holds (f result) Q (w, ⟨.probeSsh target, .ok result⟩ :: log)) :
    (claimed S vmId).holds (askRotation (.probeSsh target) >>= f) Q (w, log) := by
  refine holds_askRotation_bind.mpr ⟨mayCall hrotating, ?_, ?_⟩
  · rintro result w' ⟨hw, result', heq, hlogin⟩
    subst w'
    cases heq
    exact hf result hlogin
  · rintro e w' ⟨-, result, heq, -⟩
    cases heq

structure Confirmed (plan : Plan) (rollbackError : Option String) (w : World) (log : RotationLog) :
    Prop where
  rolledBack : rollbackError = none
  guest : w.guest.passwordOf plan.username = some plan.oldPassword
  seen : LoginSeen plan plan.oldPassword log

theorem holds_confirmRollback
    (hlinux : plan.vm.osType ≠ some .windows) (hrotating : w.statusOf vmId = some .rotating)
    (hquiet : Quiet log) : (claimed S vmId).holds (confirmRollback plan rollbackError) (fun r s => ∃ restored,
      r = .ok restored ∧ s.1 = w ∧ Quiet s.2 ∧ reported s.2 = reported log ∧
        (restored = true → Confirmed plan rollbackError s.1 s.2)) (w, log) := by
  unfold confirmRollback
  refine holds_ite.mpr ⟨fun _ => ?_, fun hnone => holds_ite.mpr ⟨fun h => absurd h hlinux, fun _ => ?_⟩⟩
  · exact ⟨false, rfl, rfl, hquiet, rfl, fun h => absurd h Bool.false_ne_true⟩
  · refine holds_probeSsh_bind hrotating fun result hlogin => ?_
    refine ⟨result.authenticated, rfl, rfl, hquiet.cons ⟨rfl, rfl, rfl⟩, rfl, fun hauth => ?_⟩
    exact ⟨by simpa using hnone, hlogin hauth, result, hauth, List.mem_cons_self⟩

structure Undone (S : Setting) (plan : Plan) (w : World) (rollbackError : Option String) (w' : World) :
    Prop where
  vault : w'.vault = w.vault
  others : ∀ account, account ≠ plan.username →
    w'.guest.passwordOf account = w.guest.passwordOf account
  last : S.faithful = true → rollbackError = none → w'.lastApplied = some plan.oldPassword

theorem Undone.of_tried {log₁ : RotationLog} {n m : Nat}
    (htried : Tried S plan.username plan.oldPassword false
      (w.setTimes plan.username plan.newPassword n) log rollbackError.isNone w' log₁ m) :
    Undone S plan w rollbackError w' where
  vault := by rw [htried.world, World.setTimes_vault, World.setTimes_vault]
  others := by
    intro account hne
    rw [htried.world]
    exact (GuestAccounts.passwordOf_setTimes_of_ne hne m).trans
      (GuestAccounts.passwordOf_setTimes_of_ne hne n)
  last := by
    rintro hS rfl
    rw [htried.world]
    refine World.lastApplied_setTimes ?_
    rw [htried.faithful hS]
    exact Nat.one_ne_zero

theorem holds_recordRollback {restored : Bool}
    (hplain : ∀ r, Entry.Plain ⟨.auditRecord actor vmId detail, r⟩) (hclaimed : Claimed vmId row w₁)
    (hundone : Undone S plan w rollbackError w₁) (hquiet : Quiet log) (hreported : reported log = true)
    (hconfirmed : restored = true → Confirmed plan rollbackError w₁ log) : (claimed S vmId).holds (do
        store vmId plan.existing.username plan.oldPassword (if restored then .verified else .failed)
        askRotation (.auditRecord actor vmId detail)
        (throwRotation e : RotationTask Unit))
      (fun r s => (∃ e, r = .error e) ∧ Outcome S vmId plan w row s.1 s.2) (w₁, log) := by
  refine holds_bind.mpr (holds_mono (holds_store hclaimed hquiet _ _ _) ?_)
  rintro r ⟨w₂, log₂⟩ hwritten
  cases hwritten with
  | refused e hrefused haudit hdown => exact ⟨⟨e, rfl⟩, hclaimed.stuck hrefused haudit hdown⟩
  | written ciphertext hcipher hrow hguest hsubset hsame hquiet₂ hland =>
      have hguest₂ : w₂.guest = w₁.guest := hguest
      have hlast₂ : w₂.lastApplied = w₁.lastApplied := by
        unfold World.lastApplied
        rw [hguest₂]
      refine holds_close_throw hplain (.rolledBack restored ciphertext hcipher hrow ?_ ?_ ?_ ?_
        (hsame.trans hreported) hquiet₂) fun e s h => ⟨⟨e, rfl⟩, h⟩
      · intro account hne
        rw [hguest₂]
        exact hundone.others account hne
      · intro hrestored
        rw [hguest₂]
        exact (hconfirmed hrestored).guest
      · intro hrestored
        obtain ⟨result, hauth, hmem⟩ := (hconfirmed hrestored).seen
        exact ⟨result, hauth, hsubset hmem⟩
      · intro hS hlands
        rw [hlast₂]
        cases hrestored : restored with
        | true => exact hundone.last hS (hconfirmed hrestored).rolledBack
        | false => exact hland hlands (by rw [hrestored]; rfl)

theorem holds_undo {detail : String}
    (hlinux : plan.vm.osType ≠ some .windows) (hclaimed : Claimed vmId row w) (hquiet : Quiet log)
    (hreported : reported log = true) : (claimed S vmId).holds (undo vmId plan actor detail)
      (fun r s => (∃ e, r = .error e) ∧ Outcome S vmId plan w row s.1 s.2)
      (w.setTimes plan.username plan.newPassword n, log) := by
  have hclaimed₁ := hclaimed.setTimes plan.username plan.newPassword n
  unfold undo
  refine holds_bind.mpr (holds_mono (holds_rollBack hclaimed₁.statusOf) ?_)
  rintro _ ⟨w₂, log₂⟩ ⟨rollbackError, m, rfl, htried⟩
  have hundone : Undone S plan w rollbackError w₂ := .of_tried htried
  have hclaimed₂ : Claimed vmId row w₂ := by
    refine ⟨?_, hclaimed.rotating⟩
    rw [hundone.vault]
    exact hclaimed.found
  have hreported₂ : reported log₂ = true := by
    rw [htried.reports, hreported, Bool.true_or]
  refine holds_bind.mpr (holds_mono (holds_confirmRollback hlinux hclaimed₂.statusOf
    (htried.quiet hquiet)) ?_)
  rintro _ ⟨w₃, log₃⟩ ⟨restored, rfl, hw₃, hquiet₃, hsame, hconfirmed⟩
  obtain rfl : w₃ = w₂ := hw₃
  have hrecord : ∀ {detail e}, (∀ r, Entry.Plain ⟨.auditRecord actor vmId detail, r⟩) →
      (claimed S vmId).holds (do
          store vmId plan.existing.username plan.oldPassword (if restored then .verified else .failed)
          askRotation (.auditRecord actor vmId detail)
          (throwRotation e : RotationTask Unit))
        (fun r s => (∃ e, r = .error e) ∧ Outcome S vmId plan w row s.1 s.2) (w₃, log₃) :=
    fun hplain => holds_recordRollback hplain hclaimed₂ hundone hquiet₃ (hsame.trans hreported₂)
      hconfirmed
  cases restored with
  | true => exact hrecord fun _ => ⟨rfl, rfl, rfl⟩
  | false => exact hrecord fun _ => ⟨rfl, rfl, rfl⟩

structure Ready (S : Setting) (plan : Plan) (w : World) (verified : Bool) (w' : World)
    (log' : RotationLog) : Prop where
  vault : w'.vault = w.vault
  guest : verified = true → w'.guest.passwordOf plan.username = some plan.newPassword
  seen : verified = true → plan.vm.osType = some .windows ∨ LoginSeen plan plan.newPassword log'
  last : S.faithful = true → w'.lastApplied = some plan.newPassword
  reported : reported log' = true
  quiet : Quiet log'

theorem holds_verifyPassword {verify : Bool}
    (hclaimed : Claimed vmId row w) (happlied : Applied S plan w w₁ log n) :
    (claimed S vmId).holds (verifyPassword vmId plan verify actor) (fun r s => match r with
      | .ok verified => Ready S plan w verified s.1 s.2
      | .error _ => Outcome S vmId plan w row s.1 s.2) (w₁, log) := by
  have hclaimed₁ := hclaimed.setTimes plan.username plan.newPassword n
  have hw₁ := happlied.world
  subst hw₁
  have hlast : S.faithful = true → World.lastApplied (w.setTimes plan.username plan.newPassword n) =
      some plan.newPassword :=
    fun hS => World.lastApplied_setTimes (happlied.faithful hS)
  unfold verifyPassword
  refine holds_ite.mpr ⟨fun _ => ?_, fun _ => holds_ite.mpr ⟨fun hwindows => ?_, fun hlinux => ?_⟩⟩
  · exact ⟨rfl, fun h => absurd h Bool.false_ne_true, fun h => absurd h Bool.false_ne_true, hlast,
      happlied.reported, happlied.quiet⟩
  · refine holds_askRotation.mpr ⟨mayCall hclaimed₁.statusOf, ?_⟩
    rintro _ w' ⟨hw, reachable, rfl⟩
    subst w'
    refine ⟨rfl, fun _ => ?_, fun _ => .inl hwindows, hlast, happlied.reported,
      happlied.quiet.cons ⟨rfl, rfl, rfl⟩⟩
    exact GuestAccounts.passwordOf_setTimes_self (happlied.windows hwindows)
  · refine holds_probeSsh_bind hclaimed₁.statusOf fun result hlogin => ?_
    refine holds_ite.mpr ⟨fun hauth => ?_, fun _ => ?_⟩
    · exact ⟨rfl, fun _ => hlogin hauth, fun _ => .inr ⟨result, hauth, List.mem_cons_self⟩, hlast,
        happlied.reported, happlied.quiet.cons ⟨rfl, rfl, rfl⟩⟩
    · refine holds_bind.mpr (holds_mono (holds_undo hlinux hclaimed
        (happlied.quiet.cons ⟨rfl, rfl, rfl⟩) happlied.reported) ?_)
      rintro _ s ⟨⟨e, rfl⟩, houtcome⟩
      exact houtcome

/-! ## Storing the new password -/

def VmCredentialRow.renewed (row : VmCredentialRow) (username ciphertext : String) :
    VmCredentialRow :=
  { row with username, passwordCiphertext := ciphertext, keyId := keyIdOf ciphertext, status := .rotating }

theorem holds_rotate (hclaimed : Claimed vmId row w) (hquiet : Quiet log) :
    (claimed S vmId).holds (rotate vmId username password) (fun r s => match r with
      | .ok _ => ∃ ciphertext, S.decrypt ciphertext = .ok password ∧
          Claimed vmId (VmCredentialRow.renewed row username ciphertext) s.1 ∧ s.1.guest = w.guest ∧
          log ⊆ s.2 ∧ reported s.2 = reported log ∧ Quiet s.2
      | .error _ => ∃ row', Claimed vmId row' s.1 ∧ Refused s.2 ∧ auditRefused s.2 = false ∧
          S.vaultUp = false) (w, log) := by
  unfold rotate
  refine holds_findByVm_bind hclaimed ?_ ?_
  · refine holds_bind.mpr (holds_orRaise.mpr ⟨?_, fun h => by cases h⟩)
    rintro found hfound
    obtain rfl : row = found := Option.some.inj hfound
    refine holds_bind.mpr (holds_mono (holds_updateRow hclaimed (hquiet.cons ⟨rfl, rfl, rfl⟩)
      username password .rotating) ?_)
    rintro r ⟨w₁, log₁⟩ hwritten
    cases hwritten with
    | refused e hrefused haudit hdown => exact ⟨row, hclaimed, hrefused, haudit, hdown⟩
    | written ciphertext hcipher hrow hguest hsubset hsame hquiet₁ _ =>
        have hrenewed : Claimed vmId (VmCredentialRow.renewed row username ciphertext) w₁ := ⟨hrow, rfl⟩
        refine holds_askRotation.mpr ⟨mayCall hrenewed.statusOf, ?_⟩
        rintro r w' (⟨rfl, hw⟩ | ⟨hdown, hw, e, rfl⟩)
        · subst w'
          refine ⟨ciphertext, hcipher, hrenewed, hguest, ?_, hsame, hquiet₁.cons ⟨rfl, rfl, rfl⟩⟩
          exact fun x hx => List.mem_cons_of_mem _ (List.subset_of_cons_subset hsubset hx)
        · subst w'
          exact ⟨_, hrenewed, .inl rfl, hquiet₁.audit, hdown⟩
  · exact fun e hdown => ⟨row, hclaimed, .inl rfl, hquiet.audit, hdown⟩

theorem holds_settle {ciphertext : String} (hcipher : S.decrypt ciphertext = .ok plan.newPassword)
    (hrenewed : Claimed vmId (VmCredentialRow.renewed row plan.username ciphertext) w₁)
    (hready : ∀ log' : RotationLog, log ⊆ log' → reported log' = reported log → Quiet log' →
      Ready S plan w verified { w₁ with vault := w.vault } log') (hquiet : Quiet log) :
    (claimed S vmId).holds (if verified then askRotation (.credsMarkRotatedSuccess vmId)
        else askRotation (.credsSetStatus vmId .provisioned))
      (fun _ s => Outcome S vmId plan w row s.1 s.2) (w₁, log) := by
  have hsettled : ∀ {status : CredStatus} {e : Entry}, e.Plain → e.reports = false →
      status = (if verified then .verified else .provisioned) →
      Outcome S vmId plan w row { w₁ with vault := w₁.vault.setStatus vmId status } (e :: log) := by
    rintro _ e he hreports rfl
    have hend := hready (e :: log) (List.subset_cons_self e log)
      (by rw [reported_cons, hreports, Bool.false_or]) (hquiet.cons he)
    refine .stored verified ciphertext hcipher ?_ hend.guest hend.seen hend.last hend.reported
      hend.quiet
    have hset : w₁.vault.setStatus vmId (if verified then .verified else .provisioned) vmId =
        some { VmCredentialRow.renewed row plan.username ciphertext with
          status := if verified then .verified else .provisioned } := by
      rw [Vault.setStatus_self, hrenewed.found]
      rfl
    exact hset
  refine holds_ite.mpr ⟨fun hverified => ?_, fun hunverified => ?_⟩
  · refine holds_askRotation.mpr ⟨mayCall hrenewed.statusOf, ?_⟩
    rintro r w' (⟨rfl, hw⟩ | ⟨hdown, hw, e, rfl⟩)
    · subst w'
      exact hsettled ⟨rfl, rfl, rfl⟩ rfl (if_pos hverified).symm
    · subst w'
      exact hrenewed.stuck (.inr rfl) hquiet.audit hdown
  · refine holds_askRotation.mpr ⟨mayCall hrenewed.statusOf, ?_⟩
    rintro r w' (⟨rfl, hw⟩ | ⟨hdown, hw, e, rfl⟩)
    · subst w'
      exact hsettled ⟨rfl, rfl, rfl⟩ rfl (if_neg hunverified).symm
    · subst w'
      exact hrenewed.stuck (.inr rfl) hquiet.audit hdown

theorem holds_commit (hclaimed : Claimed vmId row w) (hready : Ready S plan w verified w₁ log) :
    (claimed S vmId).holds (commit vmId plan verified) (fun _ s => Outcome S vmId plan w row s.1 s.2)
      (w₁, log) := by
  have hclaimed₁ : Claimed vmId row w₁ := by
    refine ⟨?_, hclaimed.rotating⟩
    rw [hready.vault]
    exact hclaimed.found
  unfold commit
  refine holds_bind.mpr (holds_mono (holds_rotate hclaimed₁ hready.quiet) ?_)
  rintro (e | a) ⟨w₂, log₂⟩ hrotate
  · obtain ⟨row', hclaimed', hrefused, haudit, hdown⟩ := hrotate
    exact hclaimed'.stuck hrefused haudit hdown
  · obtain ⟨ciphertext, hcipher, hrenewed, hguest, hsubset, hsame, hquiet⟩ := hrotate
    have hguest₂ : w₂.guest = w₁.guest := hguest
    refine holds_settle hcipher hrenewed ?_ hquiet
    intro log' hsubset' hsame' hquiet'
    refine ⟨rfl, ?_, ?_, ?_, ?_, hquiet'⟩
    · intro hverified
      rw [hguest₂]
      exact hready.guest hverified
    · intro hverified
      refine (hready.seen hverified).imp_right ?_
      rintro ⟨result, hauth, hmem⟩
      exact ⟨result, hauth, hsubset' (hsubset hmem)⟩
    · intro hS
      have hlast := hready.last hS
      unfold World.lastApplied at hlast ⊢
      rw [hguest₂]
      exact hlast
    · exact hsame'.trans (hsame.trans hready.reported)

/-! ## The whole rotation -/

theorem holds_closing {c : RotationCall}
    {Q : Except Failure c.Reply → World × RotationLog → Prop} (hclosing : c.closing = true)
    (hsame : ∀ r w', Serves S c w₁ r w' → w' = w₁) (hplain : ∀ r, Entry.Plain ⟨c, r⟩)
    (hreports : ∀ r, Entry.reports ⟨c, r⟩ = false) (houtcome : Outcome S vmId plan w row w₁ log)
    (hQ : ∀ r s, Outcome S vmId plan w row s.1 s.2 → Q r s) :
    (claimed S vmId).holds (askRotation c) Q (w₁, log) := by
  refine holds_askRotation.mpr ⟨fun _ => hclosing, fun r w' hserve => ?_⟩
  rw [hsame r w' hserve]
  exact hQ r _ (houtcome.cons (hplain r) (hreports r))

theorem holds_syncGuacamole {newPassword : String} (houtcome : Outcome S vmId plan w row w₁ log) :
    (claimed S vmId).holds (syncGuacamole vmId newPassword)
      (fun _ s => Outcome S vmId plan w row s.1 s.2) (w₁, log) := by
  unfold syncGuacamole
  rw [holds_tryCatch, holds_bind]
  refine holds_closing rfl (fun _ _ h => h) (fun _ => ⟨rfl, rfl, rfl⟩) (fun _ => rfl) houtcome ?_
  rintro (e | a) ⟨w₂, log₂⟩ houtcome₂
  · exact houtcome₂
  · refine holds_bind.mpr (holds_closing rfl (fun _ _ h => h) (fun _ => ⟨rfl, rfl, rfl⟩)
      (fun _ => rfl) houtcome₂ ?_)
    rintro (e | a) s houtcome₃
    · exact houtcome₃
    · exact houtcome₃

theorem holds_carryOut {opts : RotationOptions}
    (hclaimed : Claimed vmId row w) (hquiet : Quiet log) (hreported : reported log = false) :
    (claimed S vmId).holds (carryOut vmId opts actor plan)
      (fun _ s => Outcome S vmId plan w row s.1 s.2) (w, log) := by
  unfold carryOut
  refine holds_bind.mpr (holds_mono (holds_connect hclaimed hquiet hreported) ?_)
  rintro (e | a) ⟨w₁, log₁⟩ hconnect
  · exact hconnect
  · obtain ⟨hw₁, hquiet₁, hreported₁⟩ := hconnect
    obtain rfl : w₁ = w := hw₁
    refine holds_bind.mpr (holds_mono (holds_applyPassword hclaimed hquiet₁ hreported₁) ?_)
    rintro (e | applied) ⟨w₂, log₂⟩ happly
    · exact happly
    · obtain ⟨n, happlied⟩ := happly
      refine holds_bind.mpr (holds_mono (holds_verifyPassword hclaimed happlied) ?_)
      rintro (e | verified) ⟨w₃, log₃⟩ hverify
      · exact hverify
      · refine holds_bind.mpr (holds_mono (holds_commit hclaimed hverify) ?_)
        rintro (e | a) ⟨w₄, log₄⟩ houtcome
        · exact houtcome
        · refine holds_bind.mpr (holds_mono (holds_syncGuacamole houtcome) ?_)
          rintro (e | guacError) ⟨w₅, log₅⟩ houtcome₅
          · exact houtcome₅
          · refine holds_bind.mpr (holds_closing rfl (fun _ _ h => h) (fun _ => ⟨rfl, rfl, rfl⟩)
              (fun _ => rfl) houtcome₅ ?_)
            rintro (e | a) s houtcome₆
            · exact houtcome₆
            · exact houtcome₆

end ProxVM.Rotation
