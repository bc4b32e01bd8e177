import ProxVM.Lib.Solo
import ProxVM.Rotation.Rotate
import ProxVM.Services.Vms

/-!
# The world of a rotation

The database, the vault and the guest of one VM.  A guest command may take effect
or not, whatever its caller hears; a login succeeds only with the password the
account has.  A `Setting` says what else the world promises: whether a command takes
effect exactly where its report is read as a success, whether the statements on the
vault can fail, and whether a rotation that gives up leaves the guest with the
password it stores.

The log of a call is read through four tests: `reported` (a success), `vaultRefused` (a
statement of the critical part), `finalRefused` (that of the final status), `auditRefused`.
-/

namespace ProxVM.Rotation

open Interaction

/-! ## The state -/

structure GuestAccounts where
  passwordOf : String → Option String
  changes : List (String × String)

def GuestAccounts.set (guest : GuestAccounts) (username password : String) : GuestAccounts where
  passwordOf := fun account => if account = username then some password else guest.passwordOf account
  changes := (username, password) :: guest.changes

def GuestAccounts.setTimes (guest : GuestAccounts) (username password : String) :
    Nat → GuestAccounts
  | 0 => guest
  | n + 1 => (guest.setTimes username password n).set username password

structure World where
  db : Db
  vault : Vault
  guest : GuestAccounts

structure Setting where
  decrypt : String → Except Failure String
  faithful : Bool
  vaultUp : Bool
  rollbacksLand : Bool

namespace GuestAccounts

variable {guest : GuestAccounts} {username password account : String}

theorem setTimes_add (m n : Nat) : (guest.setTimes username password m).setTimes username password n =
      guest.setTimes username password (m + n) := by
  induction n with
  | zero => rfl
  | succ n ih =>
      change ((guest.setTimes username password m).setTimes username password n).set username password =
        (guest.setTimes username password (m + n)).set username password
      rw [ih]

theorem passwordOf_setTimes_self {n : Nat} (hn : n ≠ 0) :
    (guest.setTimes username password n).passwordOf username = some password := by
  cases n with
  | zero => exact absurd rfl hn
  | succ n => simp [setTimes, set]

theorem passwordOf_setTimes_of_ne (hne : account ≠ username) (n : Nat) :
    (guest.setTimes username password n).passwordOf account = guest.passwordOf account := by
  induction n with
  | zero => rfl
  | succ n ih =>
      have hset : ((guest.setTimes username password n).set username password).passwordOf account =
          (guest.setTimes username password n).passwordOf account := if_neg hne
      exact hset.trans ih

theorem changes_setTimes (n : Nat) : (guest.setTimes username password n).changes =
      List.replicate n (username, password) ++ guest.changes := by
  induction n with
  | zero => rfl
  | succ n ih =>
      change (username, password) :: (guest.setTimes username password n).changes = _
      rw [ih, List.replicate_succ, List.cons_append]

end GuestAccounts

/-! ## The log -/

abbrev Entry : Type := (c : RotationCall) × Except Failure c.Reply

abbrev RotationLog : Type := Log rotationCalls Failure

namespace Entry

/-- A mechanism reports a success: the test of `rotateViaSsh`, the test of
`rotateViaGuestAgent`. -/
def reports : Entry → Bool
  | ⟨.runSshCommand _ _, .ok result⟩ => result.authenticated && outputAccepted result.output
  | ⟨.startAgentExecAndWait _ _ _, .ok result⟩ => decide (result.exitCode = some 0)
  | _ => false

def refusesVault : Entry → Bool
  | ⟨.credsFindByVm _, .error _⟩ => true
  | ⟨.encrypt _, .error _⟩ => true
  | ⟨.credsUpdateRow _ _ _ .rotating, .error _⟩ => true
  | ⟨.credsStampRotated _, .error _⟩ => true
  | _ => false

def refusesFinal : Entry → Bool
  | ⟨.credsSetStatus _ _, .error _⟩ => true
  | ⟨.credsMarkRotatedSuccess _, .error _⟩ => true
  | ⟨.credsUpdateRow _ _ _ .rotating, .error _⟩ => false
  | ⟨.credsUpdateRow _ _ _ _, .error _⟩ => true
  | ⟨.credsInsert _ _ _ _, .error _⟩ => true
  | _ => false

def refusesAudit : Entry → Bool
  | ⟨.auditRecord _ _ .forcedRetry, .error _⟩ => true
  | _ => false

end Entry

def reported (log : RotationLog) : Bool := log.any Entry.reports
def vaultRefused (log : RotationLog) : Bool := log.any Entry.refusesVault
def finalRefused (log : RotationLog) : Bool := log.any Entry.refusesFinal
def auditRefused (log : RotationLog) : Bool := log.any Entry.refusesAudit

@[simp] theorem reported_cons (e : Entry) (log : RotationLog) :
    reported (e :: log) = (e.reports || reported log) := rfl

@[simp] theorem vaultRefused_cons (e : Entry) (log : RotationLog) :
    vaultRefused (e :: log) = (e.refusesVault || vaultRefused log) := rfl

@[simp] theorem finalRefused_cons (e : Entry) (log : RotationLog) :
    finalRefused (e :: log) = (e.refusesFinal || finalRefused log) := rfl

@[simp] theorem auditRefused_cons (e : Entry) (log : RotationLog) :
    auditRefused (e :: log) = (e.refusesAudit || auditRefused log) := rfl

structure Quiet (log : RotationLog) : Prop where
  vault : vaultRefused log = false
  final : finalRefused log = false
  audit : auditRefused log = false

structure Entry.Plain (e : Entry) : Prop where
  vault : e.refusesVault = false
  final : e.refusesFinal = false
  audit : e.refusesAudit = false

theorem Quiet.cons {e : Entry} {log : RotationLog} (hquiet : Quiet log) (he : e.Plain) :
    Quiet (e :: log) where
  vault := by rw [vaultRefused_cons, he.vault, hquiet.vault]; rfl
  final := by rw [finalRefused_cons, he.final, hquiet.final]; rfl
  audit := by rw [auditRefused_cons, he.audit, hquiet.audit]; rfl

/-! ## How calls are served -/

def Answers {α : Type} (up : Bool) (answer r : Except Failure α) : Prop :=
  r = answer ∨ up = false ∧ ∃ e, r = .error e

def Takes (up : Bool) (w next : World) (r : Except Failure Unit) (w' : World) : Prop :=
  (r = .ok () ∧ w' = next) ∨ up = false ∧ w' = w ∧ ∃ e, r = .error e

def Commanded (S : Setting) (w : World) (command : PasswordCommand) (success : Bool) (w' : World) :
    Prop :=
  ∃ effect : Bool,
    w' = (if effect then { w with guest := w.guest.set command.username command.password } else w) ∧
      (S.faithful = true → effect = success)

def World.lastApplied (w : World) : Option String := w.guest.changes.head?.map Prod.snd

/-- What `requireById` answers. -/
def requiredVm (db : Db) (id : VmId) : Except Failure VmRow :=
  match findVmById db id with
  | some vm => .ok vm
  | none => .error (.app (AppError.notFound "VM not found"))

def Serves (S : Setting) : Service rotationCalls Failure World
  | .vmsRequireById id, w, r, w' => w' = w ∧ Answers false (requiredVm w.db id) r
  | .vmsFindByIdKey vmid node, w, r, w' =>
      w' = w ∧ Answers false (.ok (w.db.findVmByIdKey vmid node)) r
  | .credsFindByVm vmId, w, r, w' => w' = w ∧ Answers S.vaultUp (.ok (w.vault vmId)) r
  | .credsTryClaimRotation vmId, w, r, w' =>
      (r = .ok (w.vault.tryClaimRotation vmId).1 ∧
        w' = { w with vault := (w.vault.tryClaimRotation vmId).2 }) ∨
      S.vaultUp = false ∧ w' = w ∧ ∃ e, r = .error e
  | .credsSetStatus vmId status, w, r, w' =>
      Takes S.vaultUp w { w with vault := w.vault.setStatus vmId status } r w'
  | .credsUpdateRow id username ciphertext status, w, r, w' =>
      Takes S.vaultUp w { w with vault := w.vault.updateRow id username ciphertext status } r w' ∧
        (S.rollbacksLand = true → status = .failed →
          ∃ password, S.decrypt ciphertext = .ok password ∧ w.lastApplied = some password)
  | .credsInsert vmId username ciphertext status, w, r, w' =>
      (w.vault vmId = none ∧ r = .ok () ∧ ∃ id,
        w' = { w with
          vault := w.vault.insert ⟨id, vmId, username, ciphertext, keyIdOf ciphertext, status⟩ }) ∨
      (S.vaultUp = false ∨ w.vault vmId ≠ none) ∧ w' = w ∧ ∃ e, r = .error e
  | .credsStampRotated _, w, r, w' => Takes S.vaultUp w w r w'
  | .credsMarkRotatedSuccess vmId, w, r, w' =>
      Takes S.vaultUp w { w with vault := w.vault.setStatus vmId .verified } r w'
  | .encrypt plaintext, w, r, w' =>
      w' = w ∧ ((∃ ciphertext, r = .ok ciphertext ∧ S.decrypt ciphertext = .ok plaintext) ∨
        S.vaultUp = false ∧ ∃ e, r = .error e)
  | .runSshCommand target command, w, r, w' =>
      (∃ result, r = .ok result) ∧
        Commanded S w command (Entry.reports ⟨.runSshCommand target command, r⟩) w'
  | .startAgentExecAndWait node vmid command, w, r, w' =>
      Commanded S w command (Entry.reports ⟨.startAgentExecAndWait node vmid command, r⟩) w' ∧
        (Entry.reports ⟨.startAgentExecAndWait node vmid command, r⟩ = true →
          w' = { w with guest := w.guest.set command.username command.password })
  | .probeSsh target, w, r, w' =>
      w' = w ∧ ∃ result, r = .ok result ∧
        (result.authenticated = true → w.guest.passwordOf target.username = some target.password)
  | .probeTcp _ _, w, r, w' => w' = w ∧ ∃ reachable, r = .ok reachable
  | _, w, _, w' => w' = w

def World.statusOf (w : World) (vmId : VmId) : Option CredStatus := w.vault.statusOf vmId

def RotationCall.closing : RotationCall → Bool
  | .auditRecord _ _ _ => true
  | .getGuacDb => true
  | .guacUpdateConnectionPassword _ _ => true
  | _ => false

/-- A rotation that has its claim: once the claim is given back, only closing calls
follow. -/
abbrev claimed (S : Setting) (vmId : VmId) :
    Context rotationCalls Failure (World × RotationLog) :=
  aloneOwing (logging (Serves S)) fun c s =>
    s.1.statusOf vmId ≠ some .rotating → c.closing = true

section rules

variable {S : Setting} {vmId : VmId} {α : Type} {c : RotationCall} {w : World} {log : RotationLog}
  {guarantee : RotationCall → World × RotationLog → Prop}

theorem holds_askRotation {Q : Except Failure c.Reply → World × RotationLog → Prop} :
    (aloneOwing (logging (Serves S)) guarantee).holds (askRotation c) Q (w, log) ↔
      guarantee c (w, log) ∧ ∀ r w', Serves S c w r w' → Q r (w', ⟨c, r⟩ :: log) := by
  unfold askRotation
  rw [holds_aloneOwing_perform, forall_logging]

variable {Q : Except Failure α → World × RotationLog → Prop}

theorem holds_askRotation_bind {f : c.Reply → RotationTask α} :
    (aloneOwing (logging (Serves S)) guarantee).holds (askRotation c >>= f) Q (w, log) ↔
      guarantee c (w, log) ∧ (∀ a w', Serves S c w (.ok a) w' →
          (aloneOwing (logging (Serves S)) guarantee).holds (f a) Q (w', ⟨c, .ok a⟩ :: log)) ∧
        ∀ e w', Serves S c w (.error e) w' → Q (.error e) (w', ⟨c, .error e⟩ :: log) := by
  rw [Context.holds_bind, holds_askRotation]
  refine and_congr_right fun _ => ?_
  constructor
  · exact fun h => ⟨fun a w' hserve => h (.ok a) w' hserve, fun e w' hserve => h (.error e) w' hserve⟩
  · rintro ⟨hok, herror⟩ (e | a) w' hserve
    · exact herror e w' hserve
    · exact hok a w' hserve

end rules

end ProxVM.Rotation
