import ProxVM.Db.Seeds
import ProxVM.Rotation.World

/-!
# Playing the calls of a rotation

A `Behaviour` says how the guest and the database treat the calls of a rotation, and
`World.play` serves calls by it, to exhibit runs in a sample installation with one
Linux VM.
-/

namespace ProxVM.Rotation

open Interaction

structure Behaviour where
  ssh : Bool × SshResult
  agent : Bool × Except Failure AgentExecResult
  reachable : Bool
  refuses : RotationCall → Bool

def unavailable : Failure := .other "unavailable"

def World.statement (w : World) (S : Setting) (refused : Bool) (next : World) :
    Option (Except Failure Unit × World) :=
  if refused then
    if S.vaultUp then none else some (.error unavailable, w)
  else
    some (.ok (), next)

def World.command {ρ : Type} (w : World) (S : Setting) (command : PasswordCommand) (effect : Bool)
    (reports : Bool) (r : Except Failure ρ) : Option (Except Failure ρ × World) :=
  if (S.faithful && (effect != reports)) || (reports && !effect) then
    none
  else if effect then
    some (r, { w with guest := w.guest.set command.username command.password })
  else
    some (r, w)

def World.play (S : Setting) (sealing : String → String) (b : Behaviour) :
    (c : RotationCall) → World → Option (Except Failure c.Reply × World)
  | .vmsRequireById id, w => some (requiredVm w.db id, w)
  | .vmsFindByIdKey vmid node, w => some (.ok (w.db.findVmByIdKey vmid node), w)
  | .credsFindByVm vmId, w => some (.ok (w.vault vmId), w)
  | .credsTryClaimRotation vmId, w =>
      some (.ok (w.vault.tryClaimRotation vmId).1,
        { w with vault := (w.vault.tryClaimRotation vmId).2 })
  | .credsSetStatus vmId status, w =>
      w.statement S (b.refuses (.credsSetStatus vmId status))
        { w with vault := w.vault.setStatus vmId status }
  | .credsUpdateRow id username ciphertext status, w =>
      if S.rollbacksLand ∧ status = .failed then
        none
      else
        w.statement S (b.refuses (.credsUpdateRow id username ciphertext status))
          { w with vault := w.vault.updateRow id username ciphertext status }
  | .credsInsert _ _ _ _, _ => none
  | .credsStampRotated id, w => w.statement S (b.refuses (.credsStampRotated id)) w
  | .credsMarkRotatedSuccess vmId, w =>
      w.statement S (b.refuses (.credsMarkRotatedSuccess vmId))
        { w with vault := w.vault.setStatus vmId .verified }
  | .encrypt plaintext, w =>
      if S.decrypt (sealing plaintext) = .ok plaintext then some (.ok (sealing plaintext), w) else none
  | .generatePassword, w => some (.ok "generated", w)
  | .runSshCommand target command, w =>
      w.command S command b.ssh.1 (Entry.reports ⟨.runSshCommand target command, .ok b.ssh.2⟩)
        (.ok b.ssh.2)
  | .startAgentExecAndWait node vmid command, w =>
      w.command S command b.agent.1
        (Entry.reports ⟨.startAgentExecAndWait node vmid command, b.agent.2⟩) b.agent.2
  | .probeSsh target, w =>
      some (.ok ⟨b.reachable && decide (w.guest.passwordOf target.username = some target.password),
        if b.reachable then "login" else "unreachable", none⟩, w)
  | .probeTcp _ _, w => some (.ok b.reachable, w)
  | .getProxmoxClient, w =>
      some (if b.refuses .getProxmoxClient then .error unavailable else .ok (), w)
  | .getGuacDb, w => some (.ok (), w)
  | .guacUpdateConnectionPassword _ _, w => some (.ok (), w)
  | .auditRecord _ _ _, w => some (.ok (), w)

variable {S : Setting} {sealing : String → String} {b : Behaviour} {w w' : World}

theorem takes_statement {refused : Bool} {next : World} {r : Except Failure Unit}
    (hplay : w.statement S refused next = some (r, w')) : Takes S.vaultUp w next r w' := by
  unfold World.statement at hplay
  cases refused with
  | false =>
      cases hplay
      exact .inl ⟨rfl, rfl⟩
  | true =>
      cases hup : S.vaultUp with
      | true => rw [hup] at hplay; cases hplay
      | false =>
          rw [hup] at hplay
          cases hplay
          exact .inr ⟨rfl, rfl, _, rfl⟩

theorem commanded_command {ρ : Type} {command : PasswordCommand} {effect reports : Bool}
    {r r' : Except Failure ρ} (hplay : w.command S command effect reports r = some (r', w')) :
    r' = r ∧ Commanded S w command reports w' ∧ (reports = true →
      w' = { w with guest := w.guest.set command.username command.password }) := by
  unfold World.command at hplay
  split at hplay
  · cases hplay
  · next hallowed =>
      rw [Bool.or_eq_true, not_or] at hallowed
      obtain ⟨hfaithful, hreports⟩ := hallowed
      have hsame : S.faithful = true → effect = reports := by
        intro hS
        simpa [hS] using hfaithful
      split at hplay
      · next heffect =>
          cases hplay
          exact ⟨rfl, ⟨true, rfl, fun hS => heffect.symm.trans (hsame hS)⟩, fun _ => rfl⟩
      · next heffect =>
          cases hplay
          have hfalse : effect = false := Bool.eq_false_iff.mpr heffect
          refine ⟨rfl, ⟨false, rfl, fun hS => hfalse.symm.trans (hsame hS)⟩, fun h => ?_⟩
          rw [h, hfalse] at hreports
          exact absurd rfl hreports

theorem serves_play {c : RotationCall} {r : Except Failure c.Reply}
    (hplay : World.play S sealing b c w = some (r, w')) : Serves S c w r w' := by
  cases c with
  | vmsRequireById id =>
      cases hplay
      exact ⟨rfl, .inl rfl⟩
  | vmsFindByIdKey vmid node =>
      cases hplay
      exact ⟨rfl, .inl rfl⟩
  | credsFindByVm vmId =>
      cases hplay
      exact ⟨rfl, .inl rfl⟩
  | credsTryClaimRotation vmId =>
      cases hplay
      exact .inl ⟨rfl, rfl⟩
  | credsSetStatus vmId status => exact takes_statement hplay
  | credsUpdateRow id username ciphertext status =>
      dsimp only [World.play] at hplay
      split at hplay
      · cases hplay
      · next hnot =>
          exact ⟨takes_statement hplay, fun hS hfailed => absurd ⟨hS, hfailed⟩ hnot⟩
  | credsInsert vmId username ciphertext status => cases hplay
  | credsStampRotated id => exact takes_statement hplay
  | credsMarkRotatedSuccess vmId => exact takes_statement hplay
  | encrypt plaintext =>
      dsimp only [World.play] at hplay
      split at hplay
      · next hseal =>
          cases hplay
          exact ⟨rfl, .inl ⟨_, rfl, hseal⟩⟩
      · cases hplay
  | generatePassword =>
      cases hplay
      exact rfl
  | runSshCommand target command =>
      obtain ⟨rfl, hcommanded, -⟩ := commanded_command hplay
      exact ⟨⟨_, rfl⟩, hcommanded⟩
  | startAgentExecAndWait node vmid command =>
      obtain ⟨rfl, hcommanded, heffect⟩ := commanded_command hplay
      exact ⟨hcommanded, heffect⟩
  | probeSsh target =>
      cases hplay
      refine ⟨rfl, _, rfl, fun hauth => ?_⟩
      exact of_decide_eq_true (Bool.and_eq_true_iff.mp hauth).2
  | probeTcp host port =>
      cases hplay
      exact ⟨rfl, _, rfl⟩
  | getProxmoxClient =>
      cases hplay
      exact rfl
  | getGuacDb =>
      cases hplay
      exact rfl
  | guacUpdateConnectionPassword vmId newPassword =>
      cases hplay
      exact rfl
  | auditRecord actor vmId detail =>
      cases hplay
      exact rfl

def World.playLogged (S : Setting) (sealing : String → String) (b : Behaviour) (c : RotationCall)
    (s : World × RotationLog) : Option (Except Failure c.Reply × World × RotationLog) :=
  (World.play S sealing b c s.1).map fun out => (out.1, out.2, ⟨c, out.1⟩ :: s.2)

theorem logging_playLogged {c : RotationCall} {s s' : World × RotationLog} {r : Except Failure c.Reply}
    (hplay : World.playLogged S sealing b c s = some (r, s')) : logging (Serves S) c s r s' := by
  obtain ⟨out, hout, heq⟩ := Option.map_eq_some_iff.mp hplay
  cases heq
  exact ⟨serves_play hout, rfl⟩

/-! ## A sample installation -/

def sampleVm : VmRow :=
  { id := 30, vmid := 500, node := "pve1", name := "web", status := .running, osType := some .linux,
    osName := none, ipAddress := some "10.0.0.5", ipStatic := false, createdByUserId := none,
    templateId := none, privacyFlag := false, deletedAt := none }

def sampleSeal (password : String) : String := "v1:" ++ password

def sampleDecrypt (stored : String) : Except Failure String :=
  if stored.startsWith "v1:" then
    .ok (String.ofList (stored.toList.drop 3))
  else
    .error (.app ⟨.configurationError, "Stored secret has an invalid format", 500⟩)

def sampleCredential (status : CredStatus) : VmCredentialRow :=
  { id := 1, vmId := 30, username := "admin", passwordCiphertext := "v1:old", keyId := "v1", status }

def sampleWorld (status : CredStatus) : World where
  db := { Db.empty with vms := ⟨[sampleVm], by decide⟩ }
  vault := fun vmId => if vmId = 30 then some (sampleCredential status) else none
  guest :=
    { passwordOf := fun account => if account = "admin" then some "old" else none
      changes := [("admin", "old")] }

/-- A rotation to the password `new`. -/
def sampleOptions : RotationOptions :=
  { newPassword := some "new", username := none, verify := none, force := false }

def sampleActor : RotationActor := ⟨10, "root"⟩

def silentChpasswd : Behaviour where
  ssh := (true, ⟨true, "command executed", some ""⟩)
  agent := (false, .error unavailable)
  reachable := true
  refuses := fun _ => false

end ProxVM.Rotation
