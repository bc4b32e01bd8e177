import ProxVM.Lib.ShellWords
import ProxVM.Lib.Solo
import ProxVM.Rotation.Rotate

/-!
# The commands of a rotation, as a shell reads them

Both mechanisms of a POSIX guest print `username:password` into `chpasswd`.
-/

namespace ProxVM.Rotation

open Interaction

/-! ## What is sent -/

def guestOf (windows : Prop) : Service rotationCalls Failure Unit
  | .vmsFindByIdKey _ _, _, r, _ => ∀ found, r = .ok found → (found.bind VmRow.osType = some .windows ↔ windows)
  | _, _, _, _ => True

abbrev posixGuest : Service rotationCalls Failure Unit := guestOf False

def Sends {α : Type} (serve : Service rotationCalls Failure Unit) (p : RotationTask α)
    (command : PasswordCommand) : Prop :=
  (∃ target, Makes serve p () (.runSshCommand target command) ()) ∨
    ∃ node vmid, Makes serve p () (.startAgentExecAndWait node vmid command) ()

/-- The text of which `chpasswd` shall read a line. -/
def entryOf (username password : String) : Shell.Text := username.toList ++ ':' :: password.toList

/-- `echo` with the text as its one argument. -/
def echoCommand (username password : String) : Shell.Command :=
  ⟨["echo".toList, entryOf username password], []⟩

/-- `chpasswd`. -/
def chpasswdCommand : Shell.Command := ⟨["chpasswd".toList], []⟩

/-- `sudo -n chpasswd 2>/dev/null`. -/
def sudoCommand : Shell.Command :=
  ⟨["sudo".toList, "-n".toList, "chpasswd".toList], [(some "2".toList, ">".toList, "/dev/null".toList)]⟩

def agentPipeline (username password : String) : Shell.CommandList :=
  ⟨[echoCommand username password, chpasswdCommand], []⟩

/-- The pipelines over SSH: with `sudo`, or else without it. -/
def sshPipelines (username password : String) : Shell.CommandList :=
  ⟨[echoCommand username password, sudoCommand],
    [(.orIf, [echoCommand username password, chpasswdCommand])]⟩

section commands

variable {host username oldPassword newPassword node : String} {vmid : Nat}

theorem shellQuote_ok (hplain : hasLineBreak username = false) :
    shellQuote username = .ok (String.ofList (Shell.escapeQuotes username.toList)) := by
  unfold shellQuote
  rw [if_neg (Bool.eq_false_iff.mp hplain)]
  rfl

theorem shellQuote_error (hbreak : hasLineBreak username = true) : ∃ e, shellQuote username = .error e := by
  unfold shellQuote
  rw [if_pos hbreak]
  exact ⟨_, rfl⟩

def quotedEntry (username password : String) : Shell.Text :=
  Shell.escapeQuotes username.toList ++ ':' :: Shell.escapeQuotes password.toList

theorem quotedEntry_eq : quotedEntry username newPassword =
    Shell.escapeQuotes (entryOf username newPassword) := by
  unfold quotedEntry entryOf Shell.escapeQuotes
  rw [List.flatMap_append, List.flatMap_cons]
  rfl

def sshText (username password : String) : Shell.Text :=
  "echo '".toList ++ (quotedEntry username password ++ ("' | sudo -n chpasswd 2>/dev/null || echo '".toList ++
    (quotedEntry username password ++ "' | chpasswd".toList)))

def agentText (username password : String) : Shell.Text :=
  "echo '".toList ++ (quotedEntry username password ++ "' | chpasswd".toList)

theorem tokens_entry {rest : Shell.Text} : Shell.tokens (.single []) (quotedEntry username newPassword ++ rest) =
    Shell.tokens (.single (entryOf username newPassword)) rest := by
  rw [quotedEntry_eq]
  exact Shell.tokens_quoted [] _ rest

def before (ts : List Shell.Token) (rest : Option (List Shell.Token)) : Option (List Shell.Token) :=
  ts.foldr (fun t rest => rest.map (t :: ·)) rest

theorem before_some (ts rest : List Shell.Token) : before ts (some rest) = some (ts ++ rest) := by
  induction ts with
  | nil => rfl
  | cons t ts ih =>
      change (before ts (some rest)).map (t :: ·) = _
      rw [ih]
      rfl

theorem tokens_echo (rest : Shell.Text) : Shell.tokens .blank ("echo '".toList ++ rest) =
    before [.word "echo".toList] (Shell.tokens (.single []) rest) := rfl

set_option maxRecDepth 2000 in
theorem tokens_sudo (entry rest : Shell.Text) :
    Shell.tokens (.single entry) ("' | sudo -n chpasswd 2>/dev/null || echo '".toList ++ rest) =
      before [.word entry, .op "|".toList, .word "sudo".toList, .word "-n".toList, .word "chpasswd".toList,
        .ioNumber "2".toList, .op ">".toList, .word "/dev/null".toList, .op "||".toList,
        .word "echo".toList] (Shell.tokens (.single []) rest) := (rfl)

theorem tokens_chpasswd (entry : Shell.Text) : Shell.tokens (.single entry) "' | chpasswd".toList =
    some [.word entry, .op "|".toList, .word "chpasswd".toList] := rfl

theorem commands_agentText :
    Shell.commands (agentText username newPassword) = some (agentPipeline username newPassword) := by
  unfold Shell.commands Shell.split agentText
  rw [tokens_echo, tokens_entry, tokens_chpasswd, before_some]
  rfl

theorem commands_sshText :
    Shell.commands (sshText username newPassword) = some (sshPipelines username newPassword) := by
  unfold Shell.commands Shell.split sshText
  rw [tokens_echo, tokens_entry, tokens_sudo, tokens_entry, tokens_chpasswd, before_some, before_some]
  rfl

/-! ## The programs -/

def SendsOnly (Q : PasswordCommand → Prop) : RotationCall → Prop
  | .runSshCommand _ command => Q command
  | .startAgentExecAndWait _ _ command => Q command
  | _ => True

variable {serve : Service rotationCalls Failure Unit} {command : PasswordCommand}
  {Q : PasswordCommand → Prop}

theorem Sends.of_makes {p : RotationTask MechanismResult} (hsends : Sends serve p command)
    (hp : ∀ c : RotationCall, Makes serve p () c () → SendsOnly Q c) : Q command := by
  obtain ⟨target, hmakes⟩ | ⟨node, vmid, hmakes⟩ := hsends
  · exact hp _ hmakes
  · exact hp _ hmakes

theorem quotation_eq (first last : String) (u p : Shell.Text) :
    first ++ String.ofList u ++ ":" ++ String.ofList p ++ last =
      String.ofList (first.toList ++ ((u ++ ':' :: p) ++ last.toList)) := by
  refine String.toList_inj.mp ?_
  simp only [String.toList_append, String.toList_ofList, List.append_assoc]
  rfl

theorem sshText_eq : "echo '" ++ (String.ofList (Shell.escapeQuotes username.toList) ++ ":" ++
      String.ofList (Shell.escapeQuotes newPassword.toList)) ++ "' | sudo -n chpasswd 2>/dev/null || echo '" ++
        (String.ofList (Shell.escapeQuotes username.toList) ++ ":" ++
          String.ofList (Shell.escapeQuotes newPassword.toList)) ++ "' | chpasswd" =
    String.ofList (sshText username newPassword) := by
  have hjoined : ∀ (first middle last : String) (u p : Shell.Text),
      first ++ (String.ofList u ++ ":" ++ String.ofList p) ++ middle ++ (String.ofList u ++ ":" ++ String.ofList p) ++
        last = String.ofList (first.toList ++ ((u ++ ':' :: p) ++ (middle.toList ++ ((u ++ ':' :: p) ++ last.toList)))) := by
    intro first middle last u p
    refine String.toList_inj.mp ?_
    simp only [String.toList_append, String.toList_ofList, List.append_assoc]
    rfl
  exact hjoined _ _ _ _ _

theorem agentText_eq : "echo '" ++ String.ofList (Shell.escapeQuotes username.toList) ++ ":" ++
      String.ofList (Shell.escapeQuotes newPassword.toList) ++ "' | chpasswd" =
    String.ofList (agentText username newPassword) :=
  quotation_eq _ _ _ _

def Quotable (username password : String) : Prop :=
  hasLineBreak username = false ∧ hasLineBreak password = false

instance (username password : String) : Decidable (Quotable username password) :=
  inferInstanceAs (Decidable (_ ∧ _))

theorem only_quoted {send : String → String → RotationTask MechanismResult}
    (hsend : Quotable username newPassword → Only (F := rotationCalls) (SendsOnly Q) (send
      (String.ofList (Shell.escapeQuotes username.toList))
      (String.ofList (Shell.escapeQuotes newPassword.toList)))) : Only (F := rotationCalls) (SendsOnly Q) (do
      let quotedName ← Prog.ofExcept (shellQuote username)
      let quotedPassword ← Prog.ofExcept (shellQuote newPassword)
      send quotedName quotedPassword) := by
  -- A line break in either value ends the program before anything is sent.
  cases hname : hasLineBreak username with
  | true =>
      obtain ⟨e, he⟩ := shellQuote_error hname
      rw [he]
      exact only_raise
  | false =>
      rw [shellQuote_ok hname]
      change Only (F := rotationCalls) (SendsOnly Q) (Prog.ofExcept (shellQuote newPassword) >>= _)
      cases hpassword : hasLineBreak newPassword with
      | true =>
          obtain ⟨e, he⟩ := shellQuote_error hpassword
          rw [he]
          exact only_raise
      | false =>
          rw [shellQuote_ok hpassword]
          exact hsend ⟨hname, hpassword⟩

theorem makes_rotateViaSsh (hsend : Quotable username newPassword →
      Q ⟨String.ofList (sshText username newPassword), username, newPassword⟩) (c : RotationCall)
    (hmakes : Makes serve (rotateViaSsh host username oldPassword newPassword) () c ()) : SendsOnly Q c := by
  refine hmakes.kind (only_quoted fun hquotable => ?_)
  dsimp only
  rw [sshText_eq]
  refine Only.bind (only_perform.mpr (hsend hquotable)) fun result => ?_
  exact Only.ite only_pure (Only.ite only_pure only_pure)

theorem only_execViaAgent (hsend : Q command) : Only (F := rotationCalls) (SendsOnly Q) (execViaAgent node vmid command) := by
  unfold execViaAgent
  refine Only.tryCatch (Only.bind (only_perform.mpr hsend) fun result => ?_) fun e => only_pure
  exact Only.ite only_pure only_pure

theorem makes_rotateViaGuestAgent (hsend : Quotable username newPassword →
      Q ⟨String.ofList (agentText username newPassword), username, newPassword⟩) (c : RotationCall)
    (hmakes : Makes posixGuest (rotateViaGuestAgent node vmid username newPassword) () c ()) :
    SendsOnly Q c := by
  unfold rotateViaGuestAgent at hmakes
  obtain hhere | ⟨found, s, hfound, hthere⟩ := hmakes.of_bind
  · rw [← (makes_perform hhere).1]
    trivial
  · have hposix : found.bind VmRow.osType = some .windows ↔ False := ends_perform.mp hfound found rfl
    rw [if_neg hposix.mp] at hthere
    refine hthere.kind (only_quoted fun hquotable => ?_)
    rw [agentText_eq]
    exact only_execViaAgent (hsend hquotable)

theorem sends_ssh_iff : Sends posixGuest (rotateViaSsh host username oldPassword newPassword) command ↔
    Quotable username newPassword ∧
      command = ⟨String.ofList (sshText username newPassword), username, newPassword⟩ := by
  constructor
  · intro hsends
    exact hsends.of_makes (Q := fun command => Quotable username newPassword ∧
      command = ⟨String.ofList (sshText username newPassword), username, newPassword⟩)
        (makes_rotateViaSsh fun hquotable => ⟨hquotable, rfl⟩)
  · rintro ⟨hquotable, rfl⟩
    refine .inl ⟨⟨some host, 22, username, oldPassword⟩, ?_⟩
    unfold rotateViaSsh
    rw [shellQuote_ok hquotable.1, shellQuote_ok hquotable.2, ← sshText_eq]
    exact .now

theorem sends_agent_iff : Sends posixGuest (rotateViaGuestAgent node vmid username newPassword) command ↔
    Quotable username newPassword ∧
      command = ⟨String.ofList (agentText username newPassword), username, newPassword⟩ := by
  constructor
  · intro hsends
    exact hsends.of_makes (Q := fun command => Quotable username newPassword ∧
      command = ⟨String.ofList (agentText username newPassword), username, newPassword⟩)
        (makes_rotateViaGuestAgent fun hquotable => ⟨hquotable, rfl⟩)
  · rintro ⟨hquotable, rfl⟩
    have hread : posixGuest (.vmsFindByIdKey vmid node) () (.ok none) () := by
      intro found hfound
      cases hfound
      exact iff_of_false (fun hnone => by cases hnone) id
    refine .inr ⟨node, vmid, ?_⟩
    unfold rotateViaGuestAgent
    rw [shellQuote_ok hquotable.1, shellQuote_ok hquotable.2, ← agentText_eq]
    exact .later hread .now

end commands

/-- **The commands are injection-free**: the shell reads the pipelines that are meant, and no command has a
value with a line break in it. -/
theorem password_commands_exact (host username oldPassword newPassword node : String) (vmid : Nat) :
    (hasLineBreak username = false ∧ hasLineBreak newPassword = false →
      (∃ command, Sends posixGuest (rotateViaSsh host username oldPassword newPassword) command) ∧
      (∃ command, Sends posixGuest (rotateViaGuestAgent node vmid username newPassword) command) ∧
      (∀ command, Sends posixGuest (rotateViaSsh host username oldPassword newPassword) command →
        Shell.commands command.text.toList = some (sshPipelines username newPassword)) ∧
      ∀ command, Sends posixGuest (rotateViaGuestAgent node vmid username newPassword) command →
        Shell.commands command.text.toList = some (agentPipeline username newPassword)) ∧
    (hasLineBreak username = true ∨ hasLineBreak newPassword = true → ∀ command,
      ¬ Sends posixGuest (rotateViaSsh host username oldPassword newPassword) command ∧
        ¬ Sends posixGuest (rotateViaGuestAgent node vmid username newPassword) command) := by
  refine ⟨fun hquotable => ⟨⟨_, sends_ssh_iff.mpr ⟨hquotable, rfl⟩⟩,
    ⟨_, sends_agent_iff.mpr ⟨hquotable, rfl⟩⟩, fun command hsends => ?_, fun command hsends => ?_⟩,
    fun hbreak command => ?_⟩
  · obtain ⟨-, rfl⟩ := sends_ssh_iff.mp hsends
    rw [String.toList_ofList]
    exact commands_sshText
  · obtain ⟨-, rfl⟩ := sends_agent_iff.mp hsends
    rw [String.toList_ofList]
    exact commands_agentText
  · have hnot : ¬ Quotable username newPassword := by
      rintro ⟨hname, hpassword⟩
      obtain h | h := hbreak
      · cases hname.symm.trans h
      · cases hpassword.symm.trans h
    exact ⟨fun hsends => hnot (sends_ssh_iff.mp hsends).1, fun hsends => hnot (sends_agent_iff.mp hsends).1⟩

/-! ## What `chpasswd` reads -/

end ProxVM.Rotation
