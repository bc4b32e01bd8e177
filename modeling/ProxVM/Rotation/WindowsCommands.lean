import ProxVM.Lib.WindowsArgs
import ProxVM.Rotation.ShellCommands

/-!
# The command of a rotation, as Windows reads it

`windowsUsernameError` and `windowsPasswordError` look at the user name and the password one by one; the
command of the guest agent puts both between quotes on one line.
-/

namespace ProxVM.Rotation

open Interaction WindowsArgs

abbrev windowsGuest : Service rotationCalls Failure Unit := guestOf True

def windowsText (username password : String) : WindowsArgs.Text :=
  "net user \"".toList ++ (username.toList ++ ("\" \"".toList ++ (password.toList ++ ['"'])))

section arguments

variable {username newPassword node : String} {vmid : Nat} {command : PasswordCommand}

theorem quote_open : "net user \"".toList = "net user ".toList ++ "\"".toList := by decide

theorem quote_between : "\" \"".toList = "\"".toList ++ (" ".toList ++ "\"".toList) := by decide

theorem quote_close : ['"'] = "\"".toList := by decide

theorem windowsText_eq : "net user " ++ quoteWindowsArg username ++ " " ++ quoteWindowsArg newPassword =
    String.ofList (windowsText username newPassword) := by
  refine String.toList_inj.mp ?_
  rw [String.toList_ofList]
  unfold quoteWindowsArg windowsText
  rw [quote_open, quote_between, quote_close]
  simp only [String.toList_append, List.append_assoc]

def Accepted (username password : String) : Prop :=
  windowsPasswordError password = none ∧ windowsUsernameError username = none

instance (username password : String) : Decidable (Accepted username password) :=
  inferInstanceAs (Decidable (_ ∧ _))

theorem plain_of_breaksQuotes {value : String} (hplain : breaksQuotes value = false) : '"' ∉ value.toList := by
  intro hmem
  obtain ⟨hany, -⟩ := Bool.or_eq_false_iff.mp hplain
  exact List.any_eq_false.mp hany '"' hmem (by decide)

theorem count_of_wrapsPercent {value : String} (hplain : wrapsPercent value = false) :
    value.toList.count '%' ≤ 1 :=
  Nat.le_of_lt_succ (Nat.lt_of_not_le (of_decide_eq_false hplain))

theorem Accepted.plain (haccepted : Accepted username newPassword) :
    ('"' ∉ username.toList ∧ username.toList.count '%' ≤ 1) ∧
      '"' ∉ newPassword.toList ∧ newPassword.toList.count '%' ≤ 1 := by
  obtain ⟨hpassword, hname⟩ := haccepted
  unfold windowsPasswordError at hpassword
  unfold windowsUsernameError at hname
  split at hname
  · cases hname
  · next hquotes =>
      split at hname
      · cases hname
      · next hpercent =>
          split at hpassword
          · cases hpassword
          · next hquotes' =>
              split at hpassword
              · cases hpassword
              · next hpercent' =>
                  have hwraps := (Bool.or_eq_false_iff.mp (Bool.eq_false_iff.mpr hpercent)).1
                  exact ⟨⟨plain_of_breaksQuotes (Bool.eq_false_iff.mpr hquotes), count_of_wrapsPercent hwraps⟩,
                    plain_of_breaksQuotes (Bool.eq_false_iff.mpr hquotes'),
                    count_of_wrapsPercent (Bool.eq_false_iff.mpr hpercent')⟩

theorem orElse_eq_none_iff {α : Type} {a b : Option α} : (a <|> b) = none ↔ a = none ∧ b = none := by
  cases a with
  | none => exact ⟨fun h => ⟨rfl, h⟩, And.right⟩
  | some a => exact iff_of_false (fun h => by cases h) fun h => by cases h.1

theorem sends_windows_iff : Sends windowsGuest (rotateViaGuestAgent node vmid username newPassword) command ↔
      Accepted username newPassword ∧
        command = ⟨String.ofList (windowsText username newPassword), username, newPassword⟩ := by
  constructor
  · intro hsends
    refine hsends.of_makes (Q := fun command => Accepted username newPassword ∧
      command = ⟨String.ofList (windowsText username newPassword), username, newPassword⟩) fun c hmakes => ?_
    unfold rotateViaGuestAgent at hmakes
    obtain hhere | ⟨found, s, hfound, hthere⟩ := hmakes.of_bind
    · rw [← (makes_perform hhere).1]
      trivial
    · have hwindows : found.bind VmRow.osType = some .windows ↔ True := ends_perform.mp hfound found rfl
      rw [if_pos (hwindows.mpr trivial)] at hthere
      -- The first problem that a validator finds ends the program.
      cases hproblem : (windowsPasswordError newPassword <|> windowsUsernameError username) with
      | some problem =>
          rw [hproblem] at hthere
          cases hthere
      | none =>
          rw [hproblem, windowsText_eq] at hthere
          exact hthere.kind (only_execViaAgent ⟨orElse_eq_none_iff.mp hproblem, rfl⟩)
  · rintro ⟨⟨hpassword, hname⟩, rfl⟩
    let vm : VmRow := { (default : VmRow) with osType := some .windows }
    have hread : windowsGuest (.vmsFindByIdKey vmid node) () (.ok (some vm)) () := by
      intro found hfound
      cases hfound
      exact iff_of_true rfl trivial
    refine .inr ⟨node, vmid, ?_⟩
    unfold rotateViaGuestAgent
    rw [hpassword, hname, windowsText_eq]
    exact .later hread .now

def netArguments (username password : String) : List WindowsArgs.Text :=
  ["net".toList, "user".toList, username.toList, password.toList]

theorem argv_windowsText_iff (hname : '"' ∉ username.toList) (hpassword : '"' ∉ newPassword.toList) :
    argv (windowsText username newPassword) = netArguments username newPassword ↔
      ¬ EndsWithSlash username.toList ∧ ¬ EndsWithSlash newPassword.toList := by
  rw [← args_pair_iff hname hpassword]
  have hline : argv (windowsText username newPassword) = "net".toList :: "user".toList ::
      args .between ('"' :: (username.toList ++ '"' :: ' ' :: '"' :: (newPassword.toList ++ ['"']))) := rfl
  rw [hline]
  exact ⟨fun h => (List.cons.inj (List.cons.inj h).2).2, fun h => congrArg (fun l => _ :: _ :: l) h⟩

theorem expands_windowsText_iff (hname : username.toList.count '%' ≤ 1)
    (hpassword : newPassword.toList.count '%' ≤ 1) :
    Expands (windowsText username newPassword) ↔ '%' ∈ username.toList ∧ '%' ∈ newPassword.toList :=
  expands_iff (by decide) (by decide) (by decide) (by decide) hname hpassword

end arguments

/-- **Windows gets what is meant**, and `cmd.exe` expands nothing in it, exactly if a validator refuses the
request, or neither value ends with a backslash and not both have a percent sign. -/
theorem windows_arguments_iff (node : String) (vmid : Nat) (username newPassword : String) :
    (∀ command, Sends windowsGuest (rotateViaGuestAgent node vmid username newPassword) command →
      ¬ Expands command.text.toList ∧ argv command.text.toList = netArguments username newPassword) ↔
      windowsPasswordError newPassword ≠ none ∨ windowsUsernameError username ≠ none ∨
        ¬ EndsWithSlash username.toList ∧ ¬ EndsWithSlash newPassword.toList ∧
          ¬ ('%' ∈ username.toList ∧ '%' ∈ newPassword.toList) := by
  by_cases haccepted : Accepted username newPassword
  · obtain ⟨⟨hquotes, hpercent⟩, hquotes', hpercent'⟩ := haccepted.plain
    have hsent : (∀ command, Sends windowsGuest (rotateViaGuestAgent node vmid username newPassword) command →
        ¬ Expands command.text.toList ∧ argv command.text.toList = netArguments username newPassword) ↔
          ¬ Expands (windowsText username newPassword) ∧
            argv (windowsText username newPassword) = netArguments username newPassword := by
      constructor
      · intro hlaw
        have hcommand := hlaw _ (sends_windows_iff.mpr ⟨haccepted, rfl⟩)
        rw [String.toList_ofList] at hcommand
        exact hcommand
      · rintro hlaw command hsends
        obtain ⟨-, rfl⟩ := sends_windows_iff.mp hsends
        rw [String.toList_ofList]
        exact hlaw
    rw [hsent, expands_windowsText_iff hpercent hpercent', argv_windowsText_iff hquotes hquotes']
    constructor
    · exact fun ⟨hexpands, hname, hpassword⟩ => .inr (.inr ⟨hname, hpassword, hexpands⟩)
    · rintro (hproblem | hproblem | ⟨hname, hpassword, hexpands⟩)
      · exact absurd haccepted.1 hproblem
      · exact absurd haccepted.2 hproblem
      · exact ⟨hexpands, hname, hpassword⟩
  · refine iff_of_true (fun command hsends => absurd (sends_windows_iff.mp hsends).1 haccepted) ?_
    obtain hproblem | hproblem := not_and_or.mp haccepted
    · exact .inl hproblem
    · exact .inr (.inl hproblem)

/-- A password that ends with a backslash, and percent signs in both values. -/
theorem windows_arguments_misread :
    (¬ ∀ (node : String) (vmid : Nat) (username newPassword : String) (command : PasswordCommand),
      Sends windowsGuest (rotateViaGuestAgent node vmid username newPassword) command →
        argv command.text.toList = netArguments username newPassword) ∧
      ¬ ∀ (node : String) (vmid : Nat) (username newPassword : String) (command : PasswordCommand),
        Sends windowsGuest (rotateViaGuestAgent node vmid username newPassword) command →
          ¬ Expands command.text.toList := by
  constructor
  · intro hlaw
    have haccepted : Accepted "admin" "Secret-pass1\\" := by decide
    have hargs := hlaw "pve1" 100 "admin" "Secret-pass1\\" _ (sends_windows_iff.mpr ⟨haccepted, rfl⟩)
    rw [String.toList_ofList, argv_windowsText_iff haccepted.plain.1.1 haccepted.plain.2.1] at hargs
    exact hargs.2 (by decide)
  · intro hlaw
    have haccepted : Accepted "50%" "Secret-100%x" := by decide
    have hexpands := hlaw "pve1" 100 "50%" "Secret-100%x" _ (sends_windows_iff.mpr ⟨haccepted, rfl⟩)
    rw [String.toList_ofList, expands_windowsText_iff haccepted.plain.1.2 haccepted.plain.2.2] at hexpands
    exact hexpands (by decide)

end ProxVM.Rotation
