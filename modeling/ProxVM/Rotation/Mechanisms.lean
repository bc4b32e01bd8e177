import ProxVM.Rotation.World

/-!
# The mechanisms of a rotation

What an attempt to set a password leaves, from a world in which the VM's row is
`ROTATING`: the commands that took effect, and whether the log shows a success.
-/

namespace ProxVM.Rotation

open Interaction Context

variable {S : Setting} {vmId : VmId} {w : World} {log : RotationLog}

def World.setTimes (w : World) (username password : String) (n : Nat) : World :=
  { w with guest := w.guest.setTimes username password n }

@[simp] theorem World.setTimes_vault (username password : String) (n : Nat) :
    (w.setTimes username password n).vault = w.vault := rfl

@[simp] theorem World.statusOf_setTimes (username password : String) (n : Nat) :
    (w.setTimes username password n).statusOf vmId = w.statusOf vmId := rfl

theorem World.setTimes_add (username password : String) (m n : Nat) :
    (w.setTimes username password m).setTimes username password n = w.setTimes username password (m + n) := by
  unfold World.setTimes
  rw [GuestAccounts.setTimes_add]

/-! ## The mechanisms -/

structure Tried (S : Setting) (username password : String) (firm : Bool) (w : World)
    (log : RotationLog) (success : Bool) (w' : World) (log' : RotationLog) (n : Nat) : Prop where
  world : w' = w.setTimes username password n
  reports : reported log' = (reported log || success)
  quiet : Quiet log → Quiet log'
  faithful : S.faithful = true → n = success.toNat
  effect : firm = true → success = true → n ≠ 0

def succeeded : Except Failure MechanismResult → Bool
  | .ok result => result.success
  | .error _ => false

def AttemptEnd (S : Setting) (username password : String) (firm : Bool) (w : World)
    (log : RotationLog) (r : Except Failure MechanismResult) (s : World × RotationLog) : Prop :=
  ∃ n, Tried S username password firm w log (succeeded r) s.1 s.2 n

variable {firm : Bool} {e : Entry}

theorem Tried.refl {username password : String} : Tried S username password firm w log false w log 0 where
  world := rfl
  reports := (Bool.or_false _).symm
  quiet := id
  faithful := fun _ => rfl
  effect := fun _ h => absurd h Bool.false_ne_true

theorem Tried.trans {username password : String} {firm firm' success : Bool} {w₁ w₂ : World}
    {log₁ log₂ : RotationLog} {m n : Nat} (h₁ : Tried S username password firm' w log false w₁ log₁ m)
    (h₂ : Tried S username password firm w₁ log₁ success w₂ log₂ n) :
    Tried S username password firm w log success w₂ log₂ (m + n) where
  world := by rw [h₂.world, h₁.world, World.setTimes_add]
  reports := by rw [h₂.reports, h₁.reports, Bool.or_false]
  quiet := fun h => h₂.quiet (h₁.quiet h)
  faithful := by
    intro hS
    have hm : m = 0 := h₁.faithful hS
    rw [hm, Nat.zero_add]
    exact h₂.faithful hS
  effect := by
    intro hfirm hsuccess
    have hn := h₂.effect hfirm hsuccess
    omega

theorem Tried.of_plain {username password : String} (he : e.Plain)
    (hreports : e.reports = false) : Tried S username password firm w log false w (e :: log) 0 where
  world := rfl
  reports := by rw [reported_cons, hreports, Bool.false_or, Bool.or_false]
  quiet := fun h => h.cons he
  faithful := fun _ => rfl
  effect := fun _ h => absurd h Bool.false_ne_true

theorem Tried.of_commanded (log : RotationLog) (firm : Bool) {command : PasswordCommand}
    {w' : World} (he : e.Plain) (hcommanded : Commanded S w command e.reports w')
    (heffect : firm = true → e.reports = true →
      w' = { w with guest := w.guest.set command.username command.password }) :
    ∃ n, Tried S command.username command.password firm w log e.reports w' (e :: log) n := by
  obtain ⟨effect, hw', hfaithful⟩ := hcommanded
  have hreports : reported (e :: log) = (reported log || e.reports) := by
    rw [reported_cons, Bool.or_comm]
  cases effect with
  | true =>
      refine ⟨1, hw', hreports, fun h => h.cons he, ?_, fun _ _ => Nat.one_ne_zero⟩
      intro hS
      rw [← hfaithful hS]
      rfl
  | false =>
      refine ⟨0, hw', hreports, fun h => h.cons he, ?_, ?_⟩
      · intro hS
        rw [← hfaithful hS]
        rfl
      · -- the command took effect after all, which `changes` would show
        intro hfirm hsuccess
        have hset := heffect hfirm hsuccess
        rw [hw'] at hset
        have hlength := congrArg (fun w : World => w.guest.changes.length) hset
        simp [GuestAccounts.set] at hlength

section mechanisms

variable {host username oldPassword newPassword node : String} {vmid : Nat}

theorem mayCall {c : RotationCall} (hrotating : w.statusOf vmId = some .rotating) :
    w.statusOf vmId ≠ some .rotating → c.closing = true :=
  fun hne => absurd hrotating hne

theorem holds_rotateViaSsh (hrotating : w.statusOf vmId = some .rotating) :
    (claimed S vmId).holds (rotateViaSsh host username oldPassword newPassword)
      (AttemptEnd S username newPassword false w log) (w, log) := by
  unfold rotateViaSsh
  rw [holds_bind, holds_ofExcept]
  cases shellQuote username with
  | error e => exact ⟨0, .refl⟩
  | ok quotedName =>
      change (claimed S vmId).holds (_ >>= _) _ _
      rw [holds_bind, holds_ofExcept]
      cases shellQuote newPassword with
      | error e => exact ⟨0, .refl⟩
      | ok quotedPassword =>
          refine holds_askRotation_bind.mpr ⟨mayCall hrotating, ?_, ?_⟩
          · rintro result w' ⟨-, hcommanded⟩
            obtain ⟨n, htried⟩ := Tried.of_commanded log false ⟨rfl, rfl, rfl⟩
              hcommanded fun h => absurd h Bool.false_ne_true
            refine holds_ite.mpr ⟨fun hauth => ⟨n, ?_⟩, fun hauth => holds_ite.mpr
              ⟨fun hout => ⟨n, ?_⟩, fun hout => ⟨n, ?_⟩⟩⟩
            · simpa [succeeded, Entry.reports, hauth] using htried
            · simpa [succeeded, Entry.reports, hout] using htried
            · simpa [succeeded, Entry.reports, not_not.mp hauth, not_not.mp hout] using htried
          · rintro e w' ⟨⟨result, hresult⟩, -⟩
            cases hresult

theorem holds_execViaAgent (firm : Bool) {command : PasswordCommand}
    (hrotating : w.statusOf vmId = some .rotating) : (claimed S vmId).holds (execViaAgent node vmid command)
      (AttemptEnd S command.username command.password firm w log) (w, log) := by
  unfold execViaAgent
  rw [holds_tryCatch]
  refine holds_askRotation_bind.mpr ⟨mayCall hrotating, ?_, ?_⟩
  · rintro result w' ⟨hcommanded, heffect⟩
    obtain ⟨n, htried⟩ := Tried.of_commanded log firm ⟨rfl, rfl, rfl⟩
      hcommanded fun _ => heffect
    refine holds_ite.mpr ⟨fun hexit => ⟨n, ?_⟩, fun hexit => ⟨n, ?_⟩⟩
    · simpa [succeeded, Entry.reports, hexit] using htried
    · simpa [succeeded, Entry.reports, not_not.mp hexit] using htried
  · rintro e w' ⟨hcommanded, heffect⟩
    exact Tried.of_commanded log firm ⟨rfl, rfl, rfl⟩ hcommanded fun _ => heffect

theorem holds_rotateViaGuestAgent (firm : Bool) (hrotating : w.statusOf vmId = some .rotating) :
    (claimed S vmId).holds (rotateViaGuestAgent node vmid username newPassword)
      (AttemptEnd S username newPassword firm w log) (w, log) := by
  have hplain : ∀ r, Entry.Plain ⟨.vmsFindByIdKey vmid node, r⟩ := fun _ => ⟨rfl, rfl, rfl⟩
  have hquietRead : ∀ r, Entry.reports ⟨.vmsFindByIdKey vmid node, r⟩ = false := fun _ => rfl
  unfold rotateViaGuestAgent
  refine holds_askRotation_bind.mpr ⟨mayCall hrotating, ?_, ?_⟩
  · rintro found w' ⟨hw, -⟩
    subst w'
    have hread : Tried S username newPassword false w log false w
        (⟨.vmsFindByIdKey vmid node, .ok found⟩ :: log) 0 := .of_plain (hplain _) (hquietRead _)
    have hexec : ∀ text, (claimed S vmId).holds (execViaAgent node vmid ⟨text, username, newPassword⟩)
        (AttemptEnd S username newPassword firm w log)
        (w, ⟨.vmsFindByIdKey vmid node, .ok found⟩ :: log) := by
      intro text
      refine holds_mono (holds_execViaAgent firm hrotating) ?_
      rintro r s ⟨n, htried⟩
      exact ⟨0 + n, hread.trans htried⟩
    have hnothing : ∃ n, Tried S username newPassword firm w log false w
        (⟨.vmsFindByIdKey vmid node, .ok found⟩ :: log) n :=
      ⟨0, .of_plain (hplain _) (hquietRead _)⟩
    refine holds_ite.mpr ⟨fun _ => ?_, fun _ => ?_⟩
    · cases windowsPasswordError newPassword <|> windowsUsernameError username with
      | some problem => exact hnothing
      | none => exact hexec _
    · rw [holds_bind, holds_ofExcept]
      cases shellQuote username with
      | error e => exact hnothing
      | ok quotedName =>
          change (claimed S vmId).holds (_ >>= _) _ _
          rw [holds_bind, holds_ofExcept]
          cases shellQuote newPassword with
          | error e => exact hnothing
          | ok quotedPassword => exact hexec _
  · rintro e w' ⟨hw, -⟩
    subst w'
    exact ⟨0, .of_plain (hplain _) (hquietRead _)⟩

theorem holds_firstSuccess {firm : Bool} {list : List (RotationTask MechanismResult)}
    (hlist : ∀ attempt ∈ list, ∀ w log, w.statusOf vmId = some .rotating →
      (claimed S vmId).holds attempt (AttemptEnd S username newPassword firm w log) (w, log))
    (hrotating : w.statusOf vmId = some .rotating) :
    (claimed S vmId).holds (firstSuccess list) (fun r s => ∃ found n, r = .ok found ∧
      Tried S username newPassword firm w log found.isSome s.1 s.2 n) (w, log) := by
  induction list generalizing w log with
  | nil => exact ⟨none, 0, rfl, .refl⟩
  | cons attempt rest ih =>
      have hrest : ∀ {s : World × RotationLog} {m : Nat},
          Tried S username newPassword firm w log false s.1 s.2 m →
          (claimed S vmId).holds (firstSuccess rest) (fun r s' => ∃ found n, r = .ok found ∧
            Tried S username newPassword firm w log found.isSome s'.1 s'.2 n) s := by
        rintro ⟨w₁, log₁⟩ m htried
        have hrotating₁ : w₁.statusOf vmId = some .rotating := by
          have hw₁ : w₁ = w.setTimes username newPassword m := htried.world
          rw [hw₁, World.statusOf_setTimes]
          exact hrotating
        refine holds_mono (ih (fun a ha => hlist a (List.mem_cons_of_mem _ ha)) hrotating₁) ?_
        rintro r s ⟨found, n, rfl, htried'⟩
        exact ⟨found, m + n, rfl, htried.trans htried'⟩
      unfold firstSuccess
      rw [holds_bind, holds_tryCatch, holds_bind]
      refine holds_mono (hlist attempt List.mem_cons_self w log hrotating) ?_
      rintro r s ⟨n, htried⟩
      cases r with
      | error e => exact hrest htried
      | ok result =>
          refine holds_ite.mpr ⟨fun hsuccess => ?_, fun hfailure => ?_⟩
          · refine ⟨some result, n, rfl, ?_⟩
            simpa [succeeded, hsuccess] using htried
          · refine hrest (m := n) ?_
            simpa [succeeded, hfailure] using htried

end mechanisms

end ProxVM.Rotation
