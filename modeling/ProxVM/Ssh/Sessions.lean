import Mathlib.Data.List.Infix
import ProxVM.Lib.Moments
import ProxVM.Ssh.HostKeys

/-!
# Calls over SSH

`probeSsh` and `runSshCommand` of `ssh/client.ts` as machines: what the timer and the callbacks
of the connection do, in any order in which they come.
-/

namespace ProxVM.Ssh

open Machine

/-! ## The state of a call -/

inductive SshStatus
  | authenticated
  | authFailed
  | connectionFailed
  deriving DecidableEq, Repr

structure SshResult where
  status : SshStatus
  detail : String
  output : Option String := none
  deriving DecidableEq, Repr

inductive Gate
  | waiting
  | asked (presented : Option PresentedKey)
  | answered
  deriving DecidableEq, Repr

inductive Channel
  | none
  | called
  | opened (stdout stderr : String)
  | closed
  deriving DecidableEq, Repr

/-- A call of `probeSsh` or `runSshCommand`. -/
structure Session where
  timeout : Bool := true
  ended : Bool := false
  verifying : Bool := false
  presented : Option PresentedKey := none
  policyFailure : Option String := none
  gate : Gate := .waiting
  channel : Channel := .none
  issued : List String := []
  result : Option SshResult := none
  deriving DecidableEq, Repr

namespace Session

/-- `clearTimeout(timeout)`. -/
def clearTimeout (s : Session) : Session := { s with timeout := false }

/-- `client.end()`. -/
def endClient (s : Session) : Session := { s with ended := true }

/-- `client.exec(command, …)`. -/
def exec (s : Session) (command : String) : Session :=
  { s with channel := .called, issued := s.issued ++ [command] }

/-- `resolve(result)`: only the first one counts. -/
def resolve (s : Session) (result : SshResult) : Session := { s with result := some (s.result.getD result) }

variable (s : Session) (result : SshResult) (command : String)

end Session

/-! ## Events -/

inductive SshEvent
  | timer
  | keyExchange (key : PresentedKey)
  | decided (reply : Option HostKeyDecision)
  | ready
  | confirmed (reply : Except (Option String) HostKeyDecision)
  | execCallback (err : Option String)
  | data (text : String)
  | stderrData (text : String)
  | close
  | error (message : String)
  deriving DecidableEq

def verifierFailure : Option HostKeyDecision → Option String
  | some d => if d.accept then none else some (d.detail.getD "SSH host key verification failed")
  | none => some "SSH host key verification failed"

/-- `afterAuthenticated`, from the reply of `policy.confirm`: the refusal, if there is one. -/
def gateRefusal (hostKey : Bool) (presented : Option PresentedKey)
    (reply : Except (Option String) HostKeyDecision) : Option String :=
  if !hostKey then none else
    match presented with
    | none => some "SSH host key was not presented during the handshake; refusing connection"
    | some _ =>
        match reply with
        | .ok verdict =>
            if verdict.accept then none else some (verdict.detail.getD "SSH host key verification failed")
        | .error message => some (message.getD "SSH host key could not be verified")

def mentions (phrases : List String) (message : String) : Bool :=
  phrases.any fun phrase =>
    decide (phrase.toList.map Char.toLower <:+: message.toList.map Char.toLower)

structure Handlers where
  timedOut : String
  onAccepted : Session → Session
  onExecFailed : String → Session → Session
  onClose : String → String → Session → Session
  authFailures : List String

/-- `.on("error", …)`.  It leaves the client as it is. -/
def onError (authFailures : List String) (message : String) (s : Session) : Session :=
  match s.policyFailure.filter (· ≠ "") with
  | some detail => s.clearTimeout.resolve { status := .connectionFailed, detail }
  | none =>
      if mentions authFailures message then s.clearTimeout.resolve { status := .authFailed, detail := message }
      else s.clearTimeout.resolve { status := .connectionFailed, detail := message }

def onVerdict (h : Handlers) (refusal : Option String) (s : Session) : Session :=
  match refusal with
  | some detail => s.clearTimeout.endClient.resolve { status := .connectionFailed, detail }
  | none => h.onAccepted s

/-- What an event does, if it can happen: a timer that is not set does not fire, and a callback is called only if it
has been handed over. -/
def Handlers.step (h : Handlers) (hostKey : Bool) (s : Session) : SshEvent → Option Session
  | .timer =>
      if s.timeout then
        some (s.clearTimeout.endClient.resolve { status := .connectionFailed, detail := h.timedOut })
      else none
  | .keyExchange key =>
      -- `baseConnectConfig` has a verifier only if there is a policy
      if hostKey && !s.verifying then some { s with verifying := true, presented := some key } else none
  | .decided reply =>
      if s.verifying then
        some { s with verifying := false, policyFailure := verifierFailure reply <|> s.policyFailure }
      else none
  | .ready =>
      match s.gate with
      | .waiting => some { s with gate := .asked s.presented }
      | _ => none
  | .confirmed reply =>
      match s.gate with
      | .asked presented => some (onVerdict h (gateRefusal hostKey presented reply) { s with gate := .answered })
      | _ => none
  | .execCallback err =>
      match s.channel, err with
      | .called, some message => some (h.onExecFailed message { s with channel := .closed })
      | .called, none => some { s with channel := .opened "" "" }
      | _, _ => none
  | .data text =>
      match s.channel with
      | .opened stdout stderr => some { s with channel := .opened (stdout ++ text) stderr }
      | _ => none
  | .stderrData text =>
      match s.channel with
      | .opened stdout stderr => some { s with channel := .opened stdout (stderr ++ text) }
      | _ => none
  | .close =>
      match s.channel with
      | .opened stdout stderr => some (h.onClose stdout stderr { s with channel := .closed })
      | _ => none
  | .error message => some (onError h.authFailures message s)

/-- `probeSsh`.  The timer is cleared before the command; what the command says on `stderr` is not read. -/
def probeSsh : Handlers where
  timedOut := "SSH connection timed out"
  onAccepted s := s.clearTimeout.exec "echo proxvm-ok"
  onExecFailed _ s :=
    s.endClient.resolve { status := .authenticated, detail := "authentication succeeded; exec failed" }
  onClose stdout _ s :=
    s.endClient.resolve
      { status := .authenticated, detail := "authentication succeeded", output := (trimmed (some stdout)).getD "" }
  authFailures :=
    ["authentication failed", "All configured authentication methods failed", "Too many authentication failures"]

def runSshCommand (command : String) : Handlers where
  timedOut := "SSH command timed out"
  onAccepted s := s.exec command
  onExecFailed message s :=
    s.clearTimeout.endClient.resolve { status := .authenticated, detail := "exec failed: " ++ message }
  onClose stdout stderr s :=
    s.clearTimeout.endClient.resolve
      { status := .authenticated, detail := "command executed", output := if stdout = "" then stderr else stdout }
  authFailures := ["authentication failed", "All configured authentication methods failed"]

/-! ## Every moment of a run -/

/-- At the end of the moment the timer is set unless there is a result, and where there was one before nothing is
issued. -/
def SafeAt (m : Moment Session SshEvent) : Prop :=
  (m.after.result = none → m.after.timeout = true) ∧
    (m.before.result ≠ none → m.after.issued = m.before.issued)

def AcceptedAt (hostKey : Bool) (m : Moment Session SshEvent) : Prop :=
  ∃ presented reply, m.before.gate = .asked presented ∧ m.event = .confirmed reply ∧
    gateRefusal hostKey presented reply = none

def Session.Waits (s : Session) : Prop := s.result = none → s.timeout = true

section moments

variable {h : Handlers} {hostKey : Bool} {m : Moment Session SshEvent} {s s' : Session} {event : SshEvent}

structure Handlers.Resolves (h : Handlers) : Prop where
  onExecFailed : ∀ message s, (h.onExecFailed message s).result ≠ none ∧
    (h.onExecFailed message s).issued = s.issued
  onClose : ∀ stdout stderr s, (h.onClose stdout stderr s).result ≠ none ∧
    (h.onClose stdout stderr s).issued = s.issued

theorem probeSsh_resolves : probeSsh.Resolves where
  onExecFailed _ _ := ⟨Option.some_ne_none _, rfl⟩
  onClose _ _ _ := ⟨Option.some_ne_none _, rfl⟩

theorem runSshCommand_resolves (command : String) : (runSshCommand command).Resolves where
  onExecFailed _ _ := ⟨Option.some_ne_none _, rfl⟩
  onClose _ _ _ := ⟨Option.some_ne_none _, rfl⟩

theorem onError_resolves (authFailures : List String) (message : String) (s : Session) :
    (onError authFailures message s).result ≠ none ∧ (onError authFailures message s).issued = s.issued := by
  unfold onError
  split
  · exact ⟨Option.some_ne_none _, rfl⟩
  · split <;> exact ⟨Option.some_ne_none _, rfl⟩

theorem step_cases (hresolves : h.Resolves) (hstep : h.step hostKey s event = some s') :
    (s'.result = s.result ∧ s'.timeout = s.timeout ∧ s'.issued = s.issued ∧
        ¬ AcceptedAt hostKey ⟨s, event, s'⟩) ∨
      (s'.result ≠ none ∧ s'.issued = s.issued ∧ ¬ AcceptedAt hostKey ⟨s, event, s'⟩) ∨
      AcceptedAt hostKey ⟨s, event, s'⟩ ∧ s' = h.onAccepted { s with gate := .answered } := by
  have hother : (∀ reply, event ≠ .confirmed reply) → ¬ AcceptedAt hostKey ⟨s, event, s'⟩ := by
    rintro hne ⟨_, reply, -, hevent, -⟩
    exact hne reply hevent
  cases event with
  | timer =>
      obtain ⟨-, hs'⟩ := Option.ite_none_right_eq_some.mp hstep
      rw [← Option.some.inj hs']
      exact .inr (.inl ⟨Option.some_ne_none _, rfl, hother nofun⟩)
  | keyExchange key =>
      obtain ⟨-, hs'⟩ := Option.ite_none_right_eq_some.mp hstep
      cases hs'
      exact .inl ⟨rfl, rfl, rfl, hother nofun⟩
  | decided reply =>
      obtain ⟨-, hs'⟩ := Option.ite_none_right_eq_some.mp hstep
      cases hs'
      exact .inl ⟨rfl, rfl, rfl, hother nofun⟩
  | ready =>
      simp only [Handlers.step] at hstep
      split at hstep
      · cases hstep
        exact .inl ⟨rfl, rfl, rfl, hother nofun⟩
      · cases hstep
  | confirmed reply =>
      simp only [Handlers.step] at hstep
      split at hstep
      · next presented hgate =>
          cases hrefusal : gateRefusal hostKey presented reply with
          | none =>
              rw [hrefusal] at hstep
              exact .inr (.inr ⟨⟨presented, reply, hgate, rfl, hrefusal⟩, (Option.some.inj hstep).symm⟩)
          | some detail =>
              rw [hrefusal] at hstep
              rw [← Option.some.inj hstep]
              refine .inr (.inl ⟨Option.some_ne_none _, rfl, ?_⟩)
              rintro ⟨presented', reply', hgate', hevent, haccepts⟩
              cases hevent
              cases hgate.symm.trans hgate'
              cases hrefusal.symm.trans haccepts
      · cases hstep
  | execCallback err =>
      simp only [Handlers.step] at hstep
      split at hstep
      · rw [← Option.some.inj hstep]
        obtain ⟨hresult, hissued⟩ := hresolves.onExecFailed _ { s with channel := .closed }
        exact .inr (.inl ⟨hresult, hissued, hother nofun⟩)
      · cases hstep
        exact .inl ⟨rfl, rfl, rfl, hother nofun⟩
      · cases hstep
  | data text =>
      simp only [Handlers.step] at hstep
      split at hstep
      · cases hstep
        exact .inl ⟨rfl, rfl, rfl, hother nofun⟩
      · cases hstep
  | stderrData text =>
      simp only [Handlers.step] at hstep
      split at hstep
      · cases hstep
        exact .inl ⟨rfl, rfl, rfl, hother nofun⟩
      · cases hstep
  | close =>
      simp only [Handlers.step] at hstep
      split at hstep
      · rw [← Option.some.inj hstep]
        obtain ⟨hresult, hissued⟩ := hresolves.onClose _ _ { s with channel := .closed }
        exact .inr (.inl ⟨hresult, hissued, hother nofun⟩)
      · cases hstep
  | error message =>
      obtain ⟨hresult, hissued⟩ := onError_resolves h.authFailures message s
      rw [← Option.some.inj hstep]
      exact .inr (.inl ⟨hresult, hissued, hother nofun⟩)

theorem safeAt_of_not_accepted (hresolves : h.Resolves) (hwaits : m.before.Waits)
    (hstep : h.step hostKey m.before m.event = some m.after) (haccepted : ¬ AcceptedAt hostKey m) : SafeAt m := by
  obtain ⟨hresult, htimeout, hissued, -⟩ | ⟨hresult, hissued, -⟩ | ⟨hthere, -⟩ := step_cases hresolves hstep
  · refine ⟨fun hnone => ?_, fun _ => hissued⟩
    rw [htimeout]
    exact hwaits (hresult ▸ hnone)
  · exact ⟨fun hnone => absurd hnone hresult, fun _ => hissued⟩
  · exact absurd hthere haccepted

theorem after_of_accepted (hresolves : h.Resolves) (hstep : h.step hostKey m.before m.event = some m.after)
    (haccepted : AcceptedAt hostKey m) : m.after = h.onAccepted { m.before with gate := .answered } := by
  obtain ⟨-, -, -, hnot⟩ | ⟨-, -, hnot⟩ | ⟨-, hafter⟩ := step_cases hresolves hstep
  · exact absurd haccepted hnot
  · exact absurd haccepted hnot
  · exact hafter

theorem probeSsh_safeAt_iff (hwaits : m.before.Waits)
    (hstep : probeSsh.step hostKey m.before m.event = some m.after) : SafeAt m ↔ ¬ AcceptedAt hostKey m := by
  refine ⟨fun hsafe haccepted => ?_, safeAt_of_not_accepted probeSsh_resolves hwaits hstep⟩
  have hafter := after_of_accepted probeSsh_resolves hstep haccepted
  obtain ⟨htimeout, hissued⟩ := hsafe
  rw [hafter] at htimeout hissued
  by_cases hresult : m.before.result = none
  · cases htimeout hresult
  · exact List.cons_ne_nil _ _ (List.append_right_eq_self.mp (hissued hresult))

theorem runSshCommand_safeAt_iff (command : String) (hwaits : m.before.Waits)
    (hstep : (runSshCommand command).step hostKey m.before m.event = some m.after) :
    SafeAt m ↔ ¬ (AcceptedAt hostKey m ∧ m.before.result ≠ none) := by
  have hresolves := runSshCommand_resolves command
  constructor
  · rintro ⟨-, hissued⟩ ⟨haccepted, hresult⟩
    rw [after_of_accepted hresolves hstep haccepted] at hissued
    exact List.cons_ne_nil _ _ (List.append_right_eq_self.mp (hissued hresult))
  · intro hnot
    by_cases haccepted : AcceptedAt hostKey m
    · refine ⟨fun hnone => ?_, fun hresult => absurd ⟨haccepted, hresult⟩ hnot⟩
      rw [after_of_accepted hresolves hstep haccepted] at hnone ⊢
      exact hwaits hnone
    · exact safeAt_of_not_accepted hresolves hwaits hstep haccepted

end moments

/-- **Neither hanging nor acting late**: a probe is safe at every moment of a run exactly if the gate accepts at
none; a command exactly if the gate accepts at none at which there is a result. -/
theorem sessions_safe_iff (hostKey : Bool) : (∀ moments s, Run (probeSsh.step hostKey) {} moments s →
      ((∀ m ∈ moments, SafeAt m) ↔ ∀ m ∈ moments, ¬ AcceptedAt hostKey m)) ∧
    ∀ command moments s, Run ((runSshCommand command).step hostKey) {} moments s →
      ((∀ m ∈ moments, SafeAt m) ↔ ∀ m ∈ moments, ¬ (AcceptedAt hostKey m ∧ m.before.result ≠ none)) := by
  have hstart : ({} : Session).Waits := fun _ => rfl
  have hkeep : ∀ m : Moment Session SshEvent, SafeAt m → m.after.Waits := fun m hsafe => hsafe.1
  refine ⟨fun moments s hrun => ?_, fun command moments s hrun => ?_⟩
  · exact hrun.forall_iff hstart (fun m _ _ => hkeep m) fun m => probeSsh_safeAt_iff
  · exact hrun.forall_iff hstart (fun m _ _ => hkeep m) fun m => runSshCommand_safeAt_iff command

/-- A guest that accepts the password and stays silent leaves a probe without a timer; and a gate that accepts after
the timer has the command issued. -/
theorem probe_hangs :
    (¬ ∀ hostKey moments s, Run (probeSsh.step hostKey) {} moments s → ∀ m ∈ moments, SafeAt m) ∧
      ¬ ∀ command hostKey moments s, Run ((runSshCommand command).step hostKey) {} moments s →
        ∀ m ∈ moments, SafeAt m := by
  let reply : Except (Option String) HostKeyDecision := .ok { accept := true, alreadyEnrolled := false }
  constructor
  · intro hlaw
    have hrun : Run (probeSsh.step false) {} _ _ :=
      (Run.nil.cons .ready rfl).cons (.confirmed reply) rfl
    cases (hlaw false _ _ hrun _ List.mem_cons_self).1 rfl
  · intro hlaw
    have hpresented : Run ((runSshCommand "id").step true) {} _ _ :=
      (Run.nil.cons (.keyExchange ⟨"d41d8cd9", none⟩) rfl).cons
        (.decided (some { accept := true, alreadyEnrolled := false })) rfl
    have hrun : Run ((runSshCommand "id").step true) {} _ _ :=
      ((hpresented.cons .ready rfl).cons .timer rfl).cons (.confirmed reply) rfl
    have hissued := (hlaw "id" true _ _ hrun _ List.mem_cons_self).2 (Option.some_ne_none _)
    exact List.cons_ne_nil _ _ hissued

end ProxVM.Ssh
