import ProxVM.Lib.Pool
import ProxVM.Lib.Solo
import ProxVM.Ssh.HostKeys

/-!
# Host-key pinning fails closed

Any number of connections, rotations and unpins run side by side on one table of pins, and every
statement may fail, before or after it takes effect.

## Strategy
-/

namespace ProxVM.Ssh

open Interaction Context Tables

/-! ## The installation -/

abbrev Pins : Type := Table HostKeyRecord.scope

def HostKeyCall.effect : HostKeyCall → Pins → Pins
  | .insertPin pin, pins => if (pins.find? pin.scope).isSome then pins else pins.put pin
  | .updatePin scope fingerprint, pins => pins.updateWhere (fun pin => decide (pin.scope = scope))
      (fun pin => { pin with fingerprint := fingerprint, keyType := none }) fun _ => rfl
  | .deletePin scope, pins => pins.deleteWhere fun pin => decide (pin.scope = scope)
  | _, pins => pins

def HostKeyCall.answers : (c : HostKeyCall) → Pins → c.Reply → Prop
  | .read scope, pins, found => found = pins.find? scope
  | .updatePin scope fingerprint, pins, updated =>
      updated = ((HostKeyCall.updatePin scope fingerprint).effect pins).find? scope
  | _, _, _ => True

/-- How a call is served.  The server presents what it likes and accepts the password or not; a
statement takes effect and is answered, or it fails, and may have taken effect nevertheless. -/
def HostKeyServed (c : HostKeyCall) (pins : Pins) (r : Except Failure c.Reply) (pins' : Pins) : Prop :=
  match r with
  | .ok reply => c.answers pins reply ∧ pins' = c.effect pins
  | .error _ => pins' = pins ∨ pins' = c.effect pins

structure Connection where
  hostKey : Option HostKeyPolicy
  log : Log hostKeyCalls Failure
  prog : HostKeyTask SshOutcome

structure HostKeySystem where
  pins : Pins
  connections : List Connection
  rotations : List (HostKeyTask (Option HostKeyRecord))
  unpins : List (HostKeyTask Bool)

inductive HostKeyEvent
  | connection (conn : Connection)
  | rotation
  | unpin
  | arrival

inductive HostKeyStep : HostKeySystem → HostKeyEvent → HostKeySystem → Prop
  | connect {s : HostKeySystem} (hostKey : Option HostKeyPolicy) :
      HostKeyStep s .arrival { s with connections := ⟨hostKey, [], connect hostKey⟩ :: s.connections }
  | connection {s : HostKeySystem} {before after : List Connection} {hostKey : Option HostKeyPolicy}
      {log : Log hostKeyCalls Failure} {c : HostKeyCall}
      {next : Except Failure c.Reply → HostKeyTask SshOutcome} {r : Except Failure c.Reply} {pins' : Pins}
      (hconns : s.connections = before ++ ⟨hostKey, log, .call c next⟩ :: after)
      (hserved : HostKeyServed c s.pins r pins') :
      HostKeyStep s (.connection ⟨hostKey, log, .call c next⟩)
        { s with pins := pins', connections := before ++ ⟨hostKey, ⟨c, r⟩ :: log, next r⟩ :: after }
  | rotate {s : HostKeySystem} (opts : PolicyOptions) (fingerprint : String)
      (actorUserId actorUsername : Option String) :
      HostKeyStep s .arrival
        { s with
          rotations := HostKeyService.setFingerprint opts fingerprint actorUserId actorUsername :: s.rotations }
  | rotation {s : HostKeySystem} {before after : List (HostKeyTask (Option HostKeyRecord))} {c : HostKeyCall}
      {next : Except Failure c.Reply → HostKeyTask (Option HostKeyRecord)} {r : Except Failure c.Reply}
      {pins' : Pins} (hrotations : s.rotations = before ++ .call c next :: after)
      (hserved : HostKeyServed c s.pins r pins') :
      HostKeyStep s .rotation { s with pins := pins', rotations := before ++ next r :: after }
  | unpin {s : HostKeySystem} (opts : PolicyOptions) (actorUserId actorUsername : Option String) :
      HostKeyStep s .arrival
        { s with unpins := HostKeyService.unpin opts actorUserId actorUsername :: s.unpins }
  | unpinning {s : HostKeySystem} {before after : List (HostKeyTask Bool)} {c : HostKeyCall}
      {next : Except Failure c.Reply → HostKeyTask Bool} {r : Except Failure c.Reply} {pins' : Pins}
      (hunpins : s.unpins = before ++ .call c next :: after) (hserved : HostKeyServed c s.pins r pins') :
      HostKeyStep s .unpin { s with pins := pins', unpins := before ++ next r :: after }

abbrev HostKeyRun : HostKeySystem → HostKeySystem → Prop :=
  Relation.ReflTransGen fun s s' => ∃ event, HostKeyStep s event s'

def HostKeySystem.idle (pins : Pins) : HostKeySystem := ⟨pins, [], [], []⟩

/-! ## What is promised -/

def HostKeyCall.onPins : HostKeyCall → Bool
  | .read _ | .insertPin _ | .updatePin _ _ | .deletePin _ => true
  | _ => false

def HostKeyCall.onDatabase : HostKeyCall → Bool
  | .keyExchange | .authenticate => false
  | _ => true

def Met (kind : HostKeyCall → Bool) (log : Log hostKeyCalls Failure) : Prop :=
  ∃ c e, kind c = true ∧ (⟨c, .error e⟩ : (c : HostKeyCall) × Except Failure c.Reply) ∈ log

/-- The log is that of a connection that has authenticated, to a server that presented `key`. -/
def Authenticated (key : PresentedKey) (log : Log hostKeyCalls Failure) : Prop :=
  ∃ later earlier : Log hostKeyCalls Failure, log = later ++ ⟨.authenticate, .ok true⟩ :: earlier ∧
    ⟨.keyExchange, .ok key⟩ ∈ earlier

def ReadPin (scope : String) (log : Log hostKeyCalls Failure) : Prop :=
  ∃ (key : PresentedKey) (pin : HostKeyRecord) (later earlier : Log hostKeyCalls Failure),
    log = later ++ ⟨.authenticate, .ok true⟩ :: earlier ∧ ⟨.keyExchange, .ok key⟩ ∈ earlier ∧
      ⟨.read scope, .ok (some pin)⟩ ∈ later ∧ pin.fingerprint = key.fingerprint

/-- A connection is used only with the pinned key, and is rejected when a statement on the pins
has failed. -/
structure Connection.Closed (conn : Connection) : Prop where
  used : conn.prog = .ret .used → ∀ p, conn.hostKey = some p → ReadPin p.scope conn.log
  rejected : Met HostKeyCall.onPins conn.log → ∃ detail, conn.prog = .ret (.rejected detail)

structure PinsKept (event : HostKeyEvent) (pins pins' : Pins) : Prop where
  created : ∀ scope pin, pins.find? scope = none → pins'.find? scope = some pin →
    ∃ conn p key, event = .connection conn ∧ conn.hostKey = some p ∧ p.scope = scope ∧
      Authenticated key conn.log ∧ pin.fingerprint = key.fingerprint
  changed : ∀ scope pin pin', pins.find? scope = some pin → pins'.find? scope = some pin' →
    pin' ≠ pin → event = .rotation
  removed : ∀ scope pin, pins.find? scope = some pin → pins'.find? scope = none → event = .unpin

/-! ## What a connection owes to its log -/

section owes

variable {hostKey : Option HostKeyPolicy} {p : HostKeyPolicy} {key : PresentedKey}
  {log log' new : Log hostKeyCalls Failure} {kind : HostKeyCall → Bool}

def ConnectionOwes (hostKey : Option HostKeyPolicy) (c : HostKeyCall) (log : Log hostKeyCalls Failure) : Prop :=
  ¬ Met HostKeyCall.onPins log ∧ match c with
    | .insertPin pin => ∃ p key, hostKey = some p ∧ p.scope = pin.scope ∧ Authenticated key log ∧
        pin.fingerprint = key.fingerprint
    | .updatePin _ _ | .deletePin _ => False
    | _ => True

def Ending (hostKey : Option HostKeyPolicy) (r : Except Failure SshOutcome) (log : Log hostKeyCalls Failure) :
    Prop :=
  (r = .ok .used → ∀ p, hostKey = some p → ReadPin p.scope log) ∧
    (Met HostKeyCall.onPins log → ∃ detail, r = .ok (.rejected detail))

abbrev connecting (hostKey : Option HostKeyPolicy) : Context hostKeyCalls Failure (Log hostKeyCalls Failure) :=
  aloneOwing record (ConnectionOwes hostKey)

theorem not_met_nil : ¬ Met kind [] := by
  rintro ⟨c, e, -, hmem⟩
  cases hmem

theorem not_met_cons {c : HostKeyCall} {r : Except Failure c.Reply} (hlog : ¬ Met kind log)
    (hr : kind c = true → ∃ reply, r = .ok reply) : ¬ Met kind (⟨c, r⟩ :: log) := by
  rintro ⟨c', e, hkind, hmem⟩
  obtain heq | hold := List.mem_cons.mp hmem
  · cases heq
    obtain ⟨reply, hreply⟩ := hr hkind
    cases hreply
  · exact hlog ⟨c', e, hkind, hold⟩

/-- A part of a connection that decides: `extra` holds of its calls when it accepts. -/
def Accepts (extra : Log hostKeyCalls Failure → Prop) (log : Log hostKeyCalls Failure)
    (r : Except Failure HostKeyDecision) (log' : Log hostKeyCalls Failure) : Prop :=
  ∃ new, log' = new ++ log ∧ ∀ d, r = .ok d → d.accept = true → ¬ Met HostKeyCall.onPins log' ∧ extra new

variable {extra : Log hostKeyCalls Failure → Prop}

theorem accepts_of_refusal (new : Log hostKeyCalls Failure) {r : Except Failure HostKeyDecision}
    (hlog : log' = new ++ log) (hr : ∀ d, r = .ok d → d.accept = false) : Accepts extra log r log' := by
  refine ⟨new, hlog, fun d hd haccept => ?_⟩
  rw [hr d hd] at haccept
  cases haccept

theorem holds_recordAudit {entry : HostKeyAudit} (hlog : ¬ Met HostKeyCall.onPins log) :
    (connecting hostKey).holds (HostKeyService.recordAudit entry)
      (fun r log' => r = .ok () ∧ ∃ result, log' = ⟨.audit entry, result⟩ :: log) log := by
  refine Context.holds_tryCatch.mpr (holds_aloneOwing_perform.mpr ⟨⟨hlog, trivial⟩, ?_⟩)
  intro r log' hrecord
  cases r with
  | ok _ => exact ⟨rfl, .ok (), hrecord⟩
  | error e => exact ⟨rfl, .error e, hrecord⟩

theorem holds_refuseMismatch (new : Log hostKeyCalls Failure) {expected fingerprint : String}
    (hlog : ¬ Met HostKeyCall.onPins log') (hnew : log' = new ++ log) :
    (connecting hostKey).holds (HostKeyService.refuseMismatch p expected fingerprint)
      (Accepts extra log) log' := by
  unfold HostKeyService.refuseMismatch
  rw [Context.holds_bind]
  refine Context.holds_mono (holds_recordAudit hlog) fun r log'' hr => ?_
  obtain ⟨rfl, result, rfl⟩ := hr
  rw [hnew]
  exact accepts_of_refusal (_ :: new) rfl fun d hd => by cases hd; rfl

theorem holds_failClosed {body : HostKeyTask HostKeyDecision} {detail : String}
    (hbody : (connecting hostKey).holds body (Accepts extra log) log) :
    (connecting hostKey).holds (body.tryCatch fun _ => HostKeyService.internalError detail)
      (fun r log' => (∃ d, r = .ok d) ∧ Accepts extra log r log') log := by
  rw [Context.holds_tryCatch]
  refine Context.holds_mono hbody fun r log' hr => ?_
  cases r with
  | ok d => exact ⟨⟨d, rfl⟩, hr⟩
  | error e =>
      obtain ⟨new, hlog, -⟩ := hr
      exact ⟨⟨_, rfl⟩, accepts_of_refusal new hlog fun d hd => by cases hd; rfl⟩

theorem holds_decide (hlog : ¬ Met HostKeyCall.onPins log) :
    (connecting hostKey).holds (HostKeyService.decide p key)
      (fun r log' => (∃ d, r = .ok d) ∧ Accepts (fun _ => True) log r log') log := by
  refine holds_failClosed (holds_record_bind ⟨hlog, trivial⟩ (fun found => ?_) fun e => ?_)
  · have hclean := not_met_cons (c := .read p.scope) (r := .ok found) hlog fun _ => ⟨found, rfl⟩
    cases found with
    | none => exact ⟨[_], rfl, fun _ _ _ => ⟨hclean, trivial⟩⟩
    | some row =>
        refine Context.holds_ite.mpr ⟨fun _ => ⟨[_], rfl, fun _ _ _ => ⟨hclean, trivial⟩⟩, fun _ => ?_⟩
        exact holds_refuseMismatch [_] hclean rfl
  · exact accepts_of_refusal [_] rfl fun d hd => by cases hd

def ReadsPin (p : HostKeyPolicy) (key : PresentedKey) (new : Log hostKeyCalls Failure) : Prop :=
  ∃ pin : HostKeyRecord, ⟨.read p.scope, .ok (some pin)⟩ ∈ new ∧ pin.fingerprint = key.fingerprint

theorem holds_enroll (hpolicy : hostKey = some p) (hauth : Authenticated key log)
    (hlog : ¬ Met HostKeyCall.onPins log) {read : (c : HostKeyCall) × Except Failure c.Reply}
    (hread : ¬ Met HostKeyCall.onPins (read :: log)) :
    (connecting hostKey).holds (HostKeyService.enroll p key) (Accepts (ReadsPin p key) log) (read :: log) := by
  have hnow : Authenticated key (read :: log) := by
    obtain ⟨later, earlier, rfl, hkey⟩ := hauth
    exact ⟨read :: later, earlier, rfl, hkey⟩
  refine holds_record_bind ⟨hread, p, key, hpolicy, rfl, hnow, rfl⟩ (fun _ => ?_)
    fun e => accepts_of_refusal [_, _] rfl fun d hd => by cases hd
  have hinserted := not_met_cons (c := .insertPin ⟨p.scope, p.vmId, p.endpoint, key.fingerprint, key.keyType⟩)
    (r := .ok ()) hread fun _ => ⟨(), rfl⟩
  refine holds_record_bind ⟨hinserted, trivial⟩ (fun found => ?_)
    fun e => accepts_of_refusal [_, _, _] rfl fun d hd => by cases hd
  have hclean := not_met_cons (c := .read p.scope) (r := .ok found) hinserted fun _ => ⟨found, rfl⟩
  cases found with
  | none => exact accepts_of_refusal [_, _, _] rfl fun d hd => by cases hd
  | some after =>
      refine Context.holds_ite.mpr ⟨fun _ => holds_refuseMismatch [_, _, _] hclean rfl, fun hsame => ?_⟩
      refine Context.holds_bind.mpr (Context.holds_mono (holds_recordAudit hclean) fun r log' hr => ?_)
      obtain ⟨rfl, result, rfl⟩ := hr
      have haudited := not_met_cons (c := .audit (.enrolled p.vmId p.jobId p.endpoint key.fingerprint key.keyType))
        (r := result) hclean fun h => by cases h
      refine ⟨[_, _, _, _], rfl, fun _ _ _ => ⟨haudited, after, ?_, not_not.mp hsame⟩⟩
      exact List.mem_cons_of_mem _ List.mem_cons_self

theorem holds_confirm (hpolicy : hostKey = some p) (hauth : Authenticated key log)
    (hlog : ¬ Met HostKeyCall.onPins log) : (connecting hostKey).holds (HostKeyService.confirm p key)
      (fun r log' => (∃ d, r = .ok d) ∧ Accepts (ReadsPin p key) log r log') log := by
  refine holds_failClosed (holds_record_bind ⟨hlog, trivial⟩ (fun found => ?_) fun e => ?_)
  · have hclean := not_met_cons (c := .read p.scope) (r := .ok found) hlog fun _ => ⟨found, rfl⟩
    cases found with
    | none => exact holds_enroll hpolicy hauth hlog hclean
    | some row =>
        refine Context.holds_ite.mpr ⟨fun hsame => ⟨[_], rfl, fun _ _ _ => ⟨hclean, row, ?_, hsame⟩⟩, fun _ => ?_⟩
        · exact List.mem_cons_self
        · exact holds_refuseMismatch [_] hclean rfl
  · exact accepts_of_refusal [_] rfl fun d hd => by cases hd

def LetsPass (extra : Log hostKeyCalls Failure → Prop) (log : Log hostKeyCalls Failure)
    (r : Except Failure (Option String)) (log' : Log hostKeyCalls Failure) : Prop :=
  ∃ refusal new, r = .ok refusal ∧ log' = new ++ log ∧
    (refusal = none → ¬ Met HostKeyCall.onPins log' ∧ extra new)

theorem holds_gate {task : HostKeyTask HostKeyDecision} (message : String)
    (htask : (connecting hostKey).holds task
      (fun r log' => (∃ d, r = .ok d) ∧ Accepts extra log r log') log) : (connecting hostKey).holds
      (task >>= fun d => pure (if d.accept then none else some (d.detail.getD message)))
      (LetsPass extra log) log := by
  refine Context.holds_bind.mpr (Context.holds_mono htask fun r log' hr => ?_)
  obtain ⟨⟨d, rfl⟩, new, hlog, haccepts⟩ := hr
  refine ⟨_, new, rfl, hlog, fun hnone => haccepts d rfl ?_⟩
  by_contra hrefused
  rw [if_neg hrefused] at hnone
  cases hnone

theorem holds_hostVerifier (hlog : ¬ Met HostKeyCall.onPins log) :
    (connecting hostKey).holds (hostVerifier hostKey key) (LetsPass (fun _ => True) log) log := by
  cases hostKey with
  | none => exact ⟨none, [], rfl, rfl, fun _ => ⟨hlog, trivial⟩⟩
  | some p => exact holds_gate _ (holds_decide hlog)

theorem holds_afterAuthenticated (hauth : Authenticated key log) (hlog : ¬ Met HostKeyCall.onPins log) :
    (connecting hostKey).holds (afterAuthenticated hostKey key)
      (LetsPass (fun new => ∀ p, hostKey = some p → ReadsPin p key new) log) log := by
  cases hostKey with
  | none => exact ⟨none, [], rfl, rfl, fun _ => ⟨hlog, fun p hp => by cases hp⟩⟩
  | some p =>
      refine Context.holds_mono (holds_gate _ (holds_confirm rfl hauth hlog)) fun r log' hr => ?_
      obtain ⟨refusal, new, hrefusal, hnew, hpass⟩ := hr
      refine ⟨refusal, new, hrefusal, hnew, fun hnone => ⟨(hpass hnone).1, fun p' hp' => ?_⟩⟩
      cases hp'
      exact (hpass hnone).2

theorem ending_of_clean {r : Except Failure SshOutcome} (hlog : ¬ Met HostKeyCall.onPins log)
    (hr : r ≠ .ok .used) : Ending hostKey r log :=
  ⟨fun hused => absurd hused hr, fun hmet => absurd hmet hlog⟩

theorem ending_of_rejected {detail : String} : Ending hostKey (.ok (.rejected detail)) log :=
  ⟨fun hused => (by cases hused), fun _ => ⟨detail, rfl⟩⟩

theorem holds_connect : (connecting hostKey).holds (connect hostKey) (Ending hostKey) [] := by
  refine holds_record_bind ⟨not_met_nil, trivial⟩ (fun key => ?_) fun e => ?_
  · have hclean := not_met_cons (c := .keyExchange) (r := .ok key) (@not_met_nil HostKeyCall.onPins)
      fun _ => ⟨key, rfl⟩
    refine Context.holds_bind.mpr (Context.holds_mono (holds_hostVerifier hclean) fun r log hr => ?_)
    obtain ⟨refusal, new, rfl, rfl, hpass⟩ := hr
    cases refusal with
    | some detail => exact ending_of_rejected
    | none =>
        obtain ⟨hverified, -⟩ := hpass rfl
        refine holds_record_bind ⟨hverified, trivial⟩ (fun authenticated => ?_) fun e => ?_
        · have hnow := not_met_cons (c := .authenticate) (r := .ok authenticated) hverified
            fun _ => ⟨authenticated, rfl⟩
          refine Context.holds_ite.mpr ⟨fun _ => ending_of_clean hnow fun h => (by cases h), fun hok => ?_⟩
          have htrue : authenticated = true := by
            cases authenticated with
            | true => rfl
            | false => exact absurd rfl hok
          subst htrue
          have hmem : (⟨.keyExchange, .ok key⟩ : (c : HostKeyCall) × Except Failure c.Reply) ∈
              new ++ [⟨.keyExchange, .ok key⟩] := List.mem_append_right _ List.mem_cons_self
          refine Context.holds_bind.mpr (Context.holds_mono
            (holds_afterAuthenticated ⟨[], _, rfl, hmem⟩ hnow) fun r log hr => ?_)
          obtain ⟨refusal, later, rfl, rfl, hpass⟩ := hr
          cases refusal with
          | some detail => exact ending_of_rejected
          | none =>
              obtain ⟨hconfirmed, hreads⟩ := hpass rfl
              refine ⟨fun _ p hp => ?_, fun hmet => absurd hmet hconfirmed⟩
              obtain ⟨pin, hread, hsame⟩ := hreads p hp
              exact ⟨key, pin, later, _, rfl, hmem, hread, hsame⟩
        · refine ending_of_clean (not_met_cons hverified fun h => (by cases h)) fun h => (by cases h)
  · refine ending_of_clean (not_met_cons not_met_nil fun h => (by cases h)) fun h => (by cases h)

end owes

/-! ## How the pins change -/

section pins

variable {event : HostKeyEvent} {pins pins' : Pins}

theorem PinsKept.refl (event : HostKeyEvent) (pins : Pins) : PinsKept event pins pins := by
  constructor
  · intro scope pin hnone hsome
    cases hnone.symm.trans hsome
  · intro scope pin pin' hold hnew hne
    exact absurd (Option.some.inj (hnew.symm.trans hold)) hne
  · intro scope pin hsome hnone
    cases hnone.symm.trans hsome

theorem pinsKept_insertPin {pin : HostKeyRecord}
    (hevent : ∃ conn p key, event = .connection conn ∧ conn.hostKey = some p ∧ p.scope = pin.scope ∧
      Authenticated key conn.log ∧ pin.fingerprint = key.fingerprint) :
    PinsKept event pins ((HostKeyCall.insertPin pin).effect pins) := by
  change PinsKept event pins (if (pins.find? pin.scope).isSome then pins else pins.put pin)
  split
  · exact .refl event pins
  · next htaken =>
      have hfree : pins.find? pin.scope = none := Option.not_isSome_iff_eq_none.mp htaken
      have hother : ∀ scope, scope ≠ pin.scope → (pins.put pin).find? scope = pins.find? scope :=
        fun scope hne => Table.find?_put_of_ne pins hne.symm
      constructor
      · intro scope pin' hnone hsome
        by_cases hscope : scope = pin.scope
        · subst hscope
          cases (Table.find?_put_self pins pin).symm.trans hsome
          exact hevent
        · rw [hother scope hscope, hnone] at hsome
          cases hsome
      · intro scope pin₁ pin₂ hold hnew hne
        by_cases hscope : scope = pin.scope
        · rw [hscope, hfree] at hold
          cases hold
        · rw [hother scope hscope, hold] at hnew
          exact absurd (Option.some.inj hnew).symm hne
      · intro scope pin' hsome hnone
        by_cases hscope : scope = pin.scope
        · rw [hscope, hfree] at hsome
          cases hsome
        · rw [hother scope hscope, hsome] at hnone
          cases hnone

theorem find?_updatePin (scope fingerprint scope' : String) :
    ((HostKeyCall.updatePin scope fingerprint).effect pins).find? scope' = (pins.find? scope').map fun pin =>
        if decide (pin.scope = scope) then { pin with fingerprint := fingerprint, keyType := none } else pin :=
  Table.find?_updateWhere pins _ (fun pin => { pin with fingerprint := fingerprint, keyType := none })
    (fun _ => rfl) scope'

theorem find?_deletePin (scope scope' : String) : ((HostKeyCall.deletePin scope).effect pins).find? scope' =
      (pins.find? scope').filter fun pin => !decide (pin.scope = scope) :=
  Table.find?_deleteWhere pins _ scope'

theorem pinsKept_updatePin (scope fingerprint : String) :
    PinsKept .rotation pins ((HostKeyCall.updatePin scope fingerprint).effect pins) := by
  constructor
  · intro scope' pin hnone hsome
    rw [find?_updatePin, hnone] at hsome
    cases hsome
  · exact fun _ _ _ _ _ _ => rfl
  · intro scope' pin hsome hnone
    rw [find?_updatePin, hsome] at hnone
    cases hnone

theorem pinsKept_deletePin (scope : String) :
    PinsKept .unpin pins ((HostKeyCall.deletePin scope).effect pins) := by
  constructor
  · intro scope' pin hnone hsome
    rw [find?_deletePin, hnone] at hsome
    cases hsome
  · intro scope' pin pin' hold hnew hne
    rw [find?_deletePin, hold] at hnew
    exact absurd (Option.some.inj (Option.filter_eq_some_iff.mp hnew).1).symm hne
  · exact fun _ _ _ _ => rfl

variable {c : HostKeyCall}

theorem PinsKept.of_served {r : Except Failure c.Reply}
    (heffect : PinsKept event pins (c.effect pins)) (hserved : HostKeyServed c pins r pins') :
    PinsKept event pins pins' := by
  cases r with
  | ok reply => exact hserved.2 ▸ heffect
  | error e =>
      obtain rfl | rfl := hserved
      · exact .refl event _
      · exact heffect

def HostKeyCall.isRotation : HostKeyCall → Bool
  | .read _ | .updatePin _ _ | .audit _ => true
  | _ => false

def HostKeyCall.isUnpin : HostKeyCall → Bool
  | .read _ | .deletePin _ | .audit _ => true
  | _ => false

abbrev Rotates (c : HostKeyCall) : Prop := c.isRotation = true

abbrev Unpins (c : HostKeyCall) : Prop := c.isUnpin = true

theorem only_askKeys {P : HostKeyCall → Prop} {c : HostKeyCall} (hc : P c) :
    Only (F := hostKeyCalls) P (askKeys c) := only_perform.mpr hc

theorem only_recordAudit {P : HostKeyCall → Prop} {entry : HostKeyAudit} (hc : P (.audit entry)) :
    Only (F := hostKeyCalls) P (HostKeyService.recordAudit entry) :=
  (only_askKeys hc).tryCatch fun _ => only_pure

theorem only_setFingerprint (opts : PolicyOptions) (fingerprint : String)
    (actorUserId actorUsername : Option String) :
    Only (F := hostKeyCalls) Rotates (HostKeyService.setFingerprint opts fingerprint actorUserId actorUsername) := by
  unfold HostKeyService.setFingerprint
  cases normalizeFingerprint fingerprint with
  | none => exact only_raise
  | some fingerprint =>
      refine (only_askKeys (P := Rotates) rfl).bind fun updated => Only.bind ?_ fun current => ?_
      · cases updated with
        | none => exact only_askKeys (P := Rotates) rfl
        | some row => exact only_pure
      · cases current with
        | none => exact only_pure
        | some current => exact (only_recordAudit (P := Rotates) rfl).bind fun _ => only_pure

theorem only_unpin (opts : PolicyOptions) (actorUserId actorUsername : Option String) :
    Only (F := hostKeyCalls) Unpins (HostKeyService.unpin opts actorUserId actorUsername) := by
  unfold HostKeyService.unpin
  refine (only_askKeys (P := Unpins) rfl).bind fun found => ?_
  cases found with
  | none => exact only_pure
  | some existing =>
      exact (only_askKeys (P := Unpins) rfl).bind fun _ =>
        (only_recordAudit (P := Unpins) rfl).bind fun _ => only_pure

theorem pinsKept_rotation (hc : Rotates c) : PinsKept .rotation pins (c.effect pins) := by
  cases c with
  | updatePin scope fingerprint => exact pinsKept_updatePin scope fingerprint
  | read scope => exact .refl _ _
  | audit entry => exact .refl _ _
  | keyExchange | authenticate | insertPin pin | deletePin scope => cases hc

theorem pinsKept_unpin (hc : Unpins c) : PinsKept .unpin pins (c.effect pins) := by
  cases c with
  | deletePin scope => exact pinsKept_deletePin scope
  | read scope => exact .refl _ _
  | audit entry => exact .refl _ _
  | keyExchange | authenticate | insertPin pin | updatePin scope fingerprint => cases hc

theorem pinsKept_connection {hostKey : Option HostKeyPolicy} {log : Log hostKeyCalls Failure}
    {prog : HostKeyTask SshOutcome} (howes : ConnectionOwes hostKey c log) :
    PinsKept (.connection ⟨hostKey, log, prog⟩) pins (c.effect pins) := by
  cases c with
  | insertPin pin =>
      obtain ⟨-, p, key, hpolicy, hscope, hauth, hsame⟩ := howes
      exact pinsKept_insertPin ⟨_, p, key, rfl, hpolicy, hscope, hauth, hsame⟩
  | updatePin scope fingerprint => exact howes.2.elim
  | deletePin scope => exact howes.2.elim
  | keyExchange | authenticate | read scope | audit entry => exact .refl _ _

end pins

/-! ## The invariant -/

structure HostKeySystem.Inv (s : HostKeySystem) : Prop where
  connections : ∀ conn ∈ s.connections,
    (connecting conn.hostKey).holds conn.prog (Ending conn.hostKey) conn.log
  rotations : ∀ q ∈ s.rotations, Only (F := hostKeyCalls) Rotates q
  unpins : ∀ q ∈ s.unpins, Only (F := hostKeyCalls) Unpins q

theorem Connection.closed_of_holds {conn : Connection}
    (h : (connecting conn.hostKey).holds conn.prog (Ending conn.hostKey) conn.log) : conn.Closed := by
  obtain ⟨hostKey, log, prog⟩ := conn
  constructor
  · intro hused
    cases hused
    exact h.1 rfl
  · intro hmet
    cases prog with
    | ret outcome =>
        obtain ⟨detail, hdetail⟩ := h.2 hmet
        cases hdetail
        exact ⟨detail, rfl⟩
    | raise e =>
        obtain ⟨detail, hdetail⟩ := h.2 hmet
        cases hdetail
    | call c next => exact absurd hmet (holds_aloneOwing_call.mp h).1.1

namespace HostKeySystem

variable {s s' : HostKeySystem} {event : HostKeyEvent}

theorem Inv.step (h : s.Inv) (hstep : HostKeyStep s event s') : s'.Inv := by
  obtain ⟨hconns, hrotations, hunpins⟩ := h
  cases hstep with
  | connect hostKey => exact ⟨List.forall_mem_cons.mpr ⟨holds_connect, hconns⟩, hrotations, hunpins⟩
  | @connection before after hostKey log c next r pins' heq hserved =>
      rw [heq, forall_mem_middle] at hconns
      have hnext := (holds_aloneOwing_call.mp hconns.1).2 r (⟨c, r⟩ :: log) rfl
      exact ⟨forall_mem_middle.mpr ⟨hnext, hconns.2⟩, hrotations, hunpins⟩
  | rotate opts fingerprint actorUserId actorUsername =>
      have hnew := only_setFingerprint opts fingerprint actorUserId actorUsername
      exact ⟨hconns, List.forall_mem_cons.mpr ⟨hnew, hrotations⟩, hunpins⟩
  | rotation heq hserved =>
      rw [heq, forall_mem_middle] at hrotations
      exact ⟨hconns, forall_mem_middle.mpr ⟨hrotations.1.2 _, hrotations.2⟩, hunpins⟩
  | unpin opts actorUserId actorUsername =>
      have hnew := only_unpin opts actorUserId actorUsername
      exact ⟨hconns, hrotations, List.forall_mem_cons.mpr ⟨hnew, hunpins⟩⟩
  | unpinning heq hserved =>
      rw [heq, forall_mem_middle] at hunpins
      exact ⟨hconns, hrotations, forall_mem_middle.mpr ⟨hunpins.1.2 _, hunpins.2⟩⟩

theorem Inv.pinsKept (h : s.Inv) (hstep : HostKeyStep s event s') : PinsKept event s.pins s'.pins := by
  obtain ⟨hconns, hrotations, hunpins⟩ := h
  cases hstep with
  | connect hostKey => exact .refl _ _
  | connection heq hserved =>
      rw [heq, forall_mem_middle] at hconns
      exact (pinsKept_connection (holds_aloneOwing_call.mp hconns.1).1).of_served hserved
  | rotate opts fingerprint actorUserId actorUsername => exact .refl _ _
  | rotation heq hserved =>
      rw [heq, forall_mem_middle] at hrotations
      exact (pinsKept_rotation hrotations.1.1).of_served hserved
  | unpin opts actorUserId actorUsername => exact .refl _ _
  | unpinning heq hserved =>
      rw [heq, forall_mem_middle] at hunpins
      exact (pinsKept_unpin hunpins.1.1).of_served hserved

/-- Host-key pinning fails closed. -/
theorem pinning_fails_closed {pins : Pins} (hrun : HostKeyRun (.idle pins) s) :
    (∀ conn ∈ s.connections, conn.Closed) ∧
      ∀ event s', HostKeyStep s event s' → PinsKept event s.pins s'.pins := by
  have hinv : s.Inv := by
    induction hrun with
    | refl =>
        exact ⟨fun _ h => absurd h List.not_mem_nil, fun _ h => absurd h List.not_mem_nil,
          fun _ h => absurd h List.not_mem_nil⟩
    | tail _ hstep ih =>
        obtain ⟨event, hstep⟩ := hstep
        exact ih.step hstep
  exact ⟨fun conn hconn => Connection.closed_of_holds (hinv.connections conn hconn),
    fun event s' hstep => hinv.pinsKept hstep⟩

/-! ### Sample runs -/

/-- Serve a call of a connection: the server presents `key` and accepts the password, and audit
rows can be written or not. -/
def answerKeys (key : PresentedKey) (audited : Bool) (c : HostKeyCall) (s : Pins × Log hostKeyCalls Failure) :
    Option (Except Failure c.Reply × (Pins × Log hostKeyCalls Failure)) :=
  let reply : Option (Except Failure c.Reply) := match c with
    | .keyExchange => some (.ok key)
    | .authenticate => some (.ok true)
    | .read scope => some (.ok (s.1.find? scope))
    | .insertPin _ => some (.ok ())
    | .audit _ => some (if audited then .ok () else .error (.other "audit_logs: disk full"))
    | .updatePin _ _ | .deletePin _ => none
  reply.map fun r => (r, c.effect s.1, ⟨c, r⟩ :: s.2)

def alongside (hostKey : Option HostKeyPolicy) (cfg : HostKeyTask SshOutcome × (Pins × Log hostKeyCalls Failure)) :
    HostKeySystem := ⟨cfg.2.1, [⟨hostKey, cfg.2.2, cfg.1⟩], [], []⟩

def connected (hostKey : Option HostKeyPolicy) (key : PresentedKey) (audited : Bool) (pins : Pins) : HostKeySystem :=
  alongside hostKey (drive (answerKeys key audited) 8 (connect hostKey, (pins, [])))

theorem served_answerKeys {key : PresentedKey} {audited : Bool} {c : HostKeyCall}
    {s s' : Pins × Log hostKeyCalls Failure} {r : Except Failure c.Reply}
    (hanswer : answerKeys key audited c s = some (r, s')) :
    HostKeyServed c s.1 r s'.1 ∧ s'.2 = ⟨c, r⟩ :: s.2 := by
  cases c with
  | keyExchange | authenticate | read scope | insertPin pin =>
      cases hanswer
      exact ⟨⟨by trivial, rfl⟩, rfl⟩
  | audit entry =>
      cases audited with
      | true =>
          cases hanswer
          exact ⟨⟨trivial, rfl⟩, rfl⟩
      | false =>
          cases hanswer
          exact ⟨.inl rfl, rfl⟩
  | updatePin scope fingerprint | deletePin scope => cases hanswer

theorem run_connected (hostKey : Option HostKeyPolicy) (key : PresentedKey) (audited : Bool) (pins : Pins) :
    HostKeyRun (.idle pins) (connected hostKey key audited pins) := by
  refine .head ⟨_, .connect hostKey⟩ ?_
  refine reaches_drive (alongside hostKey) (fun c next s r s' hanswer => ?_) 8 (connect hostKey, (pins, []))
  obtain ⟨hserved, hlog⟩ := served_answerKeys hanswer
  obtain ⟨pins', log'⟩ := s'
  cases hlog
  have hconns : (alongside hostKey (.call c next, s)).connections = [] ++ ⟨hostKey, s.2, .call c next⟩ :: [] := rfl
  exact ⟨_, .connection hconns hserved⟩

def samplePolicy : HostKeyPolicy := HostKeyService.policy ⟨some "30", "10.0.0.5", none, none⟩

def outcome (prog : HostKeyTask SshOutcome) : Option SshOutcome := prog.result?.bind Except.toOption

theorem pinning_fails_closed_sample :
    ((connected (some samplePolicy) ⟨"5ea1", none⟩ true .empty).connections.map fun conn => outcome conn.prog) =
        [some .used] ∧ (connected (some samplePolicy) ⟨"5ea1", none⟩ true .empty).pins.rows =
        [⟨"vm:30@10.0.0.5:22", some "30", "10.0.0.5:22", "5ea1", none⟩] ∧
      ((∀ conn ∈ (connected (some samplePolicy) ⟨"5ea1", none⟩ true .empty).connections, conn.Closed) ∧
        ∀ event s', HostKeyStep (connected (some samplePolicy) ⟨"5ea1", none⟩ true .empty) event s' →
          PinsKept event (connected (some samplePolicy) ⟨"5ea1", none⟩ true .empty).pins s'.pins) :=
  ⟨by decide +kernel, by decide +kernel, pinning_fails_closed (run_connected _ _ _ _)⟩

theorem met_of_any {kind : HostKeyCall → Bool} {log : Log hostKeyCalls Failure}
    (hany : (log.any fun entry => kind entry.1 && !entry.2.isOk) = true) : Met kind log := by
  obtain ⟨⟨c, r⟩, hmem, hentry⟩ := List.any_eq_true.mp hany
  obtain ⟨hkind, herror⟩ := Bool.and_eq_true_iff.mp hentry
  cases r with
  | ok reply => cases herror
  | error e => exact ⟨c, e, hkind, hmem⟩

/-- The audit row of an enrolment cannot be written, and the connection is used. -/
theorem unaudited_connection_used :
    ¬ ∀ (pins : Pins) (s : HostKeySystem), HostKeyRun (.idle pins) s → ∀ conn ∈ s.connections,
      Met HostKeyCall.onDatabase conn.log → ∃ detail, conn.prog = .ret (.rejected detail) := by
  intro hclaim
  have hrun := run_connected (some samplePolicy) ⟨"5ea1", none⟩ false .empty
  have hmet : Met HostKeyCall.onDatabase (drive (answerKeys ⟨"5ea1", none⟩ false) 8
      (connect (some samplePolicy), (Table.empty, []))).2.2 := met_of_any (by decide +kernel)
  obtain ⟨detail, hrejected⟩ := hclaim _ _ hrun _ List.mem_cons_self hmet
  have hused : (outcome (drive (answerKeys ⟨"5ea1", none⟩ false) 8
      (connect (some samplePolicy), (Table.empty, []))).1) = some .used := by decide +kernel
  cases hused.symm.trans (congrArg outcome hrejected)

end HostKeySystem

end ProxVM.Ssh
