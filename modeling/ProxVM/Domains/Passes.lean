import Mathlib.Algebra.GroupWithZero.Nat
import ProxVM.Domains.Rotation
import ProxVM.Lib.Steps

/-!
# What a pass does

Every function of the pass is gone through once, with the log of its calls: what it asks leaves the settings and
the counters alone (`Silent`), and the answers stay in the log.
-/

namespace ProxVM.Domains

open Interaction

def Call.Quiet : Call → Prop
  | .setSetting _ _ => False
  | .redisIncr _ => False
  | _ => True

theorem quiet_of_passive (c : Call) (hc : c.Passive) : c.Quiet := by
  cases c with
  | setSetting _ _ => exact hc
  | redisIncr _ => exact hc
  | _ => trivial

abbrev CallLog := Log calls Thrown

def Answered (log : CallLog) (c : Call) (reply : c.Reply) : Prop := ⟨c, .ok reply⟩ ∈ log

abbrev Silent {σ : Type} (serve : Service calls Thrown σ) : σ × CallLog → σ × CallLog → Prop :=
  Steps (logging serve) Call.Quiet

/-! ## Gates -/

section gates

variable (api : TextApi) (opts : AutoRotateOpts) (log : CallLog)

structure Probed (canonical : Text) : Prop where
  enabled : Answered log (.getSetting .autoRotate) (some "true".toList)
  stored : ∃ value, Answered log (.getSetting .canonicalDomain) value ∧ parsedCanonical api value = some canonical
  cooled : Answered log (.redisGet .cooldown) none
  blocked : ∃ useremail verdict, Answered log (.check canonical useremail) verdict ∧ verdict.status = .blocked

structure Cleared (canonical candidate : Text) (day : Day) : Prop extends Probed api log canonical where
  dated : Answered log .dayKey day
  uncapped : ∃ done, Answered log (.redisGet (.count day)) done ∧ done.getD 0 < opts.maxPerDay
  next : ∃ used, canonical ∈ used ∧ nextRotatedHostname api canonical used autoRotateMaxCandidates = some candidate
  clean : ∃ useremail verdict, Answered log (.check candidate useremail) verdict ∧ verdict.status = .clean

structure Gates (canonical candidate : Text) (day : Day) (name : Text) : Prop
    extends Cleared api opts log canonical candidate day where
  listed : ∃ zoneId records, Answered log (.listDnsRecords zoneId) records ∧
    ∃ record ∈ records, api.lower record.name = canonical
  qualified : ∃ zone, name = qualifyName api candidate zone
  valid : isValidHostname name = true
  verified : ∃ verification, Answered log (.verifyDomain name) verification ∧ verification.dnsOk = true

variable {api opts log} {log' : CallLog} {canonical candidate : Text} {day : Day}

theorem Probed.mono (hprobed : Probed api log canonical) (hlog : log ⊆ log') : Probed api log' canonical where
  enabled := hlog hprobed.enabled
  stored := hprobed.stored.imp fun _ h => ⟨hlog h.1, h.2⟩
  cooled := hlog hprobed.cooled
  blocked := hprobed.blocked.imp fun _ h => h.imp fun _ h => ⟨hlog h.1, h.2⟩

theorem Cleared.mono (hcleared : Cleared api opts log canonical candidate day) (hlog : log ⊆ log') :
    Cleared api opts log' canonical candidate day where
  toProbed := hcleared.toProbed.mono hlog
  dated := hlog hcleared.dated
  uncapped := hcleared.uncapped.imp fun _ h => ⟨hlog h.1, h.2⟩
  next := hcleared.next
  clean := hcleared.clean.imp fun _ h => h.imp fun _ h => ⟨hlog h.1, h.2⟩

theorem Gates.mono {name : Text} (hgates : Gates api opts log canonical candidate day name) (hlog : log ⊆ log') :
    Gates api opts log' canonical candidate day name where
  toCleared := hgates.toCleared.mono hlog
  listed := hgates.listed.imp fun _ h => h.imp fun _ h => ⟨hlog h.1, h.2⟩
  qualified := hgates.qualified
  valid := hgates.valid
  verified := hgates.verified.imp fun _ h => ⟨hlog h.1, h.2⟩

end gates

/-! ## Quiet programs -/

section quiet

variable {api : TextApi} {env : Environment} {opts : AutoRotateOpts}

theorem quiet_quietly {c : Call} (hc : c.Quiet) : Only (F := calls) Call.Quiet (quietly c) :=
  Only.tryCatch (Only.bind (only_perform.mpr hc) fun _ => trivial) fun _ => trivial

theorem quiet_alertAdmins {title body : String} {priority : Nat} :
    Only (F := calls) Call.Quiet (alertAdmins title body priority) :=
  Only.bind (quiet_quietly trivial) fun _ => quiet_quietly trivial

theorem quiet_writeTarget {body : SwitchDomainInput} {zoneId fqdn : Text} {records : List DnsRecord}
    {config : DomainConfig} : Only (F := calls) Call.Quiet (writeTarget api body zoneId fqdn records config) := by
  refine Only.bind (passive_templateOf.mono quiet_of_passive) fun template => ?_
  refine Only.bind only_orRaise fun target => Only.bind (passive_refuseIf.mono quiet_of_passive) fun _ => ?_
  unfold writeRecord
  split
  · exact only_perform.mpr trivial
  · exact only_perform.mpr trivial

theorem quiet_getSecurlyConfig : Only (F := calls) Call.Quiet (getSecurlyConfig env) := by
  unfold getSecurlyConfig
  split
  · trivial
  · exact Only.bind (only_perform.mpr trivial) fun _ => trivial

theorem quiet_searchCandidate {canonical useremail : Text} {n : Nat} {probed : List Text} :
    Only (F := calls) Call.Quiet (searchCandidate api canonical useremail n probed) := by
  induction n generalizing probed with
  | zero => trivial
  | succ n ih =>
      unfold searchCandidate
      split
      · trivial
      · refine Only.bind (only_perform.mpr trivial) fun verdict => ?_
        split
        · trivial
        · trivial
        · exact ih

end quiet

/-! ## Reports -/

section tour

variable {σ : Type} {serve : Service calls Thrown σ} {api : TextApi} {env : Environment} {opts : AutoRotateOpts}
  {st st' st₁ : σ × CallLog} {canonical candidate : Text} {day : Day} {r : Except Thrown AutoRotateResult}
  {B : σ × CallLog → Except Thrown AutoRotateResult → σ × CallLog → Prop}

/-- The pass reports no rotation and stays quiet, or it is quiet until `B`. -/
abbrev Reports (serve : Service calls Thrown σ)
    (B : σ × CallLog → Except Thrown AutoRotateResult → σ × CallLog → Prop) :
    σ × CallLog → Except Thrown AutoRotateResult → σ × CallLog → Prop :=
  Until (logging serve) Call.Quiet (fun result => result.outcome ≠ .rotated) B

variable {ruleId : Option Text} {switchResult : SwitchDomainResult} {c : Call} {α : Type} {useremail name : Text}
  {config : DomainConfig}

theorem reports_reportCapped {done : Nat}
    (hends : Ends (logging serve) (reportCapped opts canonical ruleId done) st r st') : Reports serve B st r st' := by
  refine hends.until_bind (only_perform.mpr trivial) fun day st₁ _ hends => ?_
  refine hends.until_bind (only_perform.mpr trivial) fun told st₂ _ hends => ?_
  split at hends
  · refine hends.until_bind quiet_alertAdmins fun _ st₃ _ hends => ?_
    exact hends.until_bind (quiet_quietly trivial) fun _ st₄ _ hends => hends.until_pure Outcome.noConfusion
  · exact hends.until_pure Outcome.noConfusion

theorem reports_reportNoCandidate {brokerDirty : Bool}
    (hends : Ends (logging serve) (reportNoCandidate canonical brokerDirty) st r st') : Reports serve B st r st' := by
  refine hends.until_bind (quiet_quietly trivial) fun _ st₁ _ hends => ?_
  refine hends.until_bind quiet_alertAdmins fun _ st₂ _ hends => ?_
  refine hends.until_bind (quiet_quietly trivial) fun _ st₃ _ hends => hends.until_pure ?_
  show (if brokerDirty then Outcome.brokerDown else .noCleanCandidate) ≠ .rotated
  split
  · exact Outcome.noConfusion
  · exact Outcome.noConfusion

theorem reports_reportNoRecord (hends : Ends (logging serve) (reportNoRecord canonical) st r st') :
    Reports serve B st r st' := by
  refine hends.until_bind (quiet_quietly trivial) fun _ st₁ _ hends => ?_
  refine hends.until_bind quiet_alertAdmins fun _ st₂ _ hends => ?_
  exact hends.until_bind (quiet_quietly trivial) fun _ st₃ _ hends => hends.until_pure Outcome.noConfusion

theorem reports_reportAborted
    (hends : Ends (logging serve) (reportAborted opts canonical switchResult) st r st') : Reports serve B st r st' := by
  refine hends.until_bind (quiet_quietly trivial) fun _ st₁ _ hends => ?_
  refine hends.until_bind quiet_alertAdmins fun _ st₂ _ hends => ?_
  exact hends.until_bind (quiet_quietly trivial) fun _ st₃ _ hends => hends.until_pure Outcome.noConfusion

theorem ends_quietly {r : Except Thrown Unit} (hends : Ends (logging serve) (quietly c) st r st') :
    r = .ok () ∧ ∃ reply, logging serve c st reply st' := by
  obtain ⟨_, rfl, hok⟩ | ⟨e, st₁, herror, hhandled⟩ := hends.of_tryCatch
  · obtain ⟨reply, st₁, hserve, hpure⟩ := hok.of_bind_ok
    obtain ⟨-, rfl⟩ := hpure.of_pure_ok
    exact ⟨rfl, _, ends_perform.mp hserve⟩
  · obtain ⟨rfl, rfl⟩ := ends_pure.mp hhandled
    obtain ⟨reply, st₁, hserve, hpure⟩ | ⟨e', -, hserve⟩ := herror.of_bind
    · cases (ends_pure.mp hpure).1
    · exact ⟨rfl, _, ends_perform.mp hserve⟩

variable {f : Unit → Task α}

theorem ends_quietly_bind {r : Except Thrown α} (hends : Ends (logging serve) (quietly c >>= f) st r st') :
    ∃ reply st₁, logging serve c st reply st₁ ∧ Ends (logging serve) (f ()) st₁ r st' := by
  obtain ⟨_, st₁, hquietly, hrest⟩ | ⟨e, rfl, hquietly⟩ := hends.of_bind
  · obtain ⟨-, reply, hserve⟩ := ends_quietly hquietly
    exact ⟨reply, st₁, hserve, hrest⟩
  · cases (ends_quietly hquietly).1

theorem silent_quietly_bind {r : Except Thrown α}
    (hends : Ends (logging serve) (quietly c >>= f) st r st') (hc : c.Quiet) :
    ∃ st₁, Silent serve st st₁ ∧ Ends (logging serve) (f ()) st₁ r st' := by
  obtain ⟨reply, st₁, hserve, hrest⟩ := ends_quietly_bind hends
  exact ⟨st₁, .single ⟨c, reply, hc, hserve⟩, hrest⟩

theorem silent_alertAdmins_bind {title body : String} {priority : Nat}
    {r : Except Thrown α} (hends : Ends (logging serve) (alertAdmins title body priority >>= f) st r st') :
    ∃ st₁, Silent serve st st₁ ∧ Ends (logging serve) (f ()) st₁ r st' := by
  obtain ⟨_, st₁, halert, hrest⟩ | ⟨e, rfl, halert⟩ := hends.of_bind
  · exact ⟨st₁, halert.steps quiet_alertAdmins, hrest⟩
  · obtain ⟨reply, st₁, -, halert⟩ := ends_quietly_bind halert
    cases (ends_quietly halert).1

def Counts (serve : Service calls Thrown σ) (day : Day) (st st' : σ × CallLog) : Prop :=
  ∃ st₁ reply st₂, Silent serve st st₁ ∧ logging serve (.redisIncr (.count day)) st₁ reply st₂ ∧
    Silent serve st₂ st'

theorem counts_reportRotated
    (hends : Ends (logging serve) (reportRotated opts canonical candidate ruleId day switchResult) st r st') :
    Counts serve day st st' ∧ ∃ result, r = .ok result ∧ result.outcome = .rotated := by
  obtain ⟨st₁, hcool, hends⟩ := silent_quietly_bind hends trivial
  obtain ⟨reply, st₂, hcount, hends⟩ := ends_quietly_bind hends
  obtain ⟨st₃, hexpire, hends⟩ := silent_quietly_bind hends trivial
  obtain ⟨st₄, haudit, hends⟩ := silent_quietly_bind hends trivial
  obtain ⟨st₅, halert, hends⟩ := silent_alertAdmins_bind hends
  obtain ⟨rfl, rfl⟩ := ends_pure.mp hends
  exact ⟨⟨st₁, reply, st₂, hcool, hcount, (hexpire.trans haudit).trans halert⟩, _, rfl, rfl⟩

theorem silent_reportFailed {detail : String} (hends : Ends (logging serve) (reportFailed detail) st r st') :
    Silent serve st st' ∧ ∃ result, r = .ok result ∧ result.outcome = .failed := by
  obtain ⟨st₁, haudit, hends⟩ := silent_quietly_bind hends trivial
  obtain ⟨st₂, halert, hends⟩ := silent_alertAdmins_bind hends
  obtain ⟨st₃, hcool, hends⟩ := silent_quietly_bind hends trivial
  obtain ⟨rfl, rfl⟩ := ends_pure.mp hends
  exact ⟨(haudit.trans halert).trans hcool, _, rfl, rfl⟩

/-! ## The switch -/

def Flips (serve : Service calls Thrown σ) (api : TextApi) (body : SwitchDomainInput) (st : σ × CallLog)
    (r : Except Thrown SwitchDomainResult) (st' : σ × CallLog) : Prop :=
  ∃ name r₁, (∃ zone, name = qualifyName api body.name zone) ∧ isValidHostname name = true ∧
    (∃ verification, Answered st.2 (.verifyDomain name) verification ∧ verification.dnsOk = true) ∧
      Ends (logging serve) (setCanonicalDomain api name) st r₁ st' ∧
        ((∃ e, r₁ = .error e ∧ r = .error e) ∨
          ∃ updated result, r₁ = .ok updated ∧ r = .ok result ∧ result.flipped = true)

/-- **How a switch ends.**  It has asked and written records only, and nothing is flipped; or it flips. -/
theorem switch_cases {body : SwitchDomainInput} {r : Except Thrown SwitchDomainResult}
    (hends : Ends (logging serve) (performDomainSwitch api env body) st r st') :
    Until (logging serve) Call.Quiet (fun result => result.flipped = false) (Flips serve api body) st r st' := by
  refine hends.until_bind (passive_getCloudflareConfig.mono quiet_of_passive) fun cf st₁ _ hends => ?_
  refine hends.until_bind only_orRaise fun cfZoneId st₂ _ hends => ?_
  refine hends.until_bind (only_perform.mpr trivial) fun _ st₃ _ hends => ?_
  refine hends.until_bind (only_perform.mpr trivial) fun zone st₄ _ hends => ?_
  obtain ⟨hvalid, hends⟩ | ⟨⟨e, rfl⟩, rfl⟩ := ends_checked hends
  · refine hends.until_bind (only_perform.mpr trivial) fun records st₅ _ hends => ?_
    refine hends.until_bind (passive_getDomainConfig.mono quiet_of_passive) fun config st₆ _ hends => ?_
    refine hends.until_bind quiet_writeTarget fun record st₇ _ hends => ?_
    refine hends.until_bind (passive_routeTunnel.mono quiet_of_passive) fun tunnel st₈ _ hends => ?_
    refine hends.until_bind (only_perform.mpr trivial) fun verification st₉ hverify hends => ?_
    split at hends
    · exact hends.until_pure rfl
    · next hok =>
        have hverified : ∃ verification,
            Answered st₉.2 (.verifyDomain (qualifyName api body.name zone.name)) verification ∧
              verification.dnsOk = true :=
          ⟨verification, mem_log_of_perform hverify, eq_true_of_ne_false hok⟩
        refine .inr ⟨st₉, .refl, ?_⟩
        obtain ⟨updated, st₁₀, hset, hends⟩ | ⟨e, rfl, hset⟩ := hends.of_bind
        · obtain ⟨rfl, rfl⟩ := ends_pure.mp hends
          exact ⟨_, _, ⟨zone.name, rfl⟩, hvalid, hverified, hset, .inr ⟨updated, _, rfl, rfl, rfl⟩⟩
        · exact ⟨_, _, ⟨zone.name, rfl⟩, hvalid, hverified, hset, .inl ⟨e, rfl, rfl⟩⟩
  · exact .failed .refl

/-! ## The pass -/

theorem found_searchCandidate {n : Nat} {probed : List Text} (hprobed : canonical ∈ probed)
    (hends : Ends (logging serve) (searchCandidate api canonical useremail n probed) st (.ok (.found name)) st') :
    (∃ used, canonical ∈ used ∧ nextRotatedHostname api canonical used autoRotateMaxCandidates = some name) ∧
      ∃ email verdict, Answered st'.2 (.check name email) verdict ∧ verdict.status = .clean := by
  induction n generalizing probed st with
  | zero => cases hends.of_pure_ok.1
  | succ n ih =>
      unfold searchCandidate at hends
      split at hends
      · cases hends.of_pure_ok.1
      · next next hnext =>
          obtain ⟨verdict, st₁, hcheck, hends⟩ := hends.of_bind_ok
          cases hstatus : verdict.status with
          | clean =>
              rw [hstatus] at hends
              obtain ⟨hfound, rfl⟩ := hends.of_pure_ok
              obtain rfl := Search.found.inj hfound
              exact ⟨⟨probed, hprobed, hnext⟩, useremail, verdict, mem_log_of_perform hcheck, hstatus⟩
          | unknown =>
              rw [hstatus] at hends
              cases hends.of_pure_ok.1
          | blocked =>
              rw [hstatus] at hends
              exact ih (List.mem_append_left _ hprobed) hends

def Rotates (serve : Service calls Thrown σ) (api : TextApi) (opts : AutoRotateOpts) (st : σ × CallLog)
    (r : Except Thrown AutoRotateResult) (st' : σ × CallLog) : Prop :=
  ∃ canonical candidate day name r₁ st₁, Gates api opts st.2 canonical candidate day name ∧
    Ends (logging serve) (setCanonicalDomain api name) st r₁ st₁ ∧
      ((∃ e, r₁ = .error e ∧ r = .error e ∧ st' = st₁) ∨
        ∃ updated result, r₁ = .ok updated ∧ r = .ok result ∧ result.outcome = .rotated ∧ Counts serve day st₁ st')

theorem rotateTo_cases (hcleared : Cleared api opts st.2 canonical candidate day)
    (hends : Ends (logging serve) (rotateTo api env opts canonical candidate ruleId day) st r st') :
    Reports serve (Rotates serve api opts) st r st' := by
  refine hends.until_bind (passive_getCloudflareConfig.mono quiet_of_passive) fun cf st₁ hcf hends => ?_
  refine hends.until_bind only_orRaise fun cfZoneId st₂ hid hends => ?_
  refine hends.until_bind (only_perform.mpr trivial) fun _ st₃ hclient hends => ?_
  refine hends.until_bind (only_perform.mpr trivial) fun zone st₄ hzone hends => ?_
  refine hends.until_bind (only_perform.mpr trivial) fun records st₅ hlist hends => ?_
  split at hends
  · exact reports_reportNoRecord hends
  · next currentRecord hcurrent =>
      have hlisted : ∃ zoneId records, Answered st₅.2 (.listDnsRecords zoneId) records ∧
          ∃ record ∈ records, api.lower record.name = canonical :=
        ⟨zone.id, records, mem_log_of_perform hlist, currentRecord, List.mem_of_find?_eq_some hcurrent,
          of_decide_eq_true (List.find?_some hcurrent :)⟩
      have hbefore : Cleared api opts st₅.2 canonical candidate day :=
        hcleared.mono fun _ hmem =>
          hlist.subset_log (hzone.subset_log (hclient.subset_log (hid.subset_log (hcf.subset_log hmem))))
      have hgates : ∀ st₆ name, Silent serve st₅ st₆ → (∃ zone, name = qualifyName api candidate zone) →
          isValidHostname name = true →
            (∃ verification, Answered st₆.2 (.verifyDomain name) verification ∧ verification.dnsOk = true) →
              Gates api opts st₆.2 canonical candidate day name :=
        fun st₆ name hsilent hqualified hvalid hverified =>
        { toCleared := hbefore.mono hsilent.subset_log
          listed := hlisted.imp fun _ h => h.imp fun _ h => ⟨hsilent.subset_log h.1, h.2⟩
          qualified := hqualified
          valid := hvalid
          verified := hverified }
      obtain ⟨switchResult, st₆, hswitch, hends⟩ | ⟨e, rfl, hswitch⟩ := hends.of_bind
      · obtain ⟨hsilent, hnone⟩ | ⟨st₇, hsilent, name, r₁, hqualified, hvalid, hverified, hset, hresult⟩ :=
          switch_cases hswitch
        · rw [if_pos (hnone switchResult rfl)] at hends
          exact (reports_reportAborted hends).of_steps hsilent
        · obtain ⟨e, -, herror⟩ | ⟨updated, result, rfl, hok, hflipped⟩ := hresult
          · cases herror
          · obtain rfl := Except.ok.inj hok
            rw [if_neg (by rw [hflipped]; exact Bool.noConfusion)] at hends
            obtain ⟨hcounts, reported, rfl, hrotated⟩ := counts_reportRotated hends
            refine .inr ⟨st₇, hsilent, canonical, candidate, day, name, _, st₆, ?_, hset, .inr ?_⟩
            · exact hgates st₇ name hsilent hqualified hvalid hverified
            · exact ⟨updated, reported, rfl, rfl, hrotated, hcounts⟩
      · obtain ⟨hsilent, -⟩ | ⟨st₇, hsilent, name, r₁, hqualified, hvalid, hverified, hset, hresult⟩ :=
          switch_cases hswitch
        · exact .failed hsilent
        · obtain ⟨e', rfl, herror⟩ | ⟨updated, result, -, hok, -⟩ := hresult
          · obtain rfl := Except.error.inj herror
            refine .inr ⟨st₇, hsilent, canonical, candidate, day, name, _, st', ?_, hset, .inl ?_⟩
            · exact hgates st₇ name hsilent hqualified hvalid hverified
            · exact ⟨e, rfl, rfl, rfl⟩
          · cases hok

theorem rotateBlocked_cases (hprobed : Probed api st.2 canonical)
    (hends : Ends (logging serve) (rotateBlocked api env opts config canonical useremail ruleId) st r st') :
    Reports serve (Rotates serve api opts) st r st' := by
  refine hends.until_bind (only_perform.mpr trivial) fun day st₁ hday hends => ?_
  refine hends.until_bind (only_perform.mpr trivial) fun done st₂ hdone hends => ?_
  split at hends
  · exact reports_reportCapped hends
  · next hleft =>
      refine hends.until_bind quiet_searchCandidate fun search st₃ hsearch hends => ?_
      cases search with
      | brokerDirty => exact reports_reportNoCandidate hends
      | exhausted => exact reports_reportNoCandidate hends
      | found candidate =>
          obtain ⟨hnext, hclean⟩ := found_searchCandidate List.mem_cons_self hsearch
          refine rotateTo_cases ?_ hends
          exact
            { toProbed := hprobed.mono fun _ hmem => hsearch.subset_log (hdone.subset_log (hday.subset_log hmem))
              dated := hsearch.subset_log (hdone.subset_log (mem_log_of_perform hday))
              uncapped := ⟨done, hsearch.subset_log (mem_log_of_perform hdone), Nat.lt_of_not_le hleft⟩
              next := hnext
              clean := hclean }

theorem probeCanonical_cases (henabled : Answered st.2 (.getSetting .autoRotate) (some "true".toList))
    (hstored : ∃ value, Answered st.2 (.getSetting .canonicalDomain) value ∧
      parsedCanonical api value = some canonical)
    (hends : Ends (logging serve) (probeCanonical api env opts config canonical useremail) st r st') :
    Reports serve (Rotates serve api opts) st r st' := by
  refine hends.until_bind (only_perform.mpr trivial) fun cooling st₁ hcooling hends => ?_
  split at hends
  · exact hends.until_pure Outcome.noConfusion
  · next hcold =>
      refine hends.until_bind (only_perform.mpr trivial) fun verdict st₂ hcheck hends => ?_
      have hlog : st.2 ⊆ st₂.2 := fun _ hmem => hcheck.subset_log (hcooling.subset_log hmem)
      cases hstatus : verdict.status with
      | clean =>
          rw [hstatus] at hends
          exact hends.until_pure Outcome.noConfusion
      | unknown =>
          rw [hstatus] at hends
          exact hends.until_pure Outcome.noConfusion
      | blocked =>
          rw [hstatus] at hends
          obtain rfl : cooling = none := by
            by_contra hsome
            exact hcold hsome
          refine rotateBlocked_cases ?_ hends
          exact
            { enabled := hlog henabled
              stored := hstored.imp fun _ h => ⟨hlog h.1, h.2⟩
              cooled := hcheck.subset_log (mem_log_of_perform hcooling)
              blocked := ⟨useremail, verdict, mem_log_of_perform hcheck, hstatus⟩ }

theorem stored_getDomainConfig {zone : Option Text}
    (hends : Ends (logging serve) (getDomainConfig api) st (.ok (config, zone)) st') :
    ∃ value, Answered st'.2 (.getSetting .canonicalDomain) value ∧
      parsedCanonical api value = config.canonical := by
  obtain ⟨value, st₁, hcanonical, hends⟩ := hends.of_bind_ok
  have hlog := hends.subset_log
  obtain ⟨aliases, st₂, -, hends⟩ := hends.of_bind_ok
  obtain ⟨zone', st₃, -, hends⟩ := hends.of_bind_ok
  obtain ⟨hconfig, -⟩ := hends.of_pure_ok
  obtain ⟨rfl, -⟩ := Prod.mk.inj hconfig
  exact ⟨value, hlog (mem_log_of_perform hcanonical), rfl⟩

theorem tryRotate_cases (hends : Ends (logging serve) (tryRotate api env opts) st r st') :
    Reports serve (Rotates serve api opts) st r st' := by
  refine hends.until_bind (only_perform.mpr trivial) fun enabled st₁ henabled hends => ?_
  by_cases hon : enabled = some "true".toList
  · rw [if_neg (not_not.mpr hon)] at hends
    refine hends.until_bind (passive_getDomainConfig.mono quiet_of_passive) fun found st₂ hread hends => ?_
    obtain ⟨config, zone⟩ := found
    obtain ⟨value, hvalue, hparsed⟩ := stored_getDomainConfig hread
    simp only at hends
    split at hends
    · exact hends.until_pure Outcome.noConfusion
    · next canonical hcanonical =>
        refine hends.until_bind quiet_getSecurlyConfig fun useremail st₃ hemail hends => ?_
        have hlog : st₁.2 ⊆ st₃.2 := fun _ hmem => hemail.subset_log (hread.subset_log hmem)
        cases useremail with
        | none => exact hends.until_pure Outcome.noConfusion
        | some useremail =>
            refine probeCanonical_cases ?_ ⟨value, hemail.subset_log hvalue, hparsed.trans hcanonical⟩ hends
            rw [← hon]
            exact hlog (mem_log_of_perform henabled)
  · rw [if_pos hon] at hends
    exact hends.until_pure Outcome.noConfusion

/-- **What a pass does.**  It asks and tells only, and reports no rotation; or, once every gate is open, it makes a name
the canonical domain, and then reports the failure or raises the counter of the day and reports the rotation. -/
theorem pass_cases (hends : Ends (logging serve) (runFilterRotatePass api env opts) st r st') :
    (Silent serve st st' ∧ ∀ result, r = .ok result → result.outcome ≠ .rotated) ∨
      ∃ st₁ canonical candidate day name r₁ st₂, Silent serve st st₁ ∧
        Gates api opts st₁.2 canonical candidate day name ∧
        Ends (logging serve) (setCanonicalDomain api name) st₁ r₁ st₂ ∧
          (((∃ e, r₁ = .error e) ∧ Silent serve st₂ st' ∧
              ∃ result, r = .ok result ∧ result.outcome = .failed) ∨
            ((∃ updated, r₁ = .ok updated) ∧ Counts serve day st₂ st' ∧
              ∃ result, r = .ok result ∧ result.outcome = .rotated)) := by
  obtain ⟨result, rfl, htried⟩ | ⟨e, st₃, htried, hfailed⟩ := hends.of_tryCatch
  · obtain hquiet | ⟨st₁, hsilent, canonical, candidate, day, name, r₁, st₂, hgates, hset, hend⟩ :=
      tryRotate_cases htried
    · exact .inl hquiet
    · obtain ⟨e, -, herror, -⟩ | ⟨updated, reported, rfl, hok, hrotated, hcounts⟩ := hend
      · cases herror
      · refine .inr ⟨st₁, canonical, candidate, day, name, _, st₂, hsilent, hgates, hset, .inr ?_⟩
        exact ⟨⟨updated, rfl⟩, hcounts, reported, hok, hrotated⟩
  · obtain ⟨hreport, reported, rfl, houtcome⟩ := silent_reportFailed hfailed
    obtain ⟨hsilent, -⟩ | ⟨st₁, hsilent, canonical, candidate, day, name, r₁, st₂, hgates, hset, hend⟩ :=
      tryRotate_cases htried
    · refine .inl ⟨hsilent.trans hreport, fun result hsame => ?_⟩
      rw [← Except.ok.inj hsame, houtcome]
      exact Outcome.noConfusion
    · obtain ⟨e', rfl, -, rfl⟩ | ⟨updated, reported', -, hok, -⟩ := hend
      · refine .inr ⟨st₁, canonical, candidate, day, name, _, st₃, hsilent, hgates, hset, .inl ?_⟩
        exact ⟨⟨e', rfl⟩, hreport, reported, rfl, houtcome⟩
      · cases hok

/-! ## The two writes -/

def Writes (serve : Service calls Thrown σ) (api : TextApi) (name : Text) (st : σ × CallLog)
    (r : Except Thrown DomainConfig) (st' : σ × CallLog) : Prop :=
  ∃ config reply st₁,
    (∃ value, Answered st.2 (.getSetting .canonicalDomain) value ∧ parsedCanonical api value = config.canonical) ∧
      logging serve (.setSetting .canonicalDomain name) st reply st₁ ∧
        ((∃ e, reply = .error e ∧ r = .error e ∧ st' = st₁) ∨
          (reply = .ok () ∧ ∃ reply',
            logging serve (.setSetting .domainAliases (api.stringify (distinct (nextAliases config name)))) st₁ reply' st' ∧
              ((∃ e, reply' = .error e ∧ r = .error e) ∨ reply' = .ok () ∧ ∃ updated, r = .ok updated)))

theorem setCanonicalDomain_cases {r : Except Thrown DomainConfig} (hvalid : isValidHostname name = true)
    (hends : Ends (logging serve) (setCanonicalDomain api name) st r st') :
    Until (logging serve) Call.Quiet (fun _ => False) (Writes serve api name) st r st' := by
  unfold setCanonicalDomain at hends
  rw [normalizeHostname_valid hvalid] at hends
  obtain ⟨-, hends⟩ | ⟨⟨e, rfl⟩, rfl⟩ := ends_checked hends
  · refine hends.until_bind (passive_getDomainConfig.mono quiet_of_passive) fun found st₁ hread hends => ?_
    obtain ⟨config, zone⟩ := found
    refine .inr ⟨st₁, .refl, config, ?_⟩
    have hstored := stored_getDomainConfig hread
    obtain ⟨_, st₂, hcanonical, hends⟩ | ⟨e, rfl, hcanonical⟩ := hends.of_bind
    · refine ⟨_, st₂, hstored, ends_perform.mp hcanonical, .inr ⟨rfl, ?_⟩⟩
      obtain ⟨_, st₃, haliases, hends⟩ | ⟨e, rfl, haliases⟩ := hends.of_bind
      · obtain ⟨rfl, rfl⟩ := ends_pure.mp hends
        exact ⟨_, ends_perform.mp haliases, .inr ⟨rfl, _, rfl⟩⟩
      · exact ⟨_, ends_perform.mp haliases, .inl ⟨e, rfl, rfl⟩⟩
    · exact ⟨_, st', hstored, ends_perform.mp hcanonical, .inl ⟨e, rfl, rfl, rfl⟩⟩
  · exact .failed .refl

end tour

/-! ## Samples -/

def sampleCanonical : Text := "app.example.com".toList

def sampleEnvironment : Environment := ⟨some "zone-1".toList, none, none, some "user@example.com".toList⟩

def sampleReply : (c : Call) → Option c.Reply
  | .redisGet _ => some none
  | .redisSet _ _ => some ()
  | .redisIncr _ => some ()
  | .redisExpire _ _ => some ()
  | .dayKey => some 20776
  | .getCloudflareClient => some ()
  | .getZone zoneId => some ⟨zoneId, "example.com".toList⟩
  | .listDnsRecords _ => some [⟨"record-1".toList, typeA, sampleCanonical, "203.0.113.10".toList, true⟩]
  | .createDnsRecord _ type name content proxied => some ⟨"record-2".toList, type, name, content, proxied⟩
  | .verifyDomain _ => some ⟨true, true, "ok"⟩
  | .check hostname _ => some ⟨if hostname = sampleCanonical then .blocked else .clean, none, "ok"⟩
  | .record _ => some ()
  | .notify _ _ => some ()
  | .sendGotifyMessage _ _ _ => some ()
  | _ => none

def sampleSettings : Settings
  | .autoRotate => some "true".toList
  | .canonicalDomain => some sampleCanonical
  | _ => none

def outcomeIs (outcome : Outcome) (r : Except Thrown AutoRotateResult) : Bool :=
  r.toOption.any fun result => decide (result.outcome = outcome)

end ProxVM.Domains
