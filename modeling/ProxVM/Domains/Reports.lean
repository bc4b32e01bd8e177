import ProxVM.Domains.Passes

/-!
# What a pass reports

The canonical domain and the aliases are two settings, written one after the other, and a failure of either write is
reported as one after which nothing was switched.
-/

namespace ProxVM.Domains

open Interaction

inductive Fault
  | none
  | lost
  | unacknowledged
  deriving DecidableEq, Repr

abbrev Faults := SettingKey → Fault

def Fault.Writes (fault : Fault) (key : SettingKey) (value : Text) (s : Settings) (r : Except Thrown Unit)
    (s' : Settings) : Prop :=
  match fault with
  | .none => r = .ok () ∧ s' = Function.update s key (some value)
  | .lost => (∃ e, r = .error e) ∧ s' = s
  | .unacknowledged => (∃ e, r = .error e) ∧ s' = Function.update s key (some value)

def faulty (faults : Faults) : Service calls Thrown Settings
  | .getSetting key, s, r, s' => s' = s ∧ ∀ value, r = .ok value → value = s key
  | .setSetting key value, s, r, s' => (faults key).Writes key value s r s'
  | _, s, _, s' => s' = s

def Faults.Harmless (faults : Faults) : Prop :=
  faults .canonicalDomain = .lost ∨ (faults .canonicalDomain = .none ∧ faults .domainAliases = .none)

instance (faults : Faults) : Decidable faults.Harmless := inferInstanceAs (Decidable (_ ∨ _))

def CameToWrite (log : CallLog) : Prop := ∃ value reply, ⟨.setSetting .canonicalDomain value, reply⟩ ∈ log

/-- What is reported has happened: unless a rotation is reported, the canonical domain and the aliases are as they were;
if one is, the former canonical domain is among the stored aliases. -/
def Reported (api : TextApi) (r : Except Thrown AutoRotateResult) (s s' : Settings) : Prop :=
  ∀ result, r = .ok result →
    (result.outcome ≠ .rotated → s' .canonicalDomain = s .canonicalDomain ∧ s' .domainAliases = s .domainAliases) ∧
      (result.outcome = .rotated → ∀ former, parsedCanonical api (s .canonicalDomain) = some former →
        ∃ stored raw, s' .domainAliases = some stored ∧ api.parse stored = some raw ∧ some former ∈ raw)

section faulty

variable {api : TextApi} {opts : AutoRotateOpts} {faults : Faults} {st st' : Settings × CallLog}

def Unchanged (s : Settings) (st : Settings × CallLog) : Prop :=
  st.1 = s ∧ ∀ key value, Answered st.2 (.getSetting key) value → value = s key

theorem Unchanged.call {s : Settings} {c : Call} {r : Except Thrown c.Reply} (hc : c.Quiet)
    (hunchanged : Unchanged s st) (hserve : logging (faulty faults) c st r st') : Unchanged s st' := by
  obtain ⟨hserve, hlog⟩ := hserve
  obtain ⟨rfl, hread⟩ := hunchanged
  cases c with
  | setSetting _ _ => exact hc.elim
  | getSetting key =>
      obtain ⟨hsame, hvalue⟩ := hserve
      refine ⟨hsame, fun key' value hmem => ?_⟩
      rw [Answered, hlog] at hmem
      obtain hnow | hbefore := List.mem_cons.mp hmem
      · cases hnow
        exact hvalue value rfl
      · exact hread key' value hbefore
  | _ =>
      refine ⟨hserve, fun key value hmem => ?_⟩
      rw [Answered, hlog] at hmem
      obtain hnow | hbefore := List.mem_cons.mp hmem
      · cases hnow
      · exact hread key value hbefore

variable {s : Settings} {day : Day} {canonical name : Text} {r : Except Thrown DomainConfig}
  {result : AutoRotateResult}

theorem Unchanged.steps (hunchanged : Unchanged s st) (hsteps : Silent (faulty faults) st st') :
    Unchanged s st' :=
  hsteps.keeps (fun _ _ _ _ hc hI hserve => hI.call hc hserve) hunchanged

theorem settings_of_silent (hsteps : Silent (faulty faults) st st') : st'.1 = st.1 := by
  refine hsteps.keeps (I := fun st' => st'.1 = st.1) (fun c st₁ r st₂ hc hsame hserve => ?_) rfl
  obtain ⟨hserve, -⟩ := hserve
  rw [← hsame]
  cases c with
  | setSetting _ _ => exact hc.elim
  | getSetting _ => exact hserve.1
  | _ => exact hserve

theorem cameToWrite_of_silent (hsteps : Silent (faulty faults) st st') (hcame : CameToWrite st'.2) :
    CameToWrite st.2 := by
  obtain ⟨value, reply, hmem⟩ := hcame
  obtain ⟨entries, hlog, hquiet⟩ := hsteps.extends_log
  rw [hlog] at hmem
  obtain hnew | hold := List.mem_append.mp hmem
  · exact (hquiet _ hnew).elim
  · exact ⟨value, reply, hold⟩

/-- **A name that is flipped to is not the former canonical domain.** -/
theorem Gates.ne {log : CallLog} {canonical candidate name : Text}
    (hgates : Gates api opts log canonical candidate day name) : name ≠ canonical := by
  rintro rfl
  have hvalid := hgates.valid
  obtain ⟨used, hmem, hnext⟩ := hgates.next
  obtain ⟨zone, hqualified⟩ := hgates.qualified
  rw [qualifyName_nextRotatedHostname (plain_of_isValidHostname hvalid) (dot_mem_of_isValidHostname hvalid)
    (getLast_of_isValidHostname hvalid) hnext] at hqualified
  have hnormal : normalizeHostname api name = name := normalizeHostname_valid hvalid
  exact ne_of_nextRotatedHostname hmem hnormal (ne_nil_of_isValidHostname hvalid) hnext hqualified.symm

theorem stored_ne (hvalid : isValidHostname name = true)
    (hparsed : parsedCanonical api (s .canonicalDomain) = some canonical) (hne : name ≠ canonical) :
    some name ≠ s .canonicalDomain := by
  intro hsame
  rw [← hsame, parsedCanonical, Option.map_some, normalizeHostname_valid hvalid, Option.filter_some,
    if_pos (decide_eq_true (ne_nil_of_isValidHostname hvalid))] at hparsed
  exact hne (Option.some.inj hparsed)

theorem Counts.settings (hcounts : Counts (faulty faults) day st st') : st'.1 = st.1 ∧ st.2 ⊆ st'.2 := by
  obtain ⟨st₁, reply, st₂, hbefore, ⟨hcount, hlog⟩, hafter⟩ := hcounts
  have hsame : st₂.1 = st₁.1 := hcount
  refine ⟨(settings_of_silent hafter).trans (hsame.trans (settings_of_silent hbefore)), fun entry hmem => ?_⟩
  refine hafter.subset_log ?_
  rw [hlog]
  exact List.mem_cons_of_mem _ (hbefore.subset_log hmem)

/-- **The two writes.**  Neither has an effect, or both are done, or the canonical domain is written and an error is
reported. -/
theorem writes_cases (hwrites : Writes (faulty faults) api name st r st') :
    (faults.Harmless ∧ (∃ e, r = .error e) ∧ st'.1 = st.1) ∨
      (faults.Harmless ∧ (∃ updated, r = .ok updated) ∧ ∃ config,
        (∃ value, Answered st.2 (.getSetting .canonicalDomain) value ∧ parsedCanonical api value = config.canonical) ∧
          st'.1 .domainAliases = some (api.stringify (distinct (nextAliases config name)))) ∨
        (¬ faults.Harmless ∧ (∃ e, r = .error e) ∧ st'.1 .canonicalDomain = some name) := by
  obtain ⟨config, reply, st₁, hstored, ⟨hwrite, -⟩, hrest⟩ := hwrites
  cases hfirst : faults .canonicalDomain with
  | lost =>
      rw [faulty, hfirst] at hwrite
      obtain ⟨⟨e, rfl⟩, hsame⟩ := hwrite
      obtain ⟨e', -, rfl, rfl⟩ | ⟨hok, -⟩ := hrest
      · exact .inl ⟨.inl hfirst, ⟨e', rfl⟩, hsame⟩
      · cases hok
  | unacknowledged =>
      rw [faulty, hfirst] at hwrite
      obtain ⟨⟨e, rfl⟩, hset⟩ := hwrite
      obtain ⟨e', -, rfl, rfl⟩ | ⟨hok, -⟩ := hrest
      · refine .inr (.inr ⟨by simp [Faults.Harmless, hfirst], ⟨e', rfl⟩, ?_⟩)
        rw [hset, Function.update_self]
      · cases hok
  | none =>
      rw [faulty, hfirst] at hwrite
      obtain ⟨rfl, hset⟩ := hwrite
      obtain ⟨e', herror, -⟩ | ⟨-, reply', ⟨haliases, -⟩, hlast⟩ := hrest
      · cases herror
      · cases hsecond : faults .domainAliases with
        | none =>
            rw [faulty, hsecond] at haliases
            obtain ⟨rfl, hset'⟩ := haliases
            obtain ⟨e, herror, -⟩ | ⟨-, updated, rfl⟩ := hlast
            · cases herror
            · refine .inr (.inl ⟨.inr ⟨hfirst, hsecond⟩, ⟨updated, rfl⟩, config, hstored, ?_⟩)
              rw [hset', Function.update_self]
        | lost =>
            rw [faulty, hsecond] at haliases
            obtain ⟨⟨e, rfl⟩, hset'⟩ := haliases
            obtain ⟨e', -, rfl⟩ | ⟨hok, -⟩ := hlast
            · refine .inr (.inr ⟨by simp [Faults.Harmless, hfirst, hsecond], ⟨e', rfl⟩, ?_⟩)
              rw [hset', hset, Function.update_self]
            · cases hok
        | unacknowledged =>
            rw [faulty, hsecond] at haliases
            obtain ⟨⟨e, rfl⟩, hset'⟩ := haliases
            obtain ⟨e', -, rfl⟩ | ⟨hok, -⟩ := hlast
            · refine .inr (.inr ⟨by simp [Faults.Harmless, hfirst, hsecond], ⟨e', rfl⟩, ?_⟩)
              rw [hset', Function.update_of_ne (by decide), hset, Function.update_self]
            · cases hok

theorem Writes.came (hwrites : Writes (faulty faults) api name st r st') : CameToWrite st'.2 := by
  obtain ⟨config, reply, st₁, -, ⟨-, hlog⟩, hrest⟩ := hwrites
  have hmem : (⟨.setSetting .canonicalDomain name, reply⟩ : (c : Call) × Except Thrown c.Reply) ∈ st₁.2 := by
    rw [hlog]
    exact List.mem_cons_self
  refine ⟨name, reply, ?_⟩
  obtain ⟨e, -, -, rfl⟩ | ⟨-, reply', ⟨-, hlog'⟩, -⟩ := hrest
  · exact hmem
  · rw [hlog']
    exact List.mem_cons_of_mem _ hmem

theorem reported_of_same (houtcome : result.outcome ≠ .rotated) : Reported api (.ok result) s s := by
  rintro _ ⟨⟩
  exact ⟨fun _ => ⟨rfl, rfl⟩, fun hrotated => absurd hrotated houtcome⟩

def Concludes (r : Except Thrown DomainConfig) (result : AutoRotateResult) : Prop :=
  ((∃ e, r = .error e) ∧ result.outcome = .failed) ∨ ((∃ updated, r = .ok updated) ∧ result.outcome = .rotated)

theorem Concludes.failed (hend : Concludes r result)
    (herror : ∃ e, r = .error e) : result.outcome = .failed := by
  obtain ⟨-, hfailed⟩ | ⟨⟨updated, rfl⟩, -⟩ := hend
  · exact hfailed
  · obtain ⟨e, he⟩ := herror
    cases he

theorem Concludes.rotated (hend : Concludes r result)
    (hok : ∃ updated, r = .ok updated) : result.outcome = .rotated := by
  obtain ⟨⟨e, rfl⟩, -⟩ | ⟨-, hrotated⟩ := hend
  · obtain ⟨updated, hupdated⟩ := hok
    cases hupdated
  · exact hrotated

/-- **After the writes**, what is reported has happened exactly if the faults are harmless. -/
theorem reported_of_writes (hvalid : isValidHostname name = true) (hne : name ≠ canonical) (hunchanged : Unchanged s st)
    (hcanonical : parsedCanonical api (s .canonicalDomain) = some canonical)
    (hwrites : Writes (faulty faults) api name st r st') (hend : Concludes r result) : Reported api (.ok result) s st'.1 ↔ faults.Harmless := by
  obtain ⟨hharmless, herror, hsame⟩ | ⟨hharmless, hok, config, hread, haliases⟩ | ⟨hharmful, herror, hchanged⟩ :=
    writes_cases hwrites
  · refine iff_of_true ?_ hharmless
    rw [hsame, hunchanged.1]
    refine reported_of_same ?_
    rw [hend.failed herror]
    exact Outcome.noConfusion
  · refine iff_of_true ?_ hharmless
    obtain ⟨value, hvalue, hparsed⟩ := hread
    have hconfig : config.canonical = some canonical := by
      rw [← hparsed, hunchanged.2 _ _ hvalue, hcanonical]
    rintro _ ⟨⟩
    refine ⟨fun hnot => absurd (hend.rotated hok) hnot, fun _ former hformer => ?_⟩
    obtain rfl := Option.some.inj (hcanonical.symm.trans hformer)
    refine ⟨_, _, haliases, api.parse_stringify _, List.mem_map_of_mem (mem_distinct.mpr ?_)⟩
    exact mem_nextAliases.mpr ⟨Ne.symm hne, .inr hconfig⟩
  · refine iff_of_false (fun hreported => ?_) hharmful
    have hkept := ((hreported result rfl).1 (by rw [hend.failed herror]; exact Outcome.noConfusion)).1
    exact stored_ne hvalid hcanonical hne (hchanged.symm.trans hkept)

end faulty

/-- **Where a pass reports what has happened.**  Exactly if it does not come to the writes, or the faults of the writes
are harmless. -/
theorem reported_iff (api : TextApi) (env : Environment) (opts : AutoRotateOpts) (faults : Faults) (s s' : Settings)
    (log : CallLog) (result : AutoRotateResult)
    (hends : Ends (logging (faulty faults)) (runFilterRotatePass api env opts) (s, []) (.ok result) (s', log)) :
    Reported api (.ok result) s s' ↔ (CameToWrite log → faults.Harmless) := by
  have hstart : Unchanged s (s, []) := ⟨rfl, fun _ _ hmem => absurd hmem List.not_mem_nil⟩
  have hsilently : Silent (faulty faults) (s, []) (s', log) → result.outcome ≠ .rotated →
      (Reported api (.ok result) s s' ↔ (CameToWrite log → faults.Harmless)) := by
    intro hsilent hnone
    obtain rfl : s' = s := settings_of_silent hsilent
    refine iff_of_true (reported_of_same hnone) fun hcame => ?_
    obtain ⟨_, _, hmem⟩ := cameToWrite_of_silent hsilent hcame
    cases hmem
  obtain ⟨hsilent, hnone⟩ | ⟨st₁, canonical, candidate, day, name, r₁, st₂, hsilent, hgates, hset, hend⟩ :=
    pass_cases hends
  · exact hsilently hsilent (hnone result rfl)
  · have hafter : Concludes r₁ result ∧ s' = st₂.1 ∧ st₂.2 ⊆ log := by
      obtain ⟨herror, hafter, reported, hok, hfailed⟩ | ⟨hset, hcounts, reported, hok, hrotated⟩ := hend
      · obtain rfl := Except.ok.inj hok
        exact ⟨.inl ⟨herror, hfailed⟩, settings_of_silent hafter, hafter.subset_log⟩
      · obtain rfl := Except.ok.inj hok
        exact ⟨.inr ⟨hset, hrotated⟩, hcounts.settings⟩
    obtain ⟨hread, hfails⟩ | ⟨st₃, hread, hwrites⟩ := setCanonicalDomain_cases hgates.valid hset
    · -- the configuration could not be read again
      obtain ⟨-, hquiet, -⟩ | ⟨⟨updated, hok⟩, -⟩ := hend
      · obtain ⟨⟨-, hfailed⟩ | ⟨⟨updated, hok⟩, -⟩, -⟩ := hafter
        · refine hsilently ((hsilent.trans hread).trans hquiet) ?_
          rw [hfailed]
          exact Outcome.noConfusion
        · exact (hfails updated hok).elim
      · exact (hfails updated hok).elim
    · obtain ⟨value, hvalue, hparsed⟩ := hgates.stored
      rw [(hstart.steps hsilent).2 _ _ hvalue] at hparsed
      obtain ⟨hconcludes, rfl, hlog⟩ := hafter
      have hcame : CameToWrite log := hwrites.came.imp fun _ h => h.imp fun _ hmem => hlog hmem
      rw [imp_iff_right hcame]
      exact reported_of_writes hgates.valid hgates.ne ((hstart.steps hsilent).steps hread) hparsed hwrites hconcludes

/-! ## Samples -/

def faultyAnswer (faults : Faults) : (c : Call) → Settings → Option (Except Thrown c.Reply × Settings)
  | .getSetting key, s => some (.ok (s key), s)
  | .setSetting key value, s =>
      match faults key with
      | .none => some (.ok (), Function.update s key (some value))
      | .lost => some (.error (.other "database is locked"), s)
      | .unacknowledged => some (.error (.other "connection reset"), Function.update s key (some value))
  | c, s => (sampleReply c).map fun reply => (.ok reply, s)

theorem faulty_faultyAnswer {faults : Faults} (c : Call) (s : Settings) (r : Except Thrown c.Reply) (s' : Settings)
    (hanswer : faultyAnswer faults c s = some (r, s')) : faulty faults c s r s' := by
  cases c with
  | getSetting key =>
      cases hanswer
      exact ⟨rfl, fun value h => (Except.ok.inj h).symm⟩
  | setSetting key value =>
      unfold faultyAnswer at hanswer
      unfold faulty Fault.Writes
      cases hfault : faults key with
      | none =>
          simp only [hfault] at hanswer ⊢
          cases hanswer
          exact ⟨rfl, rfl⟩
      | lost =>
          simp only [hfault] at hanswer ⊢
          cases hanswer
          exact ⟨⟨_, rfl⟩, rfl⟩
      | unacknowledged =>
          simp only [hfault] at hanswer ⊢
          cases hanswer
          exact ⟨⟨_, rfl⟩, rfl⟩
  | _ =>
      simp only [faultyAnswer, Option.map_eq_some_iff] at hanswer
      obtain ⟨reply, -, heq⟩ := hanswer
      exact (congrArg Prod.snd heq).symm

def settingsAfter (faults : Faults) : Settings :=
  (drive (faultyAnswer faults) 60 (runFilterRotatePass asciiApi sampleEnvironment {}, sampleSettings)).2

theorem ends_samplePass (faults : Faults) (outcome : Outcome) (hresult : (drive (faultyAnswer faults) 60
      (runFilterRotatePass asciiApi sampleEnvironment {}, sampleSettings)).1.result?.any (outcomeIs outcome) = true) :
    ∃ result, result.outcome = outcome ∧
      Ends (faulty faults) (runFilterRotatePass asciiApi sampleEnvironment {}) sampleSettings (.ok result)
        (settingsAfter faults) := by
  obtain ⟨r, hr, hends⟩ := exists_ends_of_drive faulty_faultyAnswer 60 hresult
  obtain ⟨result, hok, houtcome⟩ := (Option.any_eq_true _ _).mp hr
  cases r with
  | error e => cases hok
  | ok a =>
      cases hok
      exact ⟨_, of_decide_eq_true houtcome, hends⟩

def noFaults : Faults := fun _ => .none

def aliasesLost : Faults := fun key => if key = .domainAliases then .lost else .none

theorem reported_iff_sample : ∃ result, result.outcome = .rotated ∧
    Reported asciiApi (.ok result) sampleSettings (settingsAfter noFaults) := by
  obtain ⟨result, hrotated, hends⟩ := ends_samplePass noFaults .rotated (by decide +kernel)
  obtain ⟨log, hlogged⟩ := hends.logged []
  refine ⟨result, hrotated, ?_⟩
  exact (reported_iff asciiApi sampleEnvironment {} noFaults _ _ log result hlogged).mpr fun _ => by decide

/-- A switch of which the aliases are not written is reported as a failure. -/
theorem unwritten_aliases_misreported : ¬ ∀ (api : TextApi) (env : Environment) (opts : AutoRotateOpts) (faults : Faults)
    (s s' : Settings) (r : Except Thrown AutoRotateResult),
      Ends (faulty faults) (runFilterRotatePass api env opts) s r s' → Reported api r s s' := by
  intro hlaw
  obtain ⟨result, hfailed, hends⟩ := ends_samplePass aliasesLost .failed (by decide +kernel)
  have hkept := (hlaw _ _ _ _ _ _ _ hends result rfl).1 (by rw [hfailed]; exact Outcome.noConfusion)
  exact absurd hkept.1 (by decide +kernel)

end ProxVM.Domains
