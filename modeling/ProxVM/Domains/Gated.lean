import ProxVM.Domains.Passes

/-!
# Rotations pass every gate

Passes follow one another.  The settings may change at any time, so that a reading returns anything; between two passes
the counters of past days may expire.  Every call but those of the counters may fail.
-/

namespace ProxVM.Domains

open Interaction

/-! ## The system -/

structure Working where
  counts : Day → Nat
  today : Day

def shownCount (n : Nat) : Option Nat := if n = 0 then none else some n

theorem getD_shownCount (n : Nat) : (shownCount n).getD 0 = n := by
  unfold shownCount
  split
  · next hzero => exact hzero.symm
  · rfl

def FullName (api : TextApi) (name : Text) : Prop :=
  Plain (api.lower name) ∧ '.' ∈ api.lower name ∧ (api.lower name).getLast? ≠ some '.'

def Working.Serves (api : TextApi) : (c : Call) → Working → Except Thrown c.Reply → Working → Prop
  | .dayKey, w, r, w' => w'.counts = w.counts ∧ r = .ok w'.today
  | .redisGet (.count day), w, r, w' => w'.counts = w.counts ∧ r = .ok (shownCount (w.counts day))
  | .redisIncr (.count day), w, r, w' => w'.counts = Function.update w.counts day (w.counts day + 1) ∧ r = .ok ()
  | .listDnsRecords _, w, r, w' =>
      w'.counts = w.counts ∧ ∀ rows, r = .ok rows → ∀ record ∈ rows, FullName api record.name
  | _, w, _, w' => w'.counts = w.counts

def working (api : TextApi) : Service calls Thrown Working := fun c w r w' =>
  w.today ≤ w'.today ∧ Working.Serves api c w r w'

def Elapses (w w' : Working) : Prop :=
  w.today ≤ w'.today ∧ ∀ day, w'.today ≤ day → w'.counts day = w.counts day

inductive PassRun (api : TextApi) (env : Environment) (opts : AutoRotateOpts) : List CallLog → Working → Prop
  | start {w : Working} : PassRun api env opts [] w
  | pass {logs : List CallLog} {w w₁ w' : Working} {log : CallLog} {r : Except Thrown AutoRotateResult}
      (hbefore : PassRun api env opts logs w) (helapses : Elapses w w₁)
      (hends : Ends (logging (working api)) (runFilterRotatePass api env opts) (w₁, []) r (w', log)) :
      PassRun api env opts (log :: logs) w'

/-! ## What is claimed -/

structure Preceded (api : TextApi) (before : CallLog) (canonical name : Text) : Prop where
  enabled : Answered before (.getSetting .autoRotate) (some "true".toList)
  cooled : Answered before (.redisGet .cooldown) none
  stored : ∃ value, Answered before (.getSetting .canonicalDomain) value ∧ parsedCanonical api value = some canonical
  blocked : ∃ useremail verdict, Answered before (.check canonical useremail) verdict ∧ verdict.status = .blocked
  clean : ∃ useremail verdict, Answered before (.check name useremail) verdict ∧ verdict.status = .clean
  verified : ∃ verification, Answered before (.verifyDomain name) verification ∧ verification.dnsOk = true

def Gated (api : TextApi) (log : CallLog) : Prop :=
  ∀ name reply before, (⟨.setSetting .canonicalDomain name, reply⟩ :: before : CallLog) <:+ log →
    ∃ canonical, Preceded api before canonical name

def Call.isFlip : Call → Bool
  | .setSetting .canonicalDomain _ => true
  | _ => false

def Call.isCountOf (day : Day) : Call → Bool
  | .redisIncr (.count other) => decide (other = day)
  | _ => false

def flips (log : CallLog) : Nat := log.countP fun entry => entry.1.isFlip

def countedTo (day : Day) (log : CallLog) : Bool := log.any fun entry => entry.1.isCountOf day

def flipsCountedTo (day : Day) (logs : List CallLog) : Nat := ((logs.filter (countedTo day)).map flips).sum

def Completed (log : CallLog) : Prop :=
  (∃ name, Answered log (.setSetting .canonicalDomain name) ()) ∧
    ∃ value, Answered log (.setSetting .domainAliases value) ()

/-! ## What a pass has read -/

section pass

variable {api : TextApi} {env : Environment} {opts : AutoRotateOpts} {w : Working} {st st' : Working × CallLog}

def Sound (api : TextApi) (w : Working) : (c : Call) → Except Thrown c.Reply → Prop
  | .dayKey, r => ∀ day, r = .ok day → w.today ≤ day
  | .redisGet (.count day), r => r = .ok (shownCount (w.counts day))
  | .listDnsRecords _, r => ∀ rows, r = .ok rows → ∀ record ∈ rows, FullName api record.name
  | _, _ => True

structure Steady (api : TextApi) (w : Working) (st : Working × CallLog) : Prop where
  same : st.1.counts = w.counts
  later : w.today ≤ st.1.today
  sound : ∀ entry ∈ st.2, Sound api w entry.1 entry.2

theorem same_of_quiet {c : Call} {r : Except Thrown c.Reply} {w' : Working} (hc : c.Quiet)
    (hserve : Working.Serves api c w r w') : w'.counts = w.counts := by
  cases c with
  | redisIncr _ => exact hc.elim
  | dayKey => exact hserve.1
  | listDnsRecords zoneId => exact hserve.1
  | redisGet key =>
      cases key with
      | count day => exact hserve.1
      | cooldown => exact hserve
      | capped day => exact hserve
  | _ => exact hserve

theorem sound_of_serves {c : Call} {r : Except Thrown c.Reply} {w₁ w' : Working} (hsame : w₁.counts = w.counts)
    (hlater : w.today ≤ w'.today) (hserve : Working.Serves api c w₁ r w') : Sound api w c r := by
  cases c with
  | dayKey =>
      intro day hok
      rw [← Except.ok.inj (hserve.2.symm.trans hok)]
      exact hlater
  | redisGet key =>
      cases key with
      | count day =>
          show r = _
          rw [hserve.2, hsame]
      | cooldown => trivial
      | capped day => trivial
  | listDnsRecords zoneId => exact hserve.2
  | _ => trivial

theorem Steady.call {c : Call} {r : Except Thrown c.Reply} (hc : c.Quiet) (hsteady : Steady api w st)
    (hserve : logging (working api) c st r st') : Steady api w st' := by
  obtain ⟨⟨hlater, hserve⟩, hlog⟩ := hserve
  have htoday : w.today ≤ st'.1.today := hsteady.later.trans hlater
  refine ⟨(same_of_quiet hc hserve).trans hsteady.same, htoday, ?_⟩
  rw [hlog]
  exact List.forall_mem_cons.mpr ⟨sound_of_serves hsteady.same htoday hserve, hsteady.sound⟩

theorem Steady.steps (hsteady : Steady api w st) (hsteps : Silent (working api) st st') : Steady api w st' :=
  hsteps.keeps (fun _ _ _ _ hc hI hserve => hI.call hc hserve) hsteady

theorem Steady.answered {c : Call} {reply : c.Reply} (hsteady : Steady api w st) (hanswered : Answered st.2 c reply) :
    Sound api w c (.ok reply) := hsteady.sound _ hanswered

theorem Steady.start (api : TextApi) (w : Working) : Steady api w (w, []) := ⟨rfl, Nat.le_refl _, List.forall_mem_nil _⟩

/-- **Through the gates.**  What has been found holds, and the name is the candidate that was found clean. -/
theorem Gates.preceded {canonical candidate name : Text} {day : Day} (hsteady : Steady api w st)
    (hgates : Gates api opts st.2 canonical candidate day name) : Preceded api st.2 canonical name := by
  obtain ⟨zoneId, records, hrecords, record, hmem, hname⟩ := hgates.listed
  obtain ⟨used, -, hnext⟩ := hgates.next
  obtain ⟨zone, hqualified⟩ := hgates.qualified
  have hfull : FullName api record.name := hsteady.answered hrecords records rfl record hmem
  have hsame : name = candidate := by
    rw [FullName, hname] at hfull
    rw [hqualified, qualifyName_nextRotatedHostname hfull.1 hfull.2.1 hfull.2.2 hnext]
  subst hsame
  exact ⟨hgates.enabled, hgates.cooled, hgates.stored, hgates.blocked, hgates.clean, hgates.verified⟩

theorem Gates.left {canonical candidate name : Text} {day : Day} (hsteady : Steady api w st)
    (hgates : Gates api opts st.2 canonical candidate day name) :
    w.today ≤ day ∧ w.counts day < opts.maxPerDay := by
  obtain ⟨done, hdone, hless⟩ := hgates.uncapped
  have hshown : (.ok done : Except Thrown (Option Nat)) = .ok (shownCount (w.counts day)) := hsteady.answered hdone
  rw [Except.ok.inj hshown, getD_shownCount] at hless
  exact ⟨hsteady.answered hgates.dated day rfl, hless⟩

/-! ## The log of a pass -/

theorem gated_nil : Gated api [] := by
  intro name reply before hsuffix
  cases List.suffix_nil.mp hsuffix

theorem Gated.cons {c : Call} {r : Except Thrown c.Reply} {log : CallLog} (hgated : Gated api log)
    (hflip : ∀ name, c = .setSetting .canonicalDomain name → ∃ canonical, Preceded api log canonical name) :
    Gated api (⟨c, r⟩ :: log) := by
  intro name reply before hsuffix
  obtain hall | hlater := List.suffix_cons_iff.mp hsuffix
  · cases hall
    exact hflip name rfl
  · exact hgated name reply before hlater

theorem Gated.steps (hsteps : Silent (working api) st st') (hgated : Gated api st.2) : Gated api st'.2 := by
  refine hsteps.keeps (I := fun st => Gated api st.2) (fun c st₁ r st₂ hc hgated hserve => ?_) hgated
  rw [hserve.2]
  refine hgated.cons ?_
  rintro name rfl
  exact hc.elim

theorem flips_cons {c : Call} {r : Except Thrown c.Reply} {log : CallLog} :
    flips (⟨c, r⟩ :: log) = flips log + if c.isFlip then 1 else 0 := List.countP_cons

theorem countedTo_cons {c : Call} {r : Except Thrown c.Reply} {log : CallLog} {day : Day} :
    countedTo day (⟨c, r⟩ :: log) = (c.isCountOf day || countedTo day log) := List.any_cons

theorem same_of_silent (hsteps : Silent (working api) st st') : st'.1.counts = st.1.counts := by
  refine hsteps.keeps (I := fun st' => st'.1.counts = st.1.counts) (fun c st₁ r st₂ hc hsame hserve => ?_) rfl
  exact (same_of_quiet hc hserve.1.2).trans hsame

theorem tally_of_silent (hsteps : Silent (working api) st st') :
    flips st'.2 = flips st.2 ∧ ∀ day, countedTo day st'.2 = countedTo day st.2 := by
  refine hsteps.keeps
    (I := fun st' => flips st'.2 = flips st.2 ∧ ∀ day, countedTo day st'.2 = countedTo day st.2) ?_ ⟨rfl, fun _ => rfl⟩
  intro c st₁ r st₂ hc hsame hserve
  have hneither : c.isFlip = false ∧ ∀ day, c.isCountOf day = false := by
    cases c with
    | setSetting _ _ => exact hc.elim
    | redisIncr _ => exact hc.elim
    | _ => exact ⟨rfl, fun _ => rfl⟩
  rw [hserve.2, flips_cons, hneither.1]
  refine ⟨hsame.1, fun day => ?_⟩
  rw [countedTo_cons, hneither.2 day]
  exact hsame.2 day

theorem mem_of_silent (hsteps : Silent (working api) st st') {c : Call} {r : Except Thrown c.Reply} (hc : ¬ c.Quiet)
    (hmem : ⟨c, r⟩ ∈ st'.2) : ⟨c, r⟩ ∈ st.2 := by
  obtain ⟨entries, hlog, hquiet⟩ := hsteps.extends_log
  rw [hlog] at hmem
  exact (List.mem_append.mp hmem).resolve_left fun hnew => hc (hquiet _ hnew)

def Accounts (opts : AutoRotateOpts) (w : Working) (log : CallLog) (w' : Working) : Prop :=
  flips log ≤ 1 ∧
    ((∀ day, countedTo day log = false) ∧ w'.counts = w.counts ∧ ¬ Completed log ∨
      ∃ day, w.today ≤ day ∧ w.counts day < opts.maxPerDay ∧ Answered log .dayKey day ∧
        w'.counts = Function.update w.counts day (w.counts day + 1) ∧
          ∀ other, countedTo other log = decide (day = other))

theorem accounts_of_silent {w' : Working} {log : CallLog} (hsteps : Silent (working api) (w, []) (w', log)) :
    Gated api log ∧ Accounts opts w log w' := by
  have htally := tally_of_silent hsteps
  have hsteady := (Steady.start api w).steps hsteps
  refine ⟨Gated.steps hsteps gated_nil, ?_, .inl ⟨htally.2, hsteady.same, ?_⟩⟩
  · rw [htally.1]
    exact Nat.zero_le 1
  · rintro ⟨⟨name, hname⟩, -⟩
    cases mem_of_silent hsteps id hname

theorem Writes.log {name : Text} {r : Except Thrown DomainConfig} (hwrites : Writes (working api) api name st r st') :
    st'.1.counts = st.1.counts ∧
      ((∃ e, st'.2 = ⟨.setSetting .canonicalDomain name, .error e⟩ :: st.2 ∧ r = .error e) ∨ ∃ value reply,
          st'.2 = ⟨.setSetting .domainAliases value, reply⟩ :: ⟨.setSetting .canonicalDomain name, .ok ()⟩ :: st.2 ∧
            ((∃ e, reply = .error e) ∨ ∃ updated, r = .ok updated)) := by
  obtain ⟨config, reply, st₁, -, ⟨⟨-, hcounts⟩, hlog⟩, hrest⟩ := hwrites
  obtain ⟨e, rfl, rfl, rfl⟩ | ⟨rfl, reply', ⟨⟨-, hcounts'⟩, hlog'⟩, hend⟩ := hrest
  · exact ⟨hcounts, .inl ⟨e, hlog, rfl⟩⟩
  · refine ⟨hcounts'.trans hcounts, .inr ⟨_, reply', ?_, ?_⟩⟩
    · rw [hlog', hlog]
    · exact hend.imp (fun ⟨e, he, _⟩ => ⟨e, he⟩) fun h => h.2

theorem Writes.tally {name : Text} {r : Except Thrown DomainConfig} (hwrites : Writes (working api) api name st r st')
    (hgated : Gated api st.2) (hpreceded : ∃ canonical, Preceded api st.2 canonical name) :
    Gated api st'.2 ∧ st.2 ⊆ st'.2 ∧ flips st'.2 = flips st.2 + 1 ∧
      ∀ day, countedTo day st'.2 = countedTo day st.2 := by
  have hcanonical : ∀ r, Gated api (⟨.setSetting .canonicalDomain name, r⟩ :: st.2) := by
    refine fun r => hgated.cons ?_
    rintro _ ⟨⟩
    exact hpreceded
  obtain ⟨-, ⟨e, hlog, -⟩ | ⟨value, reply, hlog, -⟩⟩ := hwrites.log
  · rw [hlog]
    exact ⟨hcanonical _, List.subset_cons_self _ _, flips_cons, fun day => rfl⟩
  · rw [hlog]
    refine ⟨(hcanonical _).cons nofun, fun entry hmem => ?_, ?_, fun day => rfl⟩
    · exact List.mem_cons_of_mem _ (List.mem_cons_of_mem _ hmem)
    · rw [flips_cons, flips_cons]
      rfl

theorem Writes.not_completed {name : Text} {e : Thrown} (hwrites : Writes (working api) api name st (.error e) st')
    (hbefore : ∀ key value r, ⟨.setSetting key value, r⟩ ∉ st.2) : ¬ Completed st'.2 := by
  rintro ⟨⟨name', hname⟩, value', hvalue⟩
  rw [Answered] at hname hvalue
  obtain ⟨-, ⟨e', hlog, -⟩ | ⟨value, reply, hlog, ⟨e', rfl⟩ | ⟨updated, hok⟩⟩⟩ := hwrites.log
  · -- the canonical domain was not written
    rw [hlog] at hname
    obtain hnow | hthen := List.mem_cons.mp hname
    · cases hnow
    · exact hbefore _ _ _ hthen
  · -- the aliases were not written
    rw [hlog] at hvalue
    obtain hnow | hthen := List.mem_cons.mp hvalue
    · cases hnow
    · obtain hnow | hthen := List.mem_cons.mp hthen
      · cases hnow
      · exact hbefore _ _ _ hthen
  · cases hok

theorem Counts.tally {day : Day} (hcounts : Counts (working api) day st st') :
    st'.1.counts = Function.update st.1.counts day (st.1.counts day + 1) ∧ st.2 ⊆ st'.2 ∧
      flips st'.2 = flips st.2 ∧ (Gated api st.2 → Gated api st'.2) ∧
        ∀ other, countedTo other st'.2 = (decide (day = other) || countedTo other st.2) := by
  obtain ⟨st₁, reply, st₂, hbefore, ⟨⟨-, hserve⟩, hlog⟩, hafter⟩ := hcounts
  obtain ⟨hraised, -⟩ := hserve
  have hfirst := tally_of_silent hbefore
  have hlast := tally_of_silent hafter
  refine ⟨?_, fun entry hmem => hafter.subset_log ?_, ?_, fun hgated => Gated.steps hafter ?_, fun other => ?_⟩
  · rw [same_of_silent hafter, hraised, same_of_silent hbefore]
  · rw [hlog]
    exact List.mem_cons_of_mem _ (hbefore.subset_log hmem)
  · rw [hlast.1, hlog, flips_cons, hfirst.1]
    rfl
  · rw [hlog]
    exact (Gated.steps hbefore hgated).cons nofun
  · rw [hlast.2, hlog, countedTo_cons, hfirst.2]
    rfl

/-- **One pass.**  It writes the canonical domain behind its gates, at most once, and counts what it has completed. -/
theorem pass_accounts {w' : Working} {log : CallLog} {r : Except Thrown AutoRotateResult}
    (hends : Ends (logging (working api)) (runFilterRotatePass api env opts) (w, []) r (w', log)) :
    Gated api log ∧ Accounts opts w log w' := by
  obtain ⟨hsilent, -⟩ | ⟨st₁, canonical, candidate, day, name, r₁, st₂, hsilent, hgates, hset, hend⟩ :=
    pass_cases hends
  · exact accounts_of_silent hsilent
  · obtain ⟨hread, hfails⟩ | ⟨st₃, hread, hwrites⟩ := setCanonicalDomain_cases hgates.valid hset
    · obtain ⟨-, hafter, -⟩ | ⟨⟨updated, hok⟩, -⟩ := hend
      · exact accounts_of_silent ((hsilent.trans hread).trans hafter)
      · exact (hfails updated hok).elim
    · have hbefore : Silent (working api) (w, []) st₃ := hsilent.trans hread
      have hsteady : Steady api w st₃ := (Steady.start api w).steps hbefore
      have hgates₃ := hgates.mono hread.subset_log
      have hnone := tally_of_silent hbefore
      have hgated₃ : Gated api st₃.2 := Gated.steps hbefore gated_nil
      obtain ⟨hgated, hlogged, hflips, hcounted⟩ :=
        hwrites.tally hgated₃ ⟨canonical, hgates₃.preceded hsteady⟩
      have hcounts : st₂.1.counts = w.counts := hwrites.log.1.trans hsteady.same
      have honce : flips st₂.2 = 1 := by rw [hflips, hnone.1]; rfl
      have huncounted : ∀ day, countedTo day st₂.2 = false := fun day => (hcounted day).trans (hnone.2 day)
      obtain ⟨⟨e, rfl⟩, hafter, -⟩ | ⟨-, hcount, -⟩ := hend
      · have htally := tally_of_silent hafter
        refine ⟨Gated.steps hafter hgated, (htally.1.trans honce).le, .inl ⟨?_, ?_, ?_⟩⟩
        · exact fun day => (htally.2 day).trans (huncounted day)
        · exact (same_of_silent hafter).trans hcounts
        · rintro ⟨⟨name', hname⟩, value', hvalue⟩
          refine hwrites.not_completed (fun key value r hmem => ?_)
            ⟨⟨name', mem_of_silent hafter id hname⟩, value', mem_of_silent hafter id hvalue⟩
          cases mem_of_silent hbefore id hmem
      · obtain ⟨hraised, hgrows, hsame, hkept, hall⟩ := hcount.tally
        obtain ⟨htoday, hleft⟩ := hgates₃.left hsteady
        refine ⟨hkept hgated, (hsame.trans honce).le, .inr ⟨day, htoday, hleft, ?_, ?_, fun other => ?_⟩⟩
        · exact hgrows (hlogged hgates₃.dated)
        · rw [hraised, hcounts]
        · rw [hall, huncounted, Bool.or_false]

/-! ## Runs -/

theorem later_of_ends {α : Type} {p : Task α} {r : Except Thrown α}
    (hends : Ends (logging (working api)) p st r st') : st.1.today ≤ st'.1.today := by
  induction hends with
  | ret => exact Nat.le_refl _
  | raise => exact Nat.le_refl _
  | call hserve _ ih => exact hserve.1.1.trans ih

theorem flipsCountedTo_cons {day : Day} {log : CallLog} {logs : List CallLog} :
    flipsCountedTo day (log :: logs) =
      (if countedTo day log = true then flips log else 0) + flipsCountedTo day logs := by
  unfold flipsCountedTo
  by_cases hcounted : countedTo day log = true
  · rw [List.filter_cons_of_pos hcounted, List.map_cons, List.sum_cons, if_pos hcounted]
  · rw [List.filter_cons_of_neg hcounted, if_neg hcounted, Nat.zero_add]

/-- **The counters.**  The rotations counted to a day are at most the cap, and the counter of a day that is not over is
not below them. -/
theorem run_counts {logs : List CallLog} (hrun : PassRun api env opts logs w) (day : Day) :
    flipsCountedTo day logs ≤ opts.maxPerDay ∧ (w.today ≤ day → flipsCountedTo day logs ≤ w.counts day) := by
  induction hrun with
  | start => exact ⟨Nat.zero_le _, fun _ => Nat.zero_le _⟩
  | @pass logs w w₁ w' log r _ helapses hends ih =>
      have htoday : w₁.today ≤ w'.today := later_of_ends hends
      have hbefore : w₁.today ≤ day → flipsCountedTo day logs ≤ w₁.counts day := by
        intro hopen
        rw [helapses.2 day hopen]
        exact ih.2 (helapses.1.trans hopen)
      obtain ⟨-, honce, ⟨hnone, hsame, -⟩ | ⟨counted, hopen, hleft, -, hraised, hall⟩⟩ := pass_accounts hends
      · rw [flipsCountedTo_cons, hnone day, if_neg Bool.false_ne_true, Nat.zero_add, hsame]
        exact ⟨ih.1, fun hlater => hbefore (htoday.trans hlater)⟩
      · rw [flipsCountedTo_cons, hall day, hraised]
        by_cases hday : counted = day
        · -- the counter of the day has been raised with the rotation
          subst hday
          have hcounter := hbefore hopen
          rw [if_pos (decide_eq_true rfl), Function.update_self]
          constructor
          · omega
          · omega
        · rw [if_neg (by simpa using hday), Nat.zero_add, Function.update_of_ne (Ne.symm hday)]
          exact ⟨ih.1, fun hlater => hbefore (htoday.trans hlater)⟩

end pass

/-- **Automatic rotation passes every gate.**  Over every run of passes: a write of the canonical domain is preceded, in
its pass, by an enabled switch, an absent cooldown, a blocked verdict on the canonical domain, a clean verdict on the very
name that is written, and its positive verification; the rotations counted to a day are at most the cap; and what is
counted is counted to the day that the pass has read, as is every rotation that is completed. -/
theorem gated_passes (api : TextApi) (env : Environment) (opts : AutoRotateOpts) (logs : List CallLog) (w : Working)
    (hrun : PassRun api env opts logs w) :
    (∀ log ∈ logs, Gated api log) ∧ (∀ day, flipsCountedTo day logs ≤ opts.maxPerDay) ∧
      ∀ log ∈ logs, (∀ day, countedTo day log = true → Answered log .dayKey day) ∧
        (Completed log → ∃ day, countedTo day log = true) := by
  refine ⟨?_, fun day => (run_counts hrun day).1, ?_⟩
  · induction hrun with
    | start => exact nofun
    | pass _ _ hends ih => exact List.forall_mem_cons.mpr ⟨(pass_accounts hends).1, ih⟩
  · induction hrun with
    | start => exact nofun
    | pass _ _ hends ih =>
        refine List.forall_mem_cons.mpr ⟨?_, ih⟩
        obtain ⟨-, -, ⟨hnone, -, hnever⟩ | ⟨counted, -, -, hdated, -, hall⟩⟩ := pass_accounts hends
        · refine ⟨fun day hcounted => ?_, fun hcompleted => absurd hcompleted hnever⟩
          rw [hnone day] at hcounted
          cases hcounted
        · refine ⟨fun day hcounted => ?_, fun _ => ⟨counted, ?_⟩⟩
          · rw [hall day] at hcounted
            rwa [← of_decide_eq_true hcounted]
          · rw [hall counted]
            exact decide_eq_true rfl

/-! ## Samples -/

def workingAnswer : (c : Call) → Working → Option (Except Thrown c.Reply × Working)
  | .getSetting key, w => some (.ok (sampleSettings key), w)
  | .setSetting _ _, w => some (.ok (), w)
  | .dayKey, w => some (.ok w.today, w)
  | .redisGet (.count day), w => some (.ok (shownCount (w.counts day)), w)
  | .redisIncr (.count day), w => some (.ok (), { w with counts := Function.update w.counts day (w.counts day + 1) })
  | .redisIncr _, _ => none
  | c, w => (sampleReply c).map fun reply => (.ok reply, w)

theorem working_workingAnswer (c : Call) (w : Working) (r : Except Thrown c.Reply) (w' : Working)
    (hanswer : workingAnswer c w = some (r, w')) : working asciiApi c w r w' := by
  cases c with
  | getSetting key =>
      cases hanswer
      exact ⟨Nat.le_refl _, rfl⟩
  | setSetting key value =>
      cases hanswer
      exact ⟨Nat.le_refl _, rfl⟩
  | dayKey =>
      cases hanswer
      exact ⟨Nat.le_refl _, rfl, rfl⟩
  | redisGet key =>
      cases key with
      | count day =>
          cases hanswer
          exact ⟨Nat.le_refl _, rfl, rfl⟩
      | _ =>
          cases hanswer
          exact ⟨Nat.le_refl _, rfl⟩
  | redisIncr key =>
      cases key with
      | count day =>
          cases hanswer
          exact ⟨Nat.le_refl _, rfl, rfl⟩
      | _ => cases hanswer
  | listDnsRecords zoneId =>
      cases hanswer
      refine ⟨Nat.le_refl _, rfl, fun rows hok record hmem => ?_⟩
      rw [← Except.ok.inj hok] at hmem
      rw [List.mem_singleton.mp hmem]
      exact ⟨List.all_eq_true.mp (by decide +kernel), by decide +kernel, by decide +kernel⟩
  | _ =>
      simp only [workingAnswer, Option.map_eq_some_iff] at hanswer
      obtain ⟨reply, -, heq⟩ := hanswer
      obtain rfl : w = w' := congrArg Prod.snd heq
      exact ⟨Nat.le_refl _, rfl⟩

def sampleDay : Working := ⟨fun _ => 0, 20776⟩

def rotatedDay : Working := (drive workingAnswer 60 (runFilterRotatePass asciiApi sampleEnvironment {}, sampleDay)).2

theorem gated_passes_sample : ∃ logs, PassRun asciiApi sampleEnvironment {} logs rotatedDay ∧
    rotatedDay.counts 20776 = 1 ∧ (∀ log ∈ logs, Gated asciiApi log) ∧ ∀ day, flipsCountedTo day logs ≤ 5 := by
  obtain ⟨r, -, hends⟩ := exists_ends_of_drive (Q := outcomeIs .rotated) working_workingAnswer 60
    (p := runFilterRotatePass asciiApi sampleEnvironment {}) (s := sampleDay) (by decide +kernel)
  obtain ⟨log, hlogged⟩ := hends.logged []
  have hrun : PassRun asciiApi sampleEnvironment {} [log] rotatedDay :=
    .pass .start ⟨Nat.le_refl _, fun _ _ => rfl⟩ hlogged
  have hgated := gated_passes asciiApi sampleEnvironment {} [log] rotatedDay hrun
  exact ⟨[log], hrun, by decide +kernel, hgated.1, hgated.2.1⟩

end ProxVM.Domains
