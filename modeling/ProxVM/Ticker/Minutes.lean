import ProxVM.Lib.Solo
import ProxVM.Ticker.Passes

/-!
# Schedules and their minute

A pass lists the schedules, looks which of them are due in the minute it was started in, and claims each by
an UPDATE of `last_run_at` before it acts.  The UPDATE is unconditional and stamps the clock of the database.
-/

namespace ProxVM.Ticker

open Tables Interaction Context

/-! ## What a schedule is due for -/

/-- The wall clock may come back to a minute, but in between it shows the time of day of that minute only
in that minute. -/
def Locale.Steady (loc : Locale) : Prop :=
  ∀ t₁ t t₂, t₁ ≤ t → t ≤ t₂ → loc.wall t₁ = loc.wall t₂ → (loc.wall t).hours = (loc.wall t₁).hours →
    (loc.wall t).minutes = (loc.wall t₁).minutes → loc.wall t = loc.wall t₁

theorem due_of_scheduleDueNow {loc : Locale} {minute hour : Nat} {days : String} {enabled : Bool}
    {lastRunAt : Option Int} {now : Int}
    (hdue : scheduleDueNow loc minute hour days enabled lastRunAt now = .ok true) :
    (loc.wall now).minutes = minute ∧ (loc.wall now).hours = hour ∧
      ∀ last, lastRunAt = some last → loc.wall last ≠ loc.wall now := by
  unfold scheduleDueNow at hdue
  split at hdue
  · cases hdue
  · split at hdue
    · cases hdue
    · next htime =>
        rw [not_or, not_not, not_not] at htime
        refine ⟨htime.1, htime.2, ?_⟩
        rintro last rfl
        split at hdue
        · cases hdue
        · split at hdue
          · cases hdue
          · simpa using hdue

structure Entry where
  minute : Nat
  hour : Nat
  lastRunAt : Option Int

def World.entry (w : World) : ScheduleRef → Option Entry
  | .power id => (w.schedules.find? id).map fun s => ⟨s.minute, s.hour, s.lastRunAt⟩
  | .backup id => (w.backupSchedules.find? id).map fun s => ⟨s.minute, s.hour, s.lastRunAt⟩

section entries

variable {w w' : World} {due : Firing} {ref : ScheduleRef} {e : Entry}

variable {id : Schedules.ScheduleId}

theorem entry_claimSchedule (hentry : (w.claimSchedule due id).entry ref = some e) :
    (ref = .power id ∧ ∃ e₀, w.entry ref = some e₀ ∧ e = { e₀ with lastRunAt := some w.now }) ∨
      (ref ≠ .power id ∧ w.entry ref = some e) := by
  cases ref with
  | backup id' => exact .inr ⟨nofun, hentry⟩
  | power id' =>
      have hkey : ∀ s : PowerSchedule, { s with lastRunAt := some w.now }.id = s.id := fun _ => rfl
      obtain ⟨rfl, s, hfind, rfl⟩ | ⟨hne, hold⟩ := Table.find?_updateWhere_cases hkey hentry
      · exact .inl ⟨rfl, _, Option.map_eq_some_iff.mpr ⟨s, hfind, rfl⟩, rfl⟩
      · exact .inr ⟨fun h => hne (ScheduleRef.power.inj h), hold⟩

theorem entry_claimBackupSchedule (hentry : (w.claimBackupSchedule due id).entry ref = some e) :
    (ref = .backup id ∧ ∃ e₀, w.entry ref = some e₀ ∧ e = { e₀ with lastRunAt := some w.now }) ∨
      (ref ≠ .backup id ∧ w.entry ref = some e) := by
  cases ref with
  | power id' => exact .inr ⟨nofun, hentry⟩
  | backup id' =>
      have hkey : ∀ s : BackupSchedule, { s with lastRunAt := some w.now }.id = s.id := fun _ => rfl
      obtain ⟨rfl, s, hfind, rfl⟩ | ⟨hne, hold⟩ := Table.find?_updateWhere_cases hkey hentry
      · exact .inl ⟨rfl, _, Option.map_eq_some_iff.mpr ⟨s, hfind, rfl⟩, rfl⟩
      · exact .inr ⟨fun h => hne (ScheduleRef.backup.inj h), hold⟩

theorem Meanwhile.entry (hmeanwhile : Meanwhile w w') (hentry : w'.entry ref = some e) :
    w.entry ref = some e ∨ (e.lastRunAt = none ∧ ∀ f ∈ w.claimed, f.schedule ≠ ref) := by
  cases ref with
  | power id =>
      obtain ⟨s', hfind, rfl⟩ := Option.map_eq_some_iff.mp hentry
      obtain ⟨s, hs, heq⟩ | ⟨hnew, hfresh⟩ := hmeanwhile.schedules s' (Table.mem_of_find? hfind)
      · refine .inl ?_
        have hid : s.id = id := by
          rw [← Table.key_of_find? hfind, heq]
        have hfound : w.schedules.find? id = some s := hid ▸ Table.find?_of_mem hs
        show (w.schedules.find? id).map _ = _
        rw [hfound, heq]
        rfl
      · rw [Table.key_of_find? hfind] at hfresh
        exact .inr ⟨hnew, hfresh⟩
  | backup id =>
      obtain ⟨s', hfind, rfl⟩ := Option.map_eq_some_iff.mp hentry
      obtain ⟨s, hs, heq⟩ | ⟨hnew, hfresh⟩ := hmeanwhile.backupSchedules s' (Table.mem_of_find? hfind)
      · refine .inl ?_
        have hid : s.id = id := by
          rw [← Table.key_of_find? hfind, heq]
        have hfound : w.backupSchedules.find? id = some s := hid ▸ Table.find?_of_mem hs
        show (w.backupSchedules.find? id).map _ = _
        rw [hfound, heq]
        rfl
      · rw [Table.key_of_find? hfind] at hfresh
        exact .inr ⟨hnew, hfresh⟩

end entries

/-! ## Claims -/

def Stamped (loc : Locale) (w : World) (f : Firing) : Prop :=
  ∃ t₁, t₁ ≤ w.now ∧ loc.wall t₁ = f.minute ∧ ∀ e, w.entry f.schedule = some e →
    (f.minute.minutes = e.minute ∧ f.minute.hours = e.hour) ∧
      ∃ t, e.lastRunAt = some t ∧ t₁ ≤ t ∧ t ≤ w.now ∧ (loc.wall t).minutes = e.minute ∧ (loc.wall t).hours = e.hour

structure Booked (loc : Locale) (w : World) : Prop where
  stamped : ∀ f ∈ w.claimed, Stamped loc w f
  claimed : w.claimed.Nodup
  fired : w.fired.Nodup
  fired_claimed : ∀ f ∈ w.fired, f ∈ w.claimed

structure Fresh (loc : Locale) (w : World) (due : Firing) (e : Entry) : Prop where
  minute : loc.wall w.now = due.minute
  entry : w.entry due.schedule = some e
  minutes : due.minute.minutes = e.minute
  hours : due.minute.hours = e.hour
  unstamped : ∀ last, e.lastRunAt = some last → loc.wall last ≠ due.minute

section claims

variable {loc : Locale} {w w' : World} {due : Firing} {e : Entry}

theorem Booked.not_mem_claimed (hsteady : loc.Steady) (hbooked : Booked loc w) (hfresh : Fresh loc w due e) :
    due ∉ w.claimed := by
  intro hmem
  obtain ⟨t₁, -, hwall, hentry⟩ := hbooked.stamped due hmem
  obtain ⟨-, t, hlast, hle, hnow, hminutes, hhours⟩ := hentry e hfresh.entry
  have hsame : loc.wall t = loc.wall t₁ := by
    refine hsteady t₁ t w.now hle hnow (hwall.trans hfresh.minute.symm) ?_ ?_
    · rw [hhours, hwall, hfresh.hours]
    · rw [hminutes, hwall, hfresh.minutes]
  exact hfresh.unstamped t hlast (hsame.trans hwall)

theorem Booked.claim (hsteady : loc.Steady) (hbooked : Booked loc w) (hfresh : Fresh loc w due e)
    (hnow : w'.now = w.now) (hclaimed : w'.claimed = due :: w.claimed) (hfired : w'.fired = w.fired)
    (hentries : ∀ ref e', w'.entry ref = some e' →
      (ref = due.schedule ∧ ∃ e₀, w.entry ref = some e₀ ∧ e' = { e₀ with lastRunAt := some w.now }) ∨
        (ref ≠ due.schedule ∧ w.entry ref = some e')) : Booked loc w' := by
  have hstamped : ∀ f t₁, t₁ ≤ w.now → loc.wall t₁ = f.minute →
      (∀ e', w.entry f.schedule = some e' → (f.minute.minutes = e'.minute ∧ f.minute.hours = e'.hour) ∧
        (f.schedule ≠ due.schedule → ∃ t, e'.lastRunAt = some t ∧ t₁ ≤ t ∧ t ≤ w.now ∧
          (loc.wall t).minutes = e'.minute ∧ (loc.wall t).hours = e'.hour)) → Stamped loc w' f := by
    intro f t₁ hle hwall hold
    refine ⟨t₁, hnow.symm ▸ hle, hwall, fun e' he' => ?_⟩
    obtain ⟨hsame, e₀, he₀, rfl⟩ | ⟨hne, he⟩ := hentries f.schedule e' he'
    · refine ⟨(hold e₀ he₀).1, w.now, rfl, hle, hnow.symm ▸ Int.le_refl _, ?_, ?_⟩
      · rw [hsame] at he₀
        obtain rfl := Option.some.inj (he₀.symm.trans hfresh.entry)
        rw [hfresh.minute]
        exact hfresh.minutes
      · rw [hsame] at he₀
        obtain rfl := Option.some.inj (he₀.symm.trans hfresh.entry)
        rw [hfresh.minute]
        exact hfresh.hours
    · obtain ⟨htime, hlast⟩ := hold e' he
      obtain ⟨t, ht, hle', hnow', hminutes, hhours⟩ := hlast hne
      exact ⟨htime, t, ht, hle', hnow.symm ▸ hnow', hminutes, hhours⟩
  constructor
  · rw [hclaimed]
    intro f hf
    obtain rfl | hf := List.mem_cons.mp hf
    · refine hstamped f w.now (Int.le_refl _) hfresh.minute fun e' he' => ⟨?_, fun hne => absurd rfl hne⟩
      obtain rfl := Option.some.inj (he'.symm.trans hfresh.entry)
      exact ⟨hfresh.minutes, hfresh.hours⟩
    · obtain ⟨t₁, hle, hwall, hentry⟩ := hbooked.stamped f hf
      exact hstamped f t₁ hle hwall fun e' he' => ⟨(hentry e' he').1, fun _ => (hentry e' he').2⟩
  · rw [hclaimed]
    exact List.nodup_cons.mpr ⟨hbooked.not_mem_claimed hsteady hfresh, hbooked.claimed⟩
  · rw [hfired]
    exact hbooked.fired
  · rw [hfired, hclaimed]
    exact fun f hf => List.mem_cons_of_mem _ (hbooked.fired_claimed f hf)

theorem Booked.fire (hbooked : Booked loc w) (hclaimed : due ∈ w.claimed) (hfired : due ∉ w.fired)
    (hnow : w'.now = w.now) (hentries : w'.entry = w.entry) (hclaimed' : w'.claimed = w.claimed)
    (hfired' : w'.fired = due :: w.fired) : Booked loc w' := by
  constructor
  · rw [hclaimed']
    unfold Stamped
    rw [hentries, hnow]
    exact hbooked.stamped
  · rw [hclaimed']
    exact hbooked.claimed
  · rw [hfired']
    exact List.nodup_cons.mpr ⟨hfired, hbooked.fired⟩
  · rw [hfired', hclaimed']
    exact List.forall_mem_cons.mpr ⟨hclaimed, hbooked.fired_claimed⟩

theorem Booked.congr (hbooked : Booked loc w) (hnow : w'.now = w.now) (hentries : w'.entry = w.entry)
    (hclaimed : w'.claimed = w.claimed) (hfired : w'.fired = w.fired) : Booked loc w' := by
  constructor
  · rw [hclaimed]
    unfold Stamped
    rw [hentries, hnow]
    exact hbooked.stamped
  · rw [hclaimed]
    exact hbooked.claimed
  · rw [hfired]
    exact hbooked.fired
  · rw [hfired, hclaimed]
    exact hbooked.fired_claimed

theorem Booked.meanwhile (hbooked : Booked loc w) (hmeanwhile : Meanwhile w w') : Booked loc w' := by
  constructor
  · rw [hmeanwhile.claimed]
    intro f hf
    obtain ⟨t₁, hle, hwall, hentry⟩ := hbooked.stamped f hf
    refine ⟨t₁, Int.le_trans hle hmeanwhile.now, hwall, fun e he => ?_⟩
    obtain hold | ⟨-, hnone⟩ := hmeanwhile.entry he
    · obtain ⟨htime, t, ht, hle', hnow, hminutes, hhours⟩ := hentry e hold
      exact ⟨htime, t, ht, hle', Int.le_trans hnow hmeanwhile.now, hminutes, hhours⟩
    · exact absurd rfl (hnone f hf)
  · rw [hmeanwhile.claimed]
    exact hbooked.claimed
  · rw [hmeanwhile.fired]
    exact hbooked.fired
  · rw [hmeanwhile.fired, hmeanwhile.claimed]
    exact hbooked.fired_claimed

end claims

/-! ## What a program has claimed -/

def nextToken : (c : Call) → Except String c.Reply → Option Firing → Option Firing
  | .claimSchedule due _, .ok _, _ => some due
  | .claimSchedule _ _, .error _, _ => none
  | .claimBackupSchedule due _, .ok _, _ => some due
  | .claimBackupSchedule _ _, .error _, _ => none
  | .power _ _ _ _, _, _ => none
  | .insertRun (some _) _, _, _ => none
  | _, _, token => token

def MinuteOwes (loc : Locale) (role : Role) : Call → Option Firing → Prop
  | .claimSchedule due s, _ => ∃ now later, role = .runSchedules now later ∧ due = ⟨.power s.id, loc.wall now⟩ ∧
      scheduleDueNow loc s.minute s.hour s.days s.enabled s.lastRunAt now = .ok true
  | .claimBackupSchedule due s, _ => ∃ now later, role = .runSchedules now later ∧
      due = ⟨.backup s.id, loc.wall later⟩ ∧
        scheduleDueNow loc s.minute s.hour s.days s.enabled s.lastRunAt later = .ok true
  | .power due _ _ _, token => token = some due
  | .insertRun (some due) _, token => token = some due
  | _, _ => True

abbrev minding (loc : Locale) (role : Role) : Context calls String (Option Firing) :=
  aloneOwing (fun c token r token' => token' = nextToken c r token) (MinuteOwes loc role)

def Call.Untimed : Call → Prop
  | .claimSchedule _ _ => False
  | .claimBackupSchedule _ _ => False
  | .power _ _ _ _ => False
  | .insertRun (some _) _ => False
  | _ => True

theorem nextToken_of_untimed {c : Call} (hc : c.Untimed) (r : Except String c.Reply) (token : Option Firing) :
    nextToken c r token = token := by
  cases c with
  | claimSchedule _ _ => exact hc.elim
  | claimBackupSchedule _ _ => exact hc.elim
  | power _ _ _ _ => exact hc.elim
  | insertRun due _ =>
      cases due with
      | none => rfl
      | some due => exact hc.elim
  | _ => rfl

theorem minuteOwes_of_untimed {loc : Locale} {role : Role} {c : Call} (hc : c.Untimed) (token : Option Firing) :
    MinuteOwes loc role c token := by
  cases c with
  | claimSchedule _ _ => exact hc.elim
  | claimBackupSchedule _ _ => exact hc.elim
  | power _ _ _ _ => exact hc.elim
  | insertRun due _ =>
      cases due with
      | none => trivial
      | some due => exact hc.elim
  | _ => trivial

abbrev Untimed {α : Type} (p : Task α) : Prop := Only (F := calls) Call.Untimed p

theorem Quiet.untimed {α : Type} {p : Task α} (hp : Quiet p) : Untimed p := by
  refine hp.mono fun c hc => ?_
  cases c with
  | claimSchedule _ _ => exact hc.elim
  | claimBackupSchedule _ _ => exact hc.elim
  | power _ _ _ _ => exact hc.elim
  | insertRun _ _ => exact hc.elim
  | _ => trivial

theorem untimed_createBackupRun (input : BackupRunInput) : Untimed (createBackupRun none input) := by
  refine Only.bind (only_perform.mpr trivial) fun n => Only.ite trivial ?_
  refine Only.bind (only_perform.mpr trivial) fun id => ?_
  exact Only.bind (only_perform.mpr trivial) fun created => only_orRaise

theorem untimed_startRun (run : BackupRun) : Untimed (startRun run) := by
  refine (Quiet.untimed (quiet_creatorMayRunBackups run.createdBy)).bind fun may => Only.ite trivial ?_
  refine Only.bind (only_perform.mpr trivial) fun vm => Only.ite ?_ ?_
  · refine Only.bind (only_perform.mpr trivial) fun pbs => Only.ite trivial ?_
    have hdatastore : Untimed (pruneDatastore run) := by
      unfold pruneDatastore
      split
      · trivial
      · exact only_perform.mpr trivial
    refine hdatastore.bind fun found => only_orRaise.bind fun datastore => only_orRaise.bind fun keepLast => ?_
    refine Only.bind (only_perform.mpr trivial) fun groups => only_orRaise.bind fun backupId => ?_
    exact Only.bind (only_perform.mpr trivial) fun upid => only_perform.mpr trivial
  · refine Only.bind (only_perform.mpr trivial) fun _ => Only.bind (only_perform.mpr trivial) fun upid => ?_
    exact Only.ite trivial (only_perform.mpr trivial)

theorem untimed_executePendingBackups : Untimed executePendingBackups := by
  refine Only.bind (only_perform.mpr trivial) fun pending => Only.foldlM fun counts id => ?_
  refine Only.bind (only_perform.mpr trivial) fun claimed => ?_
  cases claimed with
  | none => trivial
  | some run =>
      refine Only.tryCatch ((untimed_startRun run).bind fun _ => ?_) fun message => ?_
      · exact (Quiet.untimed (quiet_auditQuietly _ _ _ _)).bind fun _ => trivial
      · refine Only.bind (only_perform.mpr trivial) fun _ => ?_
        exact (Quiet.untimed (quiet_auditQuietly _ _ _ _)).bind fun _ => trivial

theorem untimed_finalizeBackupRuns : Untimed finalizeBackupRuns := by
  refine Only.bind (only_perform.mpr trivial) fun running => Only.foldlM fun counts run => ?_
  have hpoll : ∀ upid, Untimed (pollRun run upid) := by
    intro upid
    refine Only.ite ?_ ?_
    · refine Only.bind (only_perform.mpr trivial) fun pbs => Only.ite trivial ?_
      exact Only.bind (only_perform.mpr trivial) fun _ => trivial
    · refine Only.bind (only_perform.mpr trivial) fun vm => Only.bind (only_perform.mpr trivial) fun _ => ?_
      exact Only.bind (only_perform.mpr trivial) fun _ => trivial
  have hfinish : ∀ detail, Untimed (finishRun run detail) := by
    intro detail
    refine Only.bind (only_perform.mpr trivial) fun _ => ?_
    refine (Quiet.untimed (quiet_auditQuietly _ _ _ _)).bind fun _ => Only.ite ?_ trivial
    exact Only.tryCatch ((untimed_createBackupRun _).bind fun _ => trivial) fun _ => trivial
  have hsettle : Untimed (settleRun run) := by
    refine only_orRaise.bind fun upid => (hpoll upid).bind fun ended => ?_
    match ended with
    | none => trivial
    | some (true, detail) => exact (hfinish detail).bind fun _ => trivial
    | some (false, detail) => trivial
  refine Only.tryCatch (hsettle.bind fun _ => trivial) fun message => ?_
  refine Only.bind (Only.bind (only_perform.mpr trivial) fun _ => ?_) fun _ => trivial
  refine (Quiet.untimed (quiet_auditQuietly _ _ _ _)).bind fun _ => ?_
  refine Only.bind (Quiet.untimed (quiet_quietly ?_)) fun _ => Quiet.untimed (quiet_quietly ?_)
  · trivial
  · trivial

section programs

variable {loc : Locale} {role : Role} {α β : Type} {token : Option Firing}

variable {p : Task α}

theorem holds_of_untimed (hp : Untimed p) :
    (minding loc role).holds p (fun _ token' => token' = token) token := by
  refine Context.holds_of_only (C := minding loc role) ?_ ?_ ?_ hp rfl
  · rintro token₁ _ rfl rfl
    rfl
  · exact fun c token₁ hc _ => minuteOwes_of_untimed hc token₁
  · rintro c token₁ r _ hc rfl rfl
    exact nextToken_of_untimed hc r token₁

def Minds (loc : Locale) (role : Role) (p : Task α) : Prop :=
  ∀ token, (minding loc role).holds p (fun _ _ => True) token

theorem Untimed.minds (hp : Untimed p) : Minds loc role p := fun _ =>
  Context.holds_mono (holds_of_untimed hp) fun _ _ _ => trivial

theorem Minds.bind {f : α → Task β} (hp : Minds loc role p) (hf : ∀ a, Minds loc role (f a)) :
    Minds loc role (p >>= f) := fun token =>
  Context.holds_bind_of (hp token) (fun a token' _ => hf a token') fun _ _ _ => trivial

theorem Minds.tryCatch {h : String → Task α} (hp : Minds loc role p) (hh : ∀ e, Minds loc role (h e)) :
    Minds loc role (p.tryCatch h) := by
  intro token
  refine Context.holds_tryCatch.mpr (Context.holds_mono (hp token) fun r token' _ => ?_)
  cases r with
  | ok a => trivial
  | error e => exact hh e token'

theorem Minds.foldlM {f : β → α → Task β} (hf : ∀ b a, Minds loc role (f b a)) (xs : List α) (b : β) :
    Minds loc role (xs.foldlM f b) := by
  intro token
  refine Context.holds_foldlM (I := fun _ _ => True) (fun b x _ token' _ => ?_) (fun _ _ _ => trivial) trivial
  refine Context.holds_mono (hf b x token') fun r _ _ => ?_
  cases r with
  | ok b' => trivial
  | error e => trivial

theorem minds_pure (a : α) : Minds loc role (pure a) := fun _ => trivial

theorem minds_phase (hp : Minds loc role p) : Minds loc role (phase p) :=
  (hp.bind fun _ => minds_pure ()).tryCatch fun _ => minds_pure ()

theorem holds_fireSchedule (due : Firing) (schedule : PowerSchedule) (counts : ScheduleCounts) :
    (minding loc role).holds (fireSchedule due schedule counts) (fun _ _ => True) (some due) := by
  have hrun : (minding loc role).holds (runSchedule due schedule) (fun _ _ => True) (some due) := by
    refine holds_aloneOwing_bind.mpr ⟨trivial, ?_, fun _ _ _ => trivial⟩
    rintro vm _ rfl
    refine holds_aloneOwing_bind.mpr ⟨trivial, ?_, fun _ _ _ => trivial⟩
    rintro _ _ rfl
    refine holds_aloneOwing_bind.mpr ⟨rfl, ?_, fun _ _ _ => trivial⟩
    intro upid token _
    refine Untimed.minds ?_ token
    exact (Quiet.untimed (quiet_awaitTask vm.node upid)).bind fun _ => only_perform.mpr trivial
  refine Context.holds_tryCatch.mpr (Context.holds_bind_of hrun (fun _ _ _ => trivial) fun message token _ => ?_)
  refine Untimed.minds (Only.bind (Quiet.untimed (quiet_quietly ?_)) fun _ => ?_) token
  · exact trivial
  · exact trivial

theorem minds_runDueSchedules (now later : Int) :
    Minds loc (.runSchedules now later) (runDueSchedules loc now) := by
  refine Minds.bind (Untimed.minds (only_perform.mpr trivial)) fun schedules => Minds.foldlM (fun counts s => ?_) _ _
  unfold considerSchedule
  split
  · exact Untimed.minds trivial
  · exact Untimed.minds trivial
  · next hdue =>
      intro token
      refine holds_aloneOwing_bind.mpr ⟨⟨now, later, rfl, rfl, hdue⟩, ?_, fun _ _ _ => trivial⟩
      rintro _ _ rfl
      exact holds_fireSchedule _ s counts

theorem holds_queueRun (due : Firing) (schedule : BackupSchedule) (counts : QueueCounts) :
    (minding loc role).holds (queueRun due schedule counts) (fun _ _ => True) (some due) := by
  have hcreate : (minding loc role).holds (createBackupRun (some due) (scheduledInput schedule))
      (fun _ _ => True) (some due) := by
    refine holds_aloneOwing_bind.mpr ⟨trivial, ?_, fun _ _ _ => trivial⟩
    rintro n _ rfl
    refine Context.holds_ite.mpr ⟨fun _ => trivial, fun _ => ?_⟩
    refine holds_aloneOwing_bind.mpr ⟨rfl, ?_, fun _ _ _ => trivial⟩
    intro id token _
    refine Untimed.minds (Only.bind (only_perform.mpr ?_) fun created => only_orRaise) token
    exact trivial
  exact Context.holds_tryCatch.mpr (Context.holds_bind_of hcreate (fun _ _ _ => trivial) fun _ _ _ => trivial)

theorem holds_fireBackupSchedule (due : Firing) (schedule : BackupSchedule) (counts : QueueCounts) :
    (minding loc role).holds (fireBackupSchedule due schedule counts) (fun _ _ => True) (some due) := by
  refine Context.holds_bind_of (holds_of_untimed (Quiet.untimed (quiet_creatorMayRunBackups schedule.createdBy)))
    ?_ fun _ _ _ => trivial
  rintro may _ rfl
  refine Context.holds_ite.mpr ⟨fun _ => ?_, fun _ => ?_⟩
  · refine Untimed.minds (Only.bind (Quiet.untimed (quiet_auditQuietly _ _ _ _)) fun _ => ?_) _
    exact trivial
  · refine holds_aloneOwing_bind.mpr ⟨trivial, ?_, fun _ _ _ => trivial⟩
    rintro busy _ rfl
    exact Context.holds_ite.mpr ⟨fun _ => trivial, fun _ => holds_queueRun due schedule counts⟩

theorem minds_runDueBackupSchedules (now later : Int) :
    Minds loc (.runSchedules now later) (runDueBackupSchedules loc later) := by
  refine Minds.bind (Untimed.minds (only_perform.mpr trivial)) fun schedules => Minds.foldlM (fun counts s => ?_) _ _
  unfold considerBackupSchedule
  split
  · exact Untimed.minds trivial
  · exact Untimed.minds trivial
  · next hdue =>
      intro token
      refine holds_aloneOwing_bind.mpr ⟨⟨now, later, rfl, rfl, hdue⟩, ?_, fun _ _ _ => trivial⟩
      rintro _ _ rfl
      exact holds_fireBackupSchedule _ s counts

theorem minds_prog (role : Role) : Minds loc role (role.prog loc) := by
  cases role with
  | runSchedules now later =>
      refine (minds_phase (minds_runDueSchedules now later)).bind fun _ => minds_phase ?_
      refine (minds_phase (minds_runDueBackupSchedules now later)).bind fun _ => ?_
      refine (minds_phase (Untimed.minds untimed_executePendingBackups)).bind fun _ => ?_
      exact minds_phase (Untimed.minds untimed_finalizeBackupRuns)
  | createBackupRun input => exact Untimed.minds (untimed_createBackupRun input)

end programs

/-! ## Steps -/

/-- Every claim falls into the minute its pass was started in, and finds the schedule with its time of day
and no stamp of that minute. -/
def ClaimsInTime (loc : Locale) (w : World) (due : Firing) (minute hour : Nat) : Prop :=
  loc.wall w.now = due.minute ∧ ∃ e, w.entry due.schedule = some e ∧ (e.minute = minute ∧ e.hour = hour) ∧
    ∀ last, e.lastRunAt = some last → loc.wall last ≠ due.minute

def InTime (loc : Locale) (P : TickerPool) : Role → Call → Prop
  | _, .claimSchedule due s => ClaimsInTime loc P.state due s.minute s.hour
  | _, .claimBackupSchedule due s => ClaimsInTime loc P.state due s.minute s.hour
  | _, _ => True

section steps

variable {loc : Locale} {role : Role} {w w' : World} {c : Call} {r : Except String c.Reply} {due : Firing}
  {token token' : Option Firing}

def Claimed (w : World) (token : Option Firing) : Prop := ∀ f, token = some f → f ∈ w.claimed ∧ f ∉ w.fired

structure Minded (loc : Locale) (w w' : World) (token token' : Option Firing) : Prop where
  booked : Booked loc w'
  own : Claimed w' token'
  others : ∀ f, token ≠ some f → f ∈ w.claimed → f ∉ w.fired → (f ∈ w'.claimed ∧ f ∉ w'.fired) ∧ token' ≠ some f

theorem fresh_of_claimsInTime {minute hour : Nat} (hintime : ClaimsInTime loc w due minute hour)
    (hminute : due.minute.minutes = minute) (hhour : due.minute.hours = hour) : ∃ e, Fresh loc w due e := by
  obtain ⟨hnow, e, hentry, ⟨hminutes, hhours⟩, hlast⟩ := hintime
  exact ⟨e, hnow, hentry, hminute.trans hminutes.symm, hhour.trans hhours.symm, hlast⟩

theorem minded_claim (hsteady : loc.Steady) (hbooked : Booked loc w) {e : Entry} (hfresh : Fresh loc w due e)
    (hbooked' : Booked loc w') (hclaimed : w'.claimed = due :: w.claimed) (hfired : w'.fired = w.fired)
    (htoken : token' = some due ∨ token' = none) : Minded loc w w' token token' := by
  have hnew : due ∉ w.claimed := hbooked.not_mem_claimed hsteady hfresh
  refine ⟨hbooked', fun f hf => ?_, fun f _ hmem hnot => ⟨?_, fun hf => ?_⟩⟩
  · obtain rfl | rfl := htoken
    · cases hf
      rw [hclaimed, hfired]
      exact ⟨List.mem_cons_self, fun hmem => hnew (hbooked.fired_claimed due hmem)⟩
    · cases hf
  · rw [hclaimed, hfired]
    exact ⟨List.mem_cons_of_mem due hmem, hnot⟩
  · obtain rfl | rfl := htoken
    · cases hf
      exact hnew hmem
    · cases hf

theorem minded_fire (htoken : token = some due) (hbooked' : Booked loc w')
    (hclaimed : w'.claimed = w.claimed) (hfired : w'.fired = due :: w.fired) : Minded loc w w' token none := by
  refine ⟨hbooked', (fun f hf => nomatch hf), fun f hne hmem hnot => ⟨?_, nofun⟩⟩
  rw [hclaimed, hfired]
  refine ⟨hmem, fun hf => ?_⟩
  obtain rfl | hold := List.mem_cons.mp hf
  · exact hne htoken
  · exact hnot hold

theorem minded_same (hclaim : Claimed w token) (hbooked' : Booked loc w') (hclaimed : w'.claimed = w.claimed)
    (hfired : w'.fired = w.fired) (htoken : token' = token ∨ token' = none) : Minded loc w w' token token' := by
  constructor
  · exact hbooked'
  · unfold Claimed
    rw [hclaimed, hfired]
    obtain rfl | rfl := htoken
    · exact hclaim
    · exact fun f hf => nomatch hf
  · rw [hclaimed, hfired]
    intro f hne hmem hnot
    refine ⟨⟨hmem, hnot⟩, fun hf => ?_⟩
    obtain rfl | rfl := htoken
    · exact hne hf
    · cases hf

theorem untimed_of_change (hchange : Change w c w') (hc : c.Untimed) :
    w'.now = w.now ∧ w'.entry = w.entry ∧ w'.claimed = w.claimed ∧ w'.fired = w.fired := by
  cases hchange with
  | claimSchedule => exact hc.elim
  | claimBackupSchedule => exact hc.elim
  | power => exact hc.elim
  | @insertRun due input id w' hinsert =>
      cases due with
      | some due => exact hc.elim
      | none =>
          obtain ⟨-, runs, -, rfl⟩ := hinsert
          exact ⟨rfl, rfl, rfl, rfl⟩
  | prune hstart =>
      obtain ⟨upid, -, -, -, rfl⟩ := hstart
      exact ⟨rfl, rfl, rfl, rfl⟩
  | backup hstart =>
      obtain ⟨upid, -, -, -, rfl⟩ := hstart
      exact ⟨rfl, rfl, rfl, rfl⟩
  | _ => exact ⟨rfl, rfl, rfl, rfl⟩

theorem minded_untimed (hbooked : Booked loc w) (hserve : Serves c w r w') (hclaim : Claimed w token)
    (hc : c.Untimed) : Minded loc w w' token (nextToken c r token) := by
  obtain ⟨hnow, hentries, hclaimed, hfired⟩ := untimed_of_change (change_of_serves hserve) hc
  exact minded_same hclaim (hbooked.congr hnow hentries hclaimed hfired) hclaimed hfired
    (.inl (nextToken_of_untimed hc r token))

theorem minded_claims {minute hour : Nat} (w₁ : World) (hsteady : loc.Steady) (hbooked : Booked loc w)
    (hintime : ClaimsInTime loc w due minute hour)
    (hminute : due.minute.minutes = minute ∧ due.minute.hours = hour) (hnow : w₁.now = w.now)
    (hclaimed : w₁.claimed = due :: w.claimed) (hfired : w₁.fired = w.fired)
    (hentries : ∀ ref e', w₁.entry ref = some e' →
      (ref = due.schedule ∧ ∃ e₀, w.entry ref = some e₀ ∧ e' = { e₀ with lastRunAt := some w.now }) ∨
        (ref ≠ due.schedule ∧ w.entry ref = some e')) (hclaim : Claimed w token)
    (hended : (w' = w₁ ∧ (token' = some due ∨ token' = none)) ∨ w' = w ∧ token' = none) :
    Minded loc w w' token token' := by
  obtain ⟨e, hfresh⟩ := fresh_of_claimsInTime hintime hminute.1 hminute.2
  obtain ⟨rfl, htoken⟩ | ⟨rfl, htoken⟩ := hended
  · have hbooked' := hbooked.claim hsteady hfresh hnow hclaimed hfired hentries
    exact minded_claim hsteady hbooked hfresh hbooked' hclaimed hfired htoken
  · exact minded_same hclaim hbooked rfl rfl (.inr htoken)

theorem minded_claimSchedule (hsteady : loc.Steady) (hbooked : Booked loc w) {s : PowerSchedule}
    {r : Except String Unit} (howes : MinuteOwes loc role (.claimSchedule due s) token)
    (hintime : ClaimsInTime loc w due s.minute s.hour) (hserve : Serves (.claimSchedule due s) w r w')
    (hclaim : Claimed w token) : Minded loc w w' token (nextToken (.claimSchedule due s) r token) := by
  obtain ⟨now, later, -, rfl, hnow⟩ := howes
  obtain ⟨hminutes, hhours, -⟩ := due_of_scheduleDueNow hnow
  refine minded_claims (w.claimSchedule _ s.id) hsteady hbooked hintime ⟨hminutes, hhours⟩ rfl rfl rfl
    (fun ref e' => entry_claimSchedule) hclaim ?_
  cases r with
  | ok => exact .inl ⟨hserve, .inl rfl⟩
  | error message =>
      obtain rfl | ⟨_, rfl⟩ := hserve
      · exact .inr ⟨rfl, rfl⟩
      · exact .inl ⟨rfl, .inr rfl⟩

theorem minded_claimBackupSchedule (hsteady : loc.Steady) (hbooked : Booked loc w) {s : BackupSchedule}
    {r : Except String Unit} (howes : MinuteOwes loc role (.claimBackupSchedule due s) token)
    (hintime : ClaimsInTime loc w due s.minute s.hour) (hserve : Serves (.claimBackupSchedule due s) w r w')
    (hclaim : Claimed w token) : Minded loc w w' token (nextToken (.claimBackupSchedule due s) r token) := by
  obtain ⟨now, later, -, rfl, hnow⟩ := howes
  obtain ⟨hminutes, hhours, -⟩ := due_of_scheduleDueNow hnow
  refine minded_claims (w.claimBackupSchedule _ s.id) hsteady hbooked hintime ⟨hminutes, hhours⟩ rfl rfl rfl
    (fun ref e' => entry_claimBackupSchedule) hclaim ?_
  cases r with
  | ok => exact .inl ⟨hserve, .inl rfl⟩
  | error message =>
      obtain rfl | ⟨_, rfl⟩ := hserve
      · exact .inr ⟨rfl, rfl⟩
      · exact .inl ⟨rfl, .inr rfl⟩

theorem minded_act (hbooked : Booked loc w) (hclaim : Claimed w token) (htoken : token = some due)
    (hworld : w' = w ∨ w'.now = w.now ∧ w'.entry = w.entry ∧ w'.claimed = w.claimed ∧ w'.fired = due :: w.fired) :
    Minded loc w w' token none := by
  obtain rfl | ⟨hnow, hentries, hclaimed, hfired⟩ := hworld
  · exact minded_same hclaim hbooked rfl rfl (.inr rfl)
  · obtain ⟨hmem, hnot⟩ := hclaim due htoken
    exact minded_fire htoken (hbooked.fire hmem hnot hnow hentries hclaimed hfired) hclaimed hfired

/-- **One call.** -/
theorem minded_of_serves (hsteady : loc.Steady) (hbooked : Booked loc w) (howes : MinuteOwes loc role c token)
    {P : TickerPool} (hP : P.state = w) (hintime : InTime loc P role c) (hserve : Serves c w r w')
    (hclaim : Claimed w token) : Minded loc w w' token (nextToken c r token) := by
  cases c with
  | claimSchedule due s => exact minded_claimSchedule hsteady hbooked howes (hP ▸ hintime) hserve hclaim
  | claimBackupSchedule due s => exact minded_claimBackupSchedule hsteady hbooked howes (hP ▸ hintime) hserve hclaim
  | power due action node vmid =>
      have hworld : w' = w ∨ w' = { w with fired := due :: w.fired } := by
        cases r with
        | ok reply => exact .inr hserve
        | error message =>
            obtain hsame | ⟨_, hdone⟩ := hserve
            · exact .inl hsame
            · exact .inr hdone
      refine minded_act hbooked hclaim howes (hworld.imp_right ?_)
      rintro rfl
      exact ⟨rfl, rfl, rfl, rfl⟩
  | insertRun due input =>
      cases due with
      | none => exact minded_untimed (c := .insertRun none input) hbooked hserve hclaim trivial
      | some due =>
          refine minded_act hbooked hclaim howes ?_
          cases change_of_serves hserve with
          | same => exact .inl rfl
          | insertRun hinsert =>
              obtain ⟨-, runs, -, rfl⟩ := hinsert
              exact .inr ⟨rfl, rfl, rfl, rfl⟩
  | _ => exact minded_untimed hbooked hserve hclaim trivial

end steps

/-! ## Runs -/

section runs

variable {loc : Locale}

def Keeper (loc : Locale) (w : World) (token : Option Firing) (t : TickerThread) : Prop :=
  (minding loc t.role).holds t.prog (fun _ _ => True) token ∧ Claimed w token

def Apart (token token' : Option Firing) : Prop := ∀ f, token = some f → token' ≠ some f

structure KeptMinutes (loc : Locale) (P : TickerPool) : Prop where
  held : Held (Keeper loc) Apart P
  booked : Booked loc P.state

theorem KeptMinutes.step (hsteady : loc.Steady) {P P' : TickerPool} (hkept : KeptMinutes loc P)
    (hstep : PoolStep (tickerRules loc (InTime loc) fun _ _ _ _ => True) P P') : KeptMinutes loc P' := by
  constructor
  · refine held_of_poolStep (I := Booked loc) hkept.booked ?_ ?_ ?_ ?_ hkept.held hstep
    · exact fun token token' happart f hf hf' => happart f hf' hf
    · intro before after role c next w r w' token hbooked hadmits hserve hkeeper
      obtain ⟨howes, hnext⟩ := holds_aloneOwing_call.mp hkeeper.1
      have hminded := minded_of_serves hsteady hbooked howes rfl hadmits hserve.1 hkeeper.2
      refine ⟨nextToken c r token, ⟨hnext r _ rfl, hminded.own⟩, fun other t happart hother => ?_⟩
      have hothers : ∀ f, other = some f → (f ∈ w'.claimed ∧ f ∉ w'.fired) ∧ nextToken c r token ≠ some f := by
        intro f hf
        obtain ⟨hmem, hnot⟩ := hother.2 f hf
        exact hminded.others f (fun hsame => happart f hsame hf) hmem hnot
      exact ⟨⟨hother.1, fun f hf => (hothers f hf).1⟩, fun f hf hf' => (hothers f hf').2 hf⟩
    · rintro role result w w' successor token ⟨rfl, rfl⟩ hkeeper
      exact ⟨fun _ _ _ hother => hother, fun t ht => nomatch ht⟩
    · rintro w w' newcomer ⟨hmeanwhile, hnewcomer⟩
      have hsame : ∀ token, Claimed w token → Claimed w' token := by
        unfold Claimed
        rw [hmeanwhile.claimed, hmeanwhile.fired]
        exact fun _ h => h
      refine ⟨fun token t hkeeper => ⟨hkeeper.1, hsame token hkeeper.2⟩, fun t ht => ?_⟩
      obtain ⟨role, rfl⟩ := hnewcomer t ht
      exact ⟨none, ⟨minds_prog role none, fun f hf => nomatch hf⟩, fun _ f hf => nomatch hf⟩
  · cases hstep with
    | @call before after role c next w w' r hadmits hserve =>
        obtain ⟨token, hminds, hclaim⟩ := hkept.held.of_mem (List.mem_append_right before List.mem_cons_self)
        obtain ⟨howes, -⟩ := holds_aloneOwing_call.mp hminds
        exact (minded_of_serves hsteady hkept.booked howes rfl hadmits hserve.1 hclaim).booked
    | ends hends =>
        obtain ⟨-, rfl⟩ := hends
        exact hkept.booked
    | turn hturn => exact hkept.booked.meanwhile hturn.1

end runs

/-- **Once a minute.**  In every run of ticks and requests in which the claims fall into the minute of their
pass and find the schedule as it was listed, no schedule is fired twice for one minute. -/
theorem fired_once_of_run (loc : Locale) (hsteady : loc.Steady) (w : World) (hclaimed : w.claimed = [])
    (hfired : w.fired = []) (P : TickerPool)
    (hrun : PoolRun (tickerRules loc (InTime loc) fun _ _ _ _ => True) ⟨w, []⟩ P) : P.state.fired.Nodup := by
  have hbooked : Booked loc w := by
    refine ⟨?_, ?_, ?_, ?_⟩
    · simp [hclaimed]
    · simp [hclaimed]
    · simp [hfired]
    · simp [hfired]
  have hkept : KeptMinutes loc P := by
    induction hrun with
    | refl => exact ⟨⟨[], rfl, fun p hp => absurd hp List.not_mem_nil, .nil⟩, hbooked⟩
    | tail _ hstep ih => exact ih.step hsteady hstep
  exact hkept.booked.fired

/-! ## Samples -/

def utcLocale : Locale where
  wall t := ⟨1970, 0, (t / 86400000).toNat + 1, (t / 3600000 % 24).toNat, (t / 60000 % 60).toNat⟩
  day t := ((t / 86400000 + 4) % 7).toNat
  weekday text := ["0", "1", "2", "3", "4", "5", "6"].idxOf? text

theorem steady_utcLocale : utcLocale.Steady := by
  intro t₁ t t₂ hfirst hlast hsame hhours hminutes
  have hdate : (t₁ / 86400000).toNat + 1 = (t₂ / 86400000).toNat + 1 := congrArg WallMinute.date hsame
  have hbetween : (t / 86400000).toNat = (t₁ / 86400000).toNat := by omega
  show WallMinute.mk 1970 0 ((t / 86400000).toNat + 1) (utcLocale.wall t).hours (utcLocale.wall t).minutes = _
  rw [hbetween, hhours, hminutes]
  rfl

def sampleSchedule : PowerSchedule := ⟨1, 30, .start, 15, 3, "*", true, none⟩

def sampleNow : Int := 11705000

def minuteStart : World where
  now := sampleNow
  schedules := ⟨[sampleSchedule], by decide⟩
  backupSchedules := Table.empty
  runs := Table.empty
  issued := []
  tasks := []
  claimed := []
  fired := []

abbrev sampleTick : Role := .runSchedules sampleNow sampleNow

def claimsInTime (w : World) (due : Firing) (minute hour : Nat) : Bool :=
  decide (utcLocale.wall w.now = due.minute) && (w.entry due.schedule).any fun e =>
    decide (e.minute = minute ∧ e.hour = hour) && e.lastRunAt.all fun last => decide (utcLocale.wall last ≠ due.minute)

theorem claimsInTime_of {w : World} {due : Firing} {minute hour : Nat} (h : claimsInTime w due minute hour = true) :
    ClaimsInTime utcLocale w due minute hour := by
  simp only [claimsInTime, Bool.and_eq_true, decide_eq_true_eq, Option.any_eq_true, Option.all_eq_true] at h
  obtain ⟨hnow, e, hentry, htime, hlast⟩ := h
  exact ⟨hnow, e, hentry, htime, hlast⟩

def timelyAnswer : (c : Call) → World → Option (Except String c.Reply × World)
  | .claimSchedule due s, w =>
      if claimsInTime w due s.minute s.hour then sampleAnswer (.claimSchedule due s) w else none
  | .claimBackupSchedule _ _, _ => none
  | c, w => sampleAnswer c w

theorem timelyAnswer_spec {role : Role} {others : List TickerThread} (c : Call)
    (next : Except String c.Reply → Task role.Result) (w : World) (r : Except String c.Reply) (w' : World)
    (hanswer : timelyAnswer c w = some (r, w')) :
    InTime utcLocale ⟨w, ⟨role, .call c next⟩ :: others⟩ role c ∧ Serves c w r w' ∧ True := by
  cases c with
  | claimSchedule due s =>
      simp only [timelyAnswer] at hanswer
      split at hanswer
      · next hintime => exact ⟨claimsInTime_of hintime, serves_sampleAnswer _ w r w' hanswer, trivial⟩
      · cases hanswer
  | claimBackupSchedule due s => cases hanswer
  | _ => exact ⟨trivial, serves_sampleAnswer _ w r w' hanswer, trivial⟩

def minuteEnd : World := (drive timelyAnswer 5 (sampleTick.prog utcLocale, minuteStart)).2

theorem fired_once_of_run_sample : minuteEnd.fired = [⟨.power 1, ⟨1970, 0, 1, 3, 15⟩⟩] ∧ minuteEnd.fired.Nodup := by
  have hdrive := @poolRun_drive_answered _ _ _ _ _ (tickerRules utcLocale (InTime utcLocale) fun _ _ _ _ => True)
    timelyAnswer sampleTick [] timelyAnswer_spec 5 (sampleTick.prog utcLocale) minuteStart
  exact ⟨by decide +kernel, fired_once_of_run utcLocale steady_utcLocale minuteStart rfl rfl _
    (.head (role_arrives utcLocale _ _ sampleTick minuteStart []) hdrive)⟩

/-- Two ticks list the schedule before either has claimed it. -/
theorem overlapping_passes : ¬ ∀ (loc : Locale), loc.Steady → ∀ w : World, w.claimed = [] → w.fired = [] →
    ∀ P, PoolRun (tickerRules loc (fun _ _ _ => True) fun _ _ _ _ => True) ⟨w, []⟩ P → P.state.fired.Nodup := by
  intro hlaw
  have hserve : ∀ c w r w', sampleAnswer c w = some (r, w') → Serves c w r w' ∧ True :=
    fun c w r w' h => ⟨serves_sampleAnswer c w r w' h, trivial⟩
  have hruns := fun (others : List TickerThread) =>
    @poolRun_drive_beside _ _ _ _ _ (tickerRules utcLocale (fun _ _ _ => True) fun _ _ _ _ => True) sampleAnswer
      sampleTick others (fun _ _ _ => trivial) hserve
  have harrives := role_arrives utcLocale (fun _ _ _ => True) (fun _ _ _ _ => True) sampleTick minuteStart
  -- The first tick has listed the schedules.
  let first : Task Unit := (drive sampleAnswer 1 (sampleTick.prog utcLocale, minuteStart)).1
  have hlists : drive sampleAnswer 1 (sampleTick.prog utcLocale, minuteStart) = (first, minuteStart) := by rfl
  have hfirst := hruns [] 1 (sampleTick.prog utcLocale) minuteStart
  rw [hlists] at hfirst
  -- The second runs to its end, and the first goes on.
  let fired : World := (drive sampleAnswer 20 (sampleTick.prog utcLocale, minuteStart)).2
  have hsecond : PoolRun (tickerRules utcLocale (fun _ _ _ => True) fun _ _ _ _ => True)
      ⟨minuteStart, [⟨sampleTick, sampleTick.prog utcLocale⟩, ⟨sampleTick, first⟩]⟩ ⟨fired, [⟨sampleTick, first⟩]⟩ :=
    @poolRun_to_end _ _ _ _ _ (tickerRules utcLocale (fun _ _ _ => True) fun _ _ _ _ => True) sampleAnswer
      (fun _ _ _ => trivial) hserve 20 sampleTick (sampleTick.prog utcLocale) minuteStart [⟨sampleTick, first⟩] (.ok ())
        none fired rfl ⟨rfl, rfl⟩
  have hthird := hruns [] 20 first fired
  have hrun := (Relation.ReflTransGen.head (harrives []) hfirst).trans <|
    (Relation.ReflTransGen.head (harrives _) hsecond).trans hthird
  exact absurd (hlaw utcLocale steady_utcLocale minuteStart rfl rfl _ hrun) (by decide +kernel)

end ProxVM.Ticker
