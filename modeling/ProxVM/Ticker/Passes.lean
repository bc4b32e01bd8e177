import Mathlib.Data.List.Dedup
import ProxVM.Ticker.Calls

/-!
# The minute tick: programs

`scheduleDueNow` and `runDueSchedules` of `services/homelab.ts`, `createBackupRun`, the
three phases of a backup pass and `runBackupPass` of `services/backups.ts`, and the ticker
pass `runSchedules` of `app.ts`, which runs all of them.

Log lines are left out.
-/

namespace ProxVM.Ticker

open Tables Interaction Schedules

def maxActiveBackupRuns : Nat := 3

def adminAudience : String := "admins"

/-! ## Schedules that are due -/

section due

variable (loc : Locale)

def parseScheduleDays (days : String) : Except String (Option (List Nat)) :=
  if trimmed (some days) = some "*" then .ok none
  else
    match (days.splitOn ",").mapM fun p => (trimmed (some p)).bind loc.weekday with
    | none => .error "days must be '*' or comma-separated weekday numbers 0-6"
    | some parts => .ok (some (parts.dedup.mergeSort fun a b => decide (a ≤ b)))

def scheduleDueNow (minute hour : Nat) (days : String) (enabled : Bool) (lastRunAt : Option Int) (now : Int) :
    Except String Bool :=
  if enabled = false then .ok false
  else if (loc.wall now).minutes ≠ minute ∨ (loc.wall now).hours ≠ hour then .ok false
  else
    match parseScheduleDays loc days with
    | .error e => .error e
    | .ok parsed =>
        if parsed.any fun days => !days.contains (loc.day now) then .ok false
        else
          match lastRunAt with
          | some last => .ok (decide (loc.wall last ≠ loc.wall now))
          | none => .ok true

end due

/-! ## Power schedules -/

def quietly (c : Call) : Task Unit := Prog.tryCatch (ask c >>= fun _ => pure ()) fun _ => pure ()

def actionText : ScheduleAction → String
  | .start => "start"
  | .stop => "stop"
  | .restart => "restart"

def awaitTask (node upid : String) : Task Unit :=
  if upid = "" then pure () else ask (.waitForTask node upid)

def runSchedule (due : Firing) (schedule : PowerSchedule) : Task Unit := do
  let vm : VmAddress ← ask (.requireVm .power schedule.vmId)
  ask (.getProxmoxClient .power)
  let upid : String ← ask (.power due schedule.action vm.node vm.vmid)
  awaitTask vm.node upid
  ask (.record
    { event := "SCHEDULE_RUN", actorUserId := none, actorUsername := none, vmId := vm.id
      detail := [("scheduleId", toString schedule.id), ("action", actionText schedule.action), ("result", "ok")] })

def scheduleFailure (schedule : PowerSchedule) (message : String) : AuditEntry where
  event := "SCHEDULE_RUN"
  actorUserId := none
  actorUsername := none
  vmId := schedule.vmId
  detail := [("scheduleId", toString schedule.id), ("action", actionText schedule.action), ("result", "failed"),
    ("error", message)]

structure ScheduleCounts where
  ran : Nat
  failed : Nat
  deriving DecidableEq, Repr

def fireSchedule (due : Firing) (schedule : PowerSchedule) (counts : ScheduleCounts) : Task ScheduleCounts :=
  Prog.tryCatch (do
    runSchedule due schedule
    pure { counts with ran := counts.ran + 1 }) fun message => do
      quietly (.record (scheduleFailure schedule message))
      pure { ran := counts.ran + 1, failed := counts.failed + 1 }

section passes

variable (loc : Locale)

def considerSchedule (now : Int) (counts : ScheduleCounts) (schedule : PowerSchedule) : Task ScheduleCounts :=
  match scheduleDueNow loc schedule.minute schedule.hour schedule.days schedule.enabled schedule.lastRunAt now with
  | .error e => .raise e
  | .ok false => pure counts
  | .ok true => do
      ask (.claimSchedule ⟨.power schedule.id, loc.wall now⟩ schedule)
      fireSchedule ⟨.power schedule.id, loc.wall now⟩ schedule counts

def runDueSchedules (now : Int) : Task ScheduleCounts := do
  let schedules : List PowerSchedule ← ask .listSchedules
  schedules.foldlM (considerSchedule loc now) ⟨0, 0⟩

end passes

/-! ## Backup runs -/

/-- The text of the refusal of `createBackupRun`. -/
def tooManyRuns : String :=
  (AppError.conflict (s!"Too many queued or running backups for this VM (max {maxActiveBackupRuns}). " ++
    "Wait for one to finish.")).message

def createBackupRun (due : Option Firing) (input : BackupRunInput) : Task BackupRun := do
  let n : Nat ← ask (.countActive input.vmId)
  if maxActiveBackupRuns ≤ n then
    .raise tooManyRuns
  else do
    let id : RunId ← ask (.insertRun due input)
    let created : Option BackupRun ← ask (.getBackupRun id)
    Prog.orRaise created "Backup run creation failed"

def actorUsername (userId : Option UserId) : Task (Option String) :=
  match userId with
  | none => pure none
  | some userId =>
      Prog.tryCatch (do
        let creator : Option Creator ← ask (.findUser userId)
        pure (creator.map Creator.username)) fun _ => pure none

/-- `deps.users.findById(creatorId).catch(() => null)`. -/
def findCreator (creatorId : UserId) : Task (Option Creator) :=
  Prog.tryCatch (ask (.findUser creatorId)) fun _ => pure none

def creatorMayRunBackups (creatorId : Option UserId) : Task Bool :=
  match creatorId with
  | none => pure false
  | some creatorId => do
      let creator ← findCreator creatorId
      match creator with
      | none => pure false
      | some creator =>
          if creator.user.row.active = false then pure false
          else if hasPermission creator.user .vmManage then pure true
          else do
            let permissions : List Permission ← ask (.effectivePermissions creatorId)
            pure (permissions.contains .vmManage)

def auditQuietly (event : String) (createdBy : Option UserId) (vmId : VmId) (detail : List (String × String)) :
    Task Unit := do
  let username ← actorUsername createdBy
  quietly (.record { event, actorUserId := createdBy, actorUsername := username, vmId, detail })

/-! ## Due backup schedules -/

structure QueueCounts where
  queued : Nat
  skipped : Nat
  deriving DecidableEq, Repr

/-- What a schedule asks of `createBackupRun`. -/
def scheduledInput (schedule : BackupSchedule) : BackupRunInput where
  vmId := schedule.vmId
  scheduleId := some schedule.id
  kind := some .backup
  mode := some schedule.mode
  storage := some schedule.storage
  datastore := schedule.datastore
  keepLast := schedule.keepLast
  createdBy := schedule.createdBy

def queueRun (due : Firing) (schedule : BackupSchedule) (counts : QueueCounts) : Task QueueCounts :=
  Prog.tryCatch (do
    let _ ← createBackupRun (some due) (scheduledInput schedule)
    pure { counts with queued := counts.queued + 1 }) fun _ => pure { counts with skipped := counts.skipped + 1 }

def fireBackupSchedule (due : Firing) (schedule : BackupSchedule) (counts : QueueCounts) : Task QueueCounts := do
  let may ← creatorMayRunBackups schedule.createdBy
  if may = false then do
    auditQuietly "BACKUP_SKIPPED" schedule.createdBy schedule.vmId
      [("scheduleId", toString schedule.id), ("reason", "creator no longer authorized")]
    pure { counts with skipped := counts.skipped + 1 }
  else do
    let busy : Nat ← ask (.countBusy schedule.id)
    if 0 < busy then pure { counts with skipped := counts.skipped + 1 }
    else queueRun due schedule counts

section passes

variable (loc : Locale)

def considerBackupSchedule (now : Int) (counts : QueueCounts) (schedule : BackupSchedule) : Task QueueCounts :=
  match scheduleDueNow loc schedule.minute schedule.hour schedule.days schedule.enabled schedule.lastRunAt now with
  | .error e => .raise e
  | .ok false => pure counts
  | .ok true => do
      ask (.claimBackupSchedule ⟨.backup schedule.id, loc.wall now⟩ schedule)
      fireBackupSchedule ⟨.backup schedule.id, loc.wall now⟩ schedule counts

def runDueBackupSchedules (now : Int) : Task QueueCounts := do
  let schedules : List BackupSchedule ← ask .listBackupSchedules
  schedules.foldlM (considerBackupSchedule loc now) ⟨0, 0⟩

end passes

/-! ## Pending runs -/

def groupBelongsToVm (group : BackupGroup) (vmid : Nat) : Bool :=
  if group.backupId = some s!"vm/{vmid}" then true
  else if group.backupId = some (toString vmid) then
    decide (group.backupType = none ∨ group.backupType = some "vm")
  else false

/-- The loop of `resolveVmBackupId`. -/
def resolveFrom (vmid : Nat) : Option String → List BackupGroup → Option String
  | bare, [] => bare
  | bare, group :: rest =>
      if group.backupId = some s!"vm/{vmid}" then group.backupId
      else if bare = none ∧ groupBelongsToVm group vmid then resolveFrom vmid group.backupId rest
      else resolveFrom vmid bare rest

def resolveVmBackupId (groups : List BackupGroup) (vmid : Nat) : Option String := resolveFrom vmid none groups

/-- `run.datastore ?? (await deps.settings.getPlain("pbs.datastore"))`. -/
def pruneDatastore (run : BackupRun) : Task (Option String) :=
  match run.datastore with
  | some datastore => pure (some datastore)
  | none => ask .pbsDatastore

def startPrune (run : BackupRun) (vm : VmAddress) : Task Unit := do
  let pbs : Bool ← ask (.getPbsClient .execute)
  if pbs = false then .raise (AppError.external "PBS" "Proxmox Backup Server is not configured").message
  else do
    let found ← pruneDatastore run
    let datastore ← Prog.orRaise (found.filter fun d => decide (d ≠ "")) "No PBS datastore configured for this prune"
    let keepLast ← Prog.orRaise run.keepLast "Prune requires keepLast"
    let groups : List BackupGroup ← ask (.listBackupGroups datastore)
    let backupId ← Prog.orRaise ((resolveVmBackupId groups vm.vmid).filter fun b => decide (b ≠ ""))
      "No snapshots found for this VM — nothing to prune"
    let upid : String ← ask (.pruneSnapshots run.id datastore backupId keepLast)
    ask (.storeUpid run.id upid)

def startBackup (run : BackupRun) (vm : VmAddress) : Task Unit := do
  ask (.getProxmoxClient .execute)
  let upid : String ← ask (.createBackup run.id vm.node vm.vmid run.storage run.mode)
  if upid = "" then .raise (AppError.external "Proxmox" "Backup task did not return a UPID").message
  else ask (.storeUpid run.id upid)

def startRun (run : BackupRun) : Task Unit := do
  let may ← creatorMayRunBackups run.createdBy
  if may = false then .raise (AppError.forbidden "creator no longer authorized to run backups").message
  else do
    let vm : VmAddress ← ask (.requireVm .execute run.vmId)
    if run.kind = .prune then startPrune run vm else startBackup run vm

def scheduleDetail (run : BackupRun) : String × String :=
  ("scheduleId", (run.scheduleId.map toString).getD "null")

def startedDetail (run : BackupRun) : List (String × String) :=
  [("runId", toString run.id), scheduleDetail run, ("kind", run.kind.text)] ++
    if run.kind = .backup then
      [("mode", match run.mode with | .snapshot => "snapshot" | .suspend => "suspend" | .stop => "stop")]
    else []

def failedDetail (run : BackupRun) (message : String) : List (String × String) :=
  [("runId", toString run.id), scheduleDetail run, ("kind", run.kind.text), ("result", "failed"), ("error", message)]

structure RunCounts where
  done : Nat
  failed : Nat
  deriving DecidableEq, Repr

def executeRun (run : BackupRun) (counts : RunCounts) : Task RunCounts :=
  Prog.tryCatch (do
    startRun run
    auditQuietly "BACKUP_STARTED" run.createdBy run.vmId (startedDetail run)
    pure { counts with done := counts.done + 1 }) fun message => do
      ask (.failBackupRun run.id message)
      auditQuietly "BACKUP_FINISHED" run.createdBy run.vmId (failedDetail run message)
      pure { counts with failed := counts.failed + 1 }

def claimAndExecute (counts : RunCounts) (id : RunId) : Task RunCounts := do
  let claimed : Option BackupRun ← ask (.claimPendingBackupRun id)
  match claimed with
  | none => pure counts
  | some run => executeRun run counts

def executePendingBackups : Task RunCounts := do
  let pending : List RunId ← ask .selectPending
  pending.foldlM claimAndExecute ⟨0, 0⟩

/-! ## Running runs -/

def verdict (st : TaskStatus) : Option (Bool × String) :=
  if st.status = "stopped" then
    some (decide (st.exitstatus = none ∨ st.exitstatus = some "" ∨ st.exitstatus = some "OK"),
      st.exitstatus.getD "OK")
  else none

def pollRun (run : BackupRun) (upid : String) : Task (Option (Bool × String)) :=
  if run.kind = .prune then do
    let pbs : Bool ← ask (.getPbsClient .finalize)
    if pbs = false then .raise (AppError.external "PBS" "Proxmox Backup Server is not configured").message
    else do
      let st : TaskStatus ← ask (.pbsTaskStatus upid)
      pure (verdict st)
  else do
    let vm : VmAddress ← ask (.requireVm .finalize run.vmId)
    ask (.getProxmoxClient .finalize)
    let st : TaskStatus ← ask (.taskStatus vm.node upid)
    pure (verdict st)

/-- What a successful backup asks of `createBackupRun`. -/
def retentionInput (run : BackupRun) : BackupRunInput where
  vmId := run.vmId
  scheduleId := run.scheduleId
  kind := some .prune
  mode := some run.mode
  storage := some run.storage
  datastore := run.datastore
  keepLast := run.keepLast
  createdBy := run.createdBy

def chainRetention (run : BackupRun) : Task Unit :=
  if run.kind = .backup ∧ run.keepLast ≠ none then
    Prog.tryCatch (createBackupRun none (retentionInput run) >>= fun _ => pure ()) fun _ => pure ()
  else pure ()

def finishRun (run : BackupRun) (detail : String) : Task Unit := do
  ask (.completeBackupRun run.id)
  auditQuietly (if run.kind = .prune then "BACKUP_PRUNED" else "BACKUP_FINISHED") run.createdBy run.vmId
    [("runId", toString run.id), scheduleDetail run, ("kind", run.kind.text), ("result", "ok"), ("status", detail)]
  chainRetention run

def settleRun (run : BackupRun) : Task Bool := do
  let upid ← Prog.orRaise (run.upid.filter fun u => decide (u ≠ "")) "Backup task has no UPID"
  let ended ← pollRun run upid
  match ended with
  | none => pure false
  | some (true, detail) => do
      finishRun run detail
      pure true
  | some (false, detail) => .raise ("Task ended with status: " ++ if detail = "" then "unknown" else detail)

def excerpt (message : String) : String := String.ofList (message.toList.take 300)

def giveUp (run : BackupRun) (message : String) : Task Unit := do
  ask (.failBackupRun run.id message)
  auditQuietly "BACKUP_FINISHED" run.createdBy run.vmId (failedDetail run message)
  quietly (.notify (adminAudience :: (run.createdBy.map toString).toList) "backup"
    s!"Backup {run.kind.text} failed" (excerpt message) "/backups")
  quietly (.sendGotifyMessage s!"Backup {run.kind.text} failed" (excerpt message) 8)

def finalizeRun (counts : RunCounts) (run : BackupRun) : Task RunCounts :=
  Prog.tryCatch (do
    let finished ← settleRun run
    pure (if finished then { counts with done := counts.done + 1 } else counts)) fun message => do
      giveUp run message
      pure { counts with failed := counts.failed + 1 }

def finalizeBackupRuns : Task RunCounts := do
  let running : List BackupRun ← ask .selectRunning
  running.foldlM finalizeRun ⟨0, 0⟩

/-! ## The pass -/

def phase {α : Type} (p : Task α) : Task Unit := Prog.tryCatch (p >>= fun _ => pure ()) fun _ => pure ()

section passes

variable (loc : Locale)

def runBackupPass (now : Int) : Task Unit := do
  phase (runDueBackupSchedules loc now)
  phase executePendingBackups
  phase finalizeBackupRuns

/-- `runSchedules`: each half reads the clock of the process when it begins. -/
def runSchedules (now later : Int) : Task Unit := do
  phase (runDueSchedules loc now)
  phase (runBackupPass loc later)

end passes

/-! ## Side by side -/

inductive Role
  | runSchedules (now later : Int)
  | createBackupRun (input : BackupRunInput)
  deriving DecidableEq

@[reducible] def Role.Result : Role → Type
  | .runSchedules _ _ => Unit
  | .createBackupRun _ => BackupRun

def Role.prog (loc : Locale) : (role : Role) → Task role.Result
  | .runSchedules now later => Ticker.runSchedules loc now later
  | .createBackupRun input => Ticker.createBackupRun none input

abbrev TickerThread := Thread calls String Role.Result

abbrev TickerPool := Pool calls String World Role.Result

/-- What goes on meanwhile: time, schedules that are made, switched or removed, runs that go with their VM,
tasks that end. -/
structure Meanwhile (w w' : World) : Prop where
  now : w.now ≤ w'.now
  schedules : ∀ s' ∈ w'.schedules, (∃ s ∈ w.schedules, s' = { s with enabled := s'.enabled }) ∨
    (s'.lastRunAt = none ∧ ∀ f ∈ w.claimed, f.schedule ≠ .power s'.id)
  backupSchedules : ∀ s' ∈ w'.backupSchedules, (∃ s ∈ w.backupSchedules, s' = { s with enabled := s'.enabled }) ∨
    (s'.lastRunAt = none ∧ ∀ f ∈ w.claimed, f.schedule ≠ .backup s'.id)
  runs : w'.runs.rows.Sublist w.runs.rows
  issued : w'.issued = w.issued
  tasks : List.Forall₂ (fun t t' => t'.upid = t.upid ∧ t'.run = t.run ∧ (t.exit ≠ none → t'.exit = t.exit))
    w.tasks w'.tasks
  claimed : w'.claimed = w.claimed
  fired : w'.fired = w.fired

def tickerRules (loc : Locale) (admits : TickerPool → Role → Call → Prop)
    (undisturbed : (c : Call) → World → Except String c.Reply → World → Prop) :
    Rules calls String World Role.Result where
  serve c w r w' := Serves c w r w' ∧ undisturbed c w r w'
  admits := admits
  ends _ _ w successor w' := successor = none ∧ w' = w
  turn w newcomer w' := Meanwhile w w' ∧ ∀ t, newcomer = some t → ∃ role, t = ⟨role, role.prog loc⟩

theorem Meanwhile.refl (w : World) : Meanwhile w w := by
  refine ⟨Int.le_refl _, fun s hs => .inl ⟨s, hs, rfl⟩, fun s hs => .inl ⟨s, hs, rfl⟩, .refl _, rfl, ?_, rfl, rfl⟩
  exact List.forall₂_same.mpr fun t _ => ⟨rfl, rfl, fun _ => rfl⟩

theorem role_arrives (loc : Locale) (admits : TickerPool → Role → Call → Prop)
    (undisturbed : (c : Call) → World → Except String c.Reply → World → Prop) (role : Role) (w : World)
    (others : List TickerThread) :
    PoolStep (tickerRules loc admits undisturbed) ⟨w, others⟩ ⟨w, ⟨role, role.prog loc⟩ :: others⟩ := by
  have hturn : (tickerRules loc admits undisturbed).turn w (some ⟨role, role.prog loc⟩) w :=
    ⟨.refl w, fun t ht => ⟨role, (Option.some.inj ht).symm⟩⟩
  exact .turn hturn

/-! ## Calls that leave no trace -/

def Call.Silent : Call → Prop
  | .waitForTask _ _ => True
  | .countBusy _ => True
  | .findUser _ => True
  | .effectivePermissions _ => True
  | .requireVm _ _ => True
  | .getProxmoxClient _ => True
  | .getPbsClient _ => True
  | .pbsDatastore => True
  | .listBackupGroups _ => True
  | .record _ => True
  | .notify _ _ _ _ _ => True
  | .sendGotifyMessage _ _ _ => True
  | _ => False

abbrev Quiet {α : Type} (p : Task α) : Prop := Only (F := calls) Call.Silent p

theorem quiet_quietly {c : Call} (hc : c.Silent) : Quiet (quietly c) := by
  refine Only.tryCatch ?_ fun _ => trivial
  exact Only.bind (only_perform.mpr hc) fun _ => trivial

theorem quiet_awaitTask (node upid : String) : Quiet (awaitTask node upid) :=
  Only.ite trivial (only_perform.mpr trivial)

theorem quiet_actorUsername (userId : Option UserId) : Quiet (actorUsername userId) := by
  cases userId with
  | none => trivial
  | some userId =>
      refine Only.tryCatch ?_ fun _ => trivial
      exact Only.bind (only_perform.mpr trivial) fun _ => trivial

theorem quiet_creatorMayRunBackups (creatorId : Option UserId) : Quiet (creatorMayRunBackups creatorId) := by
  cases creatorId with
  | none => trivial
  | some creatorId =>
      refine Only.bind (Only.tryCatch (only_perform.mpr trivial) fun _ => trivial) fun creator => ?_
      cases creator with
      | none => trivial
      | some creator =>
          refine Only.ite trivial (Only.ite trivial ?_)
          exact Only.bind (only_perform.mpr trivial) fun _ => trivial

theorem quiet_auditQuietly (event : String) (createdBy : Option UserId) (vmId : VmId)
    (detail : List (String × String)) : Quiet (auditQuietly event createdBy vmId detail) :=
  (quiet_actorUsername createdBy).bind fun _ => quiet_quietly trivial

/-! ## Samples -/

def sampleCreator : Creator where
  username := "admin"
  user := ⟨⟨1, "admin", none, none, "", true, true, none⟩, [.admin]⟩

def reportOf (task : BackupTask) : TaskStatus :=
  match task.exit with
  | none => ⟨"running", none⟩
  | some e => ⟨"stopped", e⟩

def startSample (run : RunId) (w : World) : Option (Except String String × World) :=
  let upid := "UPID:" ++ String.ofList (List.replicate w.tasks.length '+')
  if w.tasks.all fun t => decide (t.upid ≠ upid) then
    some (.ok upid, { w with tasks := ⟨upid, run, none⟩ :: w.tasks })
  else none

def sampleAnswer : (c : Call) → World → Option (Except String c.Reply × World)
  | .listSchedules, w => some (.ok w.schedules.rows, w)
  | .claimSchedule due s, w => some (.ok (), w.claimSchedule due s.id)
  | .power due _ _ _, w => some (.ok "", { w with fired := due :: w.fired })
  | .waitForTask _ _, w => some (.ok (), w)
  | .listBackupSchedules, w => some (.ok w.backupSchedules.rows, w)
  | .claimBackupSchedule due s, w => some (.ok (), w.claimBackupSchedule due s.id)
  | .countBusy scheduleId, w => some (.ok
      (w.runs.rows.countP fun run => decide (run.scheduleId = some scheduleId) && run.isActive), w)
  | .countActive vmId, w => some (.ok (w.activeCount vmId), w)
  | .insertRun due input, w =>
      let id := w.runs.rows.length + 1
      if id ∈ w.issued then none
      else (w.runs.insert? (World.newRun id input)).map fun runs =>
        (.ok id, { w with runs := runs, issued := id :: w.issued, fired := due.toList ++ w.fired })
  | .getBackupRun id, w => some (.ok (w.runs.find? id), w)
  | .selectPending, w => some (.ok
      (((w.runs.rows.filter fun run => decide (run.status = .pending)).map BackupRun.id).take 20), w)
  | .claimPendingBackupRun id, w => some (.ok (w.claimPendingBackupRun id).1, (w.claimPendingBackupRun id).2)
  | .selectRunning, w => some (.ok ((w.runs.rows.filter fun run => decide (run.status = .running)).take 20), w)
  | .storeUpid id upid, w => some (.ok (), w.storeUpid id upid)
  | .completeBackupRun id, w => some (.ok (), w.completeBackupRun id)
  | .failBackupRun id error, w => some (.ok (), w.failBackupRun id error)
  | .findUser _, w => some (.ok (some sampleCreator), w)
  | .effectivePermissions _, w => some (.ok [], w)
  | .requireVm _ vmId, w => some (.ok ⟨vmId, "pve1", 100 + vmId⟩, w)
  | .getProxmoxClient _, w => some (.ok (), w)
  | .getPbsClient _, w => some (.ok true, w)
  | .pbsDatastore, w => some (.ok none, w)
  | .listBackupGroups _, w => some (.ok [], w)
  | .pruneSnapshots run _ _ _, w => startSample run w
  | .createBackup run _ _ _ _, w => startSample run w
  | .pbsTaskStatus upid, w =>
      (w.tasks.find? fun t => decide (t.upid = upid)).map fun t => (.ok (reportOf t), w)
  | .taskStatus _ upid, w =>
      (w.tasks.find? fun t => decide (t.upid = upid)).map fun t => (.ok (reportOf t), w)
  | .record _, w => some (.ok (), w)
  | .notify _ _ _ _ _, w => some (.ok (), w)
  | .sendGotifyMessage _ _ _, w => some (.ok (), w)

theorem startsTask_startSample {run : RunId} {w w' : World} {r : Except String String}
    (hstart : startSample run w = some (r, w')) :
    ∃ upid, r = .ok upid ∧ upid ≠ "" ∧ w.StartsTask run upid w' := by
  unfold startSample at hstart
  simp only at hstart
  split at hstart
  · next hfresh =>
      cases hstart
      have hne : "UPID:" ++ String.ofList (List.replicate w.tasks.length '+') ≠ "" := by
        intro hempty
        have hlength := congrArg String.length hempty
        rw [String.length_append] at hlength
        exact absurd hlength (by simp)
      exact ⟨_, rfl, hne, _, hne, fun t ht => of_decide_eq_true (List.all_eq_true.mp hfresh t ht), .inl rfl, rfl⟩
  · cases hstart

theorem reports_find {upid : String} {w w' : World} {r : Except String TaskStatus}
    (hfind : ((w.tasks.find? fun t => decide (t.upid = upid)).map fun t =>
      ((.ok (reportOf t) : Except String TaskStatus), w)) = some (r, w')) :
    ∃ st, r = .ok st ∧ w.Reports upid st ∧ w' = w := by
  obtain ⟨t, ht, heq⟩ := Option.map_eq_some_iff.mp hfind
  cases heq
  refine ⟨_, rfl, ⟨t, List.mem_of_find?_eq_some ht, of_decide_eq_true (List.find?_some ht :), ?_⟩, rfl⟩
  unfold reportOf
  cases t.exit with
  | none => exact (by decide : "running" ≠ "stopped")
  | some e => exact ⟨rfl, rfl⟩

theorem serves_sampleAnswer (c : Call) (w : World) (r : Except String c.Reply) (w' : World)
    (hanswer : sampleAnswer c w = some (r, w')) : Serves c w r w' := by
  cases c with
  | listSchedules =>
      cases hanswer
      exact ⟨.refl _, rfl⟩
  | listBackupSchedules =>
      cases hanswer
      exact ⟨.refl _, rfl⟩
  | insertRun due input =>
      simp only [sampleAnswer] at hanswer
      split at hanswer
      · cases hanswer
      · next hfresh =>
          obtain ⟨runs, hins, heq⟩ := Option.map_eq_some_iff.mp hanswer
          cases heq
          exact ⟨hfresh, runs, hins, rfl⟩
  | selectPending =>
      cases hanswer
      refine ⟨⟨List.length_take_le _ _, ?_, fun id hid => ?_⟩, rfl⟩
      · have hnodup : ((w.runs.rows.filter fun run => decide (run.status = .pending)).map BackupRun.id).Nodup :=
          w.runs.nodup.sublist (List.filter_sublist.map _)
        exact hnodup.sublist (List.take_sublist _ _)
      · obtain ⟨run, hrun, rfl⟩ := List.mem_map.mp (List.mem_of_mem_take hid)
        obtain ⟨hmem, hpending⟩ := List.mem_filter.mp hrun
        exact ⟨run, hmem, rfl, of_decide_eq_true hpending⟩
  | selectRunning =>
      cases hanswer
      refine ⟨⟨List.length_take_le _ _, fun run hrun => ?_⟩, rfl⟩
      obtain ⟨hmem, hrunning⟩ := List.mem_filter.mp (List.mem_of_mem_take hrun)
      exact ⟨hmem, of_decide_eq_true hrunning⟩
  | pruneSnapshots run datastore backupId keepLast =>
      obtain ⟨upid, rfl, -, hstart⟩ := startsTask_startSample hanswer
      exact hstart
  | createBackup run node vmid storage mode =>
      obtain ⟨upid, rfl, -, hstart⟩ := startsTask_startSample hanswer
      exact hstart
  | pbsTaskStatus upid =>
      obtain ⟨st, rfl, hreports, rfl⟩ := reports_find hanswer
      exact ⟨hreports, rfl⟩
  | taskStatus node upid =>
      obtain ⟨st, rfl, hreports, rfl⟩ := reports_find hanswer
      exact ⟨hreports, rfl⟩
  | countBusy _ =>
      cases hanswer
      exact ⟨rfl, rfl⟩
  | countActive _ =>
      cases hanswer
      exact ⟨rfl, rfl⟩
  | getBackupRun _ =>
      cases hanswer
      exact ⟨rfl, rfl⟩
  | _ =>
      cases hanswer
      exact (rfl : _ = _)

end ProxVM.Ticker
