import ProxVM.Lib.Pool
import ProxVM.Iam.Service
import ProxVM.Schedules.Requests
import ProxVM.Util.Text

/-!
# The minute tick: tables and calls

What the ticker pass `runSchedules` of `app.ts` works on: the power schedules of
`services/homelab.ts`, the backup schedules and the backup runs of
`services/backups.ts`, and the tasks of Proxmox and of the Proxmox Backup Server.

A call is carried out and answered, or it fails, and may have been carried out nevertheless.  Some calls
carry more than the source passes on: the run that a task is started for, the schedule and the minute
that an action is due to, the phase that asks.  Nothing is decided by it; the statements below speak of it.

A listing comes in any order.
-/

namespace ProxVM.Ticker

open Tables Interaction Schedules

abbrev RunId := Nat

/-! ## Time -/

structure WallMinute where
  year : Nat
  month : Nat
  date : Nat
  hours : Nat
  minutes : Nat
  deriving DecidableEq, Repr

/-- What the process takes from its surroundings: the wall clock and the weekday of an instant in
milliseconds, and what `Number` makes of a text if that is an integer from 0 to 6. -/
structure Locale where
  wall : Int → WallMinute
  day : Int → Nat
  weekday : String → Option Nat

/-! ## Tables -/

/-- A row of `vm_schedules`. -/
structure PowerSchedule where
  id : ScheduleId
  vmId : VmId
  action : ScheduleAction
  minute : Nat
  hour : Nat
  days : String
  enabled : Bool
  lastRunAt : Option Int
  deriving DecidableEq, Repr

/-- `BACKUP_MODES`. -/
inductive BackupMode
  | snapshot
  | suspend
  | stop
  deriving DecidableEq, Repr

/-- `BACKUP_KINDS`. -/
inductive BackupKind
  | backup
  | prune
  deriving DecidableEq, Repr

def BackupKind.text : BackupKind → String
  | .backup => "backup"
  | .prune => "prune"

/-- `BACKUP_STATUSES`. -/
inductive BackupStatus
  | pending
  | running
  | ok
  | failed
  deriving DecidableEq, Repr

/-- A row of `pbs_backup_schedules`. -/
structure BackupSchedule where
  id : ScheduleId
  vmId : VmId
  mode : BackupMode
  storage : String
  datastore : Option String
  minute : Nat
  hour : Nat
  days : String
  keepLast : Option Nat
  enabled : Bool
  lastRunAt : Option Int
  createdBy : Option UserId
  deriving DecidableEq, Repr

/-- A row of `pbs_backups`. -/
structure BackupRun where
  id : RunId
  vmId : VmId
  scheduleId : Option ScheduleId
  kind : BackupKind
  mode : BackupMode
  storage : String
  datastore : Option String
  keepLast : Option Nat
  status : BackupStatus
  upid : Option String
  error : Option String
  createdBy : Option UserId
  deriving DecidableEq, Repr

/-- `PENDING` or `RUNNING`. -/
def BackupRun.isActive (run : BackupRun) : Bool := decide (run.status = .pending ∨ run.status = .running)

/-- A task of Proxmox or of the Proxmox Backup Server, with the run it was started for and the exit
status once it has ended. -/
structure BackupTask where
  upid : String
  run : RunId
  exit : Option (Option String)
  deriving DecidableEq, Repr

inductive ScheduleRef
  | power (id : ScheduleId)
  | backup (id : ScheduleId)
  deriving DecidableEq, Repr

structure Firing where
  schedule : ScheduleRef
  minute : WallMinute
  deriving DecidableEq, Repr

/-- The clock of the database, the tables, the ids of runs that have been given out, the tasks, the schedules
that have been claimed and the actions they have caused. -/
structure World where
  now : Int
  schedules : Table PowerSchedule.id
  backupSchedules : Table BackupSchedule.id
  runs : Table BackupRun.id
  issued : List RunId
  tasks : List BackupTask
  claimed : List Firing
  fired : List Firing

/-! ## Calls -/

structure BackupRunInput where
  vmId : VmId
  scheduleId : Option ScheduleId
  kind : Option BackupKind
  mode : Option BackupMode
  storage : Option String
  datastore : Option String
  keepLast : Option Nat
  createdBy : Option UserId
  deriving DecidableEq, Repr

structure VmAddress where
  id : VmId
  node : String
  vmid : Nat
  deriving DecidableEq, Repr

structure Creator where
  username : String
  user : UserWithRoles

/-- `ProxmoxTaskStatus`. -/
structure TaskStatus where
  status : String
  exitstatus : Option String
  deriving DecidableEq, Repr

structure BackupGroup where
  backupId : Option String
  backupType : Option String
  deriving DecidableEq, Repr

structure AuditEntry where
  event : String
  actorUserId : Option UserId
  actorUsername : Option String
  vmId : VmId
  detail : List (String × String)
  deriving DecidableEq, Repr

inductive Phase
  | power
  | execute
  | finalize
  deriving DecidableEq, Repr

inductive Call
  | listSchedules
  | claimSchedule (due : Firing) (schedule : PowerSchedule)
  | power (due : Firing) (action : ScheduleAction) (node : String) (vmid : Nat)
  | waitForTask (node upid : String)
  | listBackupSchedules
  | claimBackupSchedule (due : Firing) (schedule : BackupSchedule)
  | countBusy (scheduleId : ScheduleId)
  | countActive (vmId : VmId)
  | insertRun (due : Option Firing) (input : BackupRunInput)
  | getBackupRun (id : RunId)
  | selectPending
  | claimPendingBackupRun (id : RunId)
  | selectRunning
  | storeUpid (id : RunId) (upid : String)
  | completeBackupRun (id : RunId)
  | failBackupRun (id : RunId) (error : String)
  | findUser (userId : UserId)
  | effectivePermissions (userId : UserId)
  | requireVm (phase : Phase) (vmId : VmId)
  | getProxmoxClient (phase : Phase)
  | getPbsClient (phase : Phase)
  | pbsDatastore
  | listBackupGroups (datastore : String)
  | pruneSnapshots (run : RunId) (datastore backupId : String) (keepLast : Nat)
  | createBackup (run : RunId) (node : String) (vmid : Nat) (storage : String) (mode : BackupMode)
  | pbsTaskStatus (upid : String)
  | taskStatus (node upid : String)
  | record (entry : AuditEntry)
  | notify (audiences : List String) (kind title body link : String)
  | sendGotifyMessage (title message : String) (priority : Nat)

@[reducible] def Call.Reply : Call → Type
  | .listSchedules => List PowerSchedule
  | .power _ _ _ _ => String
  | .listBackupSchedules => List BackupSchedule
  | .countBusy _ => Nat
  | .countActive _ => Nat
  | .insertRun _ _ => RunId
  | .getBackupRun _ => Option BackupRun
  | .selectPending => List RunId
  | .claimPendingBackupRun _ => Option BackupRun
  | .selectRunning => List BackupRun
  | .findUser _ => Option Creator
  | .effectivePermissions _ => List Permission
  | .requireVm _ _ => VmAddress
  | .getPbsClient _ => Bool
  | .pbsDatastore => Option String
  | .listBackupGroups _ => List BackupGroup
  | .pruneSnapshots _ _ _ _ => String
  | .createBackup _ _ _ _ _ => String
  | .pbsTaskStatus _ => TaskStatus
  | .taskStatus _ _ => TaskStatus
  | _ => Unit

@[reducible] def calls : Signature := ⟨Call, Call.Reply⟩

abbrev Task (α : Type) := Prog calls String α

def ask (c : Call) : Task c.Reply := Prog.perform (F := calls) c

/-! ## Statements -/

namespace World

variable (w : World)

/-- `UPDATE vm_schedules SET last_run_at = NOW() WHERE id = $1`. -/
def claimSchedule (due : Firing) (id : ScheduleId) : World :=
  { w with
    schedules := w.schedules.updateWhere (fun s => decide (s.id = id))
      (fun s => { s with lastRunAt := some w.now }) fun _ => rfl
    claimed := due :: w.claimed }

/-- `UPDATE pbs_backup_schedules SET last_run_at = NOW() WHERE id = $1`. -/
def claimBackupSchedule (due : Firing) (id : ScheduleId) : World :=
  { w with
    backupSchedules := w.backupSchedules.updateWhere (fun s => decide (s.id = id))
      (fun s => { s with lastRunAt := some w.now }) fun _ => rfl
    claimed := due :: w.claimed }

def updateRun (id : RunId) (f : BackupRun → BackupRun) (hf : ∀ run, (f run).id = run.id) : World :=
  { w with runs := w.runs.updateWhere (fun run => decide (run.id = id)) f hf }

/-- `UPDATE pbs_backups SET upid = $2 WHERE id = $1`. -/
def storeUpid (id : RunId) (upid : String) : World :=
  w.updateRun id (fun run => { run with upid := some upid }) fun _ => rfl

/-- The UPDATE of `completeBackupRun`. -/
def completeBackupRun (id : RunId) : World :=
  w.updateRun id (fun run => { run with status := .ok }) fun _ => rfl

/-- The UPDATE of `failBackupRun`. -/
def failBackupRun (id : RunId) (error : String) : World :=
  w.updateRun id (fun run => { run with status := .failed, error := some error }) fun _ => rfl

/-- The UPDATE of `claimPendingBackupRun`, and the row it returns. -/
def claimPendingBackupRun (id : RunId) : Option BackupRun × World :=
  match w.runs.find? id with
  | some run =>
      if run.status = .pending then
        (some { run with status := .running }, w.updateRun id (fun run => { run with status := .running }) fun _ => rfl)
      else (none, w)
  | none => (none, w)

/-- The row that `createBackupRun` inserts. -/
def newRun (id : RunId) (input : BackupRunInput) : BackupRun where
  id := id
  vmId := input.vmId
  scheduleId := input.scheduleId
  kind := input.kind.getD .backup
  mode := input.mode.getD .snapshot
  storage := input.storage.getD ""
  datastore := input.datastore
  keepLast := input.keepLast
  status := .pending
  upid := none
  error := none
  createdBy := input.createdBy

/-- The INSERT of `createBackupRun`, with a fresh id. -/
def InsertsRun (due : Option Firing) (input : BackupRunInput) (id : RunId) (w' : World) : Prop :=
  id ∉ w.issued ∧ ∃ runs, w.runs.insert? (newRun id input) = some runs ∧
    w' = { w with runs := runs, issued := id :: w.issued, fired := due.toList ++ w.fired }

def StartsTask (run : RunId) (reply : String) (w' : World) : Prop :=
  ∃ upid, upid ≠ "" ∧ (∀ t ∈ w.tasks, t.upid ≠ upid) ∧ (reply = upid ∨ reply = "") ∧
    w' = { w with tasks := ⟨upid, run, none⟩ :: w.tasks }

def Reports (upid : String) (st : TaskStatus) : Prop :=
  ∃ t ∈ w.tasks, t.upid = upid ∧ match t.exit with
    | none => st.status ≠ "stopped"
    | some e => st.status = "stopped" ∧ st.exitstatus = e

def activeCount (vmId : VmId) : Nat :=
  w.runs.rows.countP fun run => decide (run.vmId = vmId) && run.isActive

end World

def Answers : (c : Call) → World → c.Reply → World → Prop
  | .listSchedules, w, rows, w' => rows.Perm w.schedules.rows ∧ w' = w
  | .claimSchedule due s, w, _, w' => w' = w.claimSchedule due s.id
  | .power due _ _ _, w, _, w' => w' = { w with fired := due :: w.fired }
  | .listBackupSchedules, w, rows, w' => rows.Perm w.backupSchedules.rows ∧ w' = w
  | .claimBackupSchedule due s, w, _, w' => w' = w.claimBackupSchedule due s.id
  | .countBusy scheduleId, w, n, w' =>
      n = w.runs.rows.countP (fun run => decide (run.scheduleId = some scheduleId) && run.isActive) ∧ w' = w
  | .countActive vmId, w, n, w' => n = w.activeCount vmId ∧ w' = w
  | .insertRun due input, w, id, w' => w.InsertsRun due input id w'
  | .getBackupRun id, w, found, w' => found = w.runs.find? id ∧ w' = w
  | .selectPending, w, ids, w' =>
      (ids.length ≤ 20 ∧ ids.Nodup ∧ ∀ id ∈ ids, ∃ run ∈ w.runs, run.id = id ∧ run.status = .pending) ∧ w' = w
  | .claimPendingBackupRun id, w, found, w' => (found, w') = w.claimPendingBackupRun id
  | .selectRunning, w, rows, w' =>
      (rows.length ≤ 20 ∧ ∀ run ∈ rows, run ∈ w.runs ∧ run.status = .running) ∧ w' = w
  | .storeUpid id upid, w, _, w' => w' = w.storeUpid id upid
  | .completeBackupRun id, w, _, w' => w' = w.completeBackupRun id
  | .failBackupRun id error, w, _, w' => w' = w.failBackupRun id error
  | .pruneSnapshots run _ _ _, w, reply, w' => w.StartsTask run reply w'
  | .createBackup run _ _ _ _, w, reply, w' => w.StartsTask run reply w'
  | .pbsTaskStatus upid, w, st, w' => w.Reports upid st ∧ w' = w
  | .taskStatus _ upid, w, st, w' => w.Reports upid st ∧ w' = w
  | _, w, _, w' => w' = w

def Serves (c : Call) (w : World) (r : Except String c.Reply) (w' : World) : Prop :=
  match r with
  | .ok reply => Answers c w reply w'
  | .error _ => w' = w ∨ ∃ reply, Answers c w reply w'

/-! ## What a call changes -/

inductive Change (w : World) : Call → World → Prop
  | same {c : Call} : Change w c w
  | claimSchedule {due : Firing} {s : PowerSchedule} : Change w (.claimSchedule due s) (w.claimSchedule due s.id)
  | claimBackupSchedule {due : Firing} {s : BackupSchedule} :
      Change w (.claimBackupSchedule due s) (w.claimBackupSchedule due s.id)
  | power {due : Firing} {action : ScheduleAction} {node : String} {vmid : Nat} :
      Change w (.power due action node vmid) { w with fired := due :: w.fired }
  | insertRun {due : Option Firing} {input : BackupRunInput} {id : RunId} {w' : World}
      (hinsert : w.InsertsRun due input id w') : Change w (.insertRun due input) w'
  | claimRun {id : RunId} {run : BackupRun} (hrun : run ∈ w.runs) (hid : run.id = id)
      (hpending : run.status = .pending) : Change w (.claimPendingBackupRun id)
        (w.updateRun id (fun run => { run with status := .running }) fun _ => rfl)
  | storeUpid {id : RunId} {upid : String} : Change w (.storeUpid id upid) (w.storeUpid id upid)
  | completeBackupRun {id : RunId} : Change w (.completeBackupRun id) (w.completeBackupRun id)
  | failBackupRun {id : RunId} {error : String} : Change w (.failBackupRun id error) (w.failBackupRun id error)
  | prune {run : RunId} {datastore backupId reply : String} {keepLast : Nat} {w' : World}
      (hstart : w.StartsTask run reply w') : Change w (.pruneSnapshots run datastore backupId keepLast) w'
  | backup {run : RunId} {node storage reply : String} {vmid : Nat} {mode : BackupMode} {w' : World}
      (hstart : w.StartsTask run reply w') : Change w (.createBackup run node vmid storage mode) w'

section change

variable {c : Call} {w w' : World} {r : Except String c.Reply}

theorem claimPendingBackupRun_cases (w : World) (id : RunId) :
    w.claimPendingBackupRun id = (none, w) ∨ ∃ run ∈ w.runs, run.id = id ∧ run.status = .pending ∧
      w.claimPendingBackupRun id = (some { run with status := .running },
        w.updateRun id (fun run => { run with status := .running }) fun _ => rfl) := by
  unfold World.claimPendingBackupRun
  split
  · next run hfind =>
      split
      · next hpending => exact .inr ⟨run, Table.mem_of_find? hfind, Table.key_of_find? hfind, hpending, rfl⟩
      · exact .inl rfl
  · exact .inl rfl

theorem change_of_answers {reply : c.Reply} (hanswer : Answers c w reply w') : Change w c w' := by
  cases c with
  | claimSchedule due s =>
      obtain rfl : w' = w.claimSchedule due s.id := hanswer
      exact .claimSchedule
  | claimBackupSchedule due s =>
      obtain rfl : w' = w.claimBackupSchedule due s.id := hanswer
      exact .claimBackupSchedule
  | power due action node vmid =>
      obtain rfl : w' = { w with fired := due :: w.fired } := hanswer
      exact .power
  | insertRun due input => exact .insertRun hanswer
  | claimPendingBackupRun id =>
      have hclaim : (reply, w') = w.claimPendingBackupRun id := hanswer
      obtain hnone | ⟨run, hrun, hid, hpending, hsome⟩ := claimPendingBackupRun_cases w id
      · obtain ⟨-, rfl⟩ := Prod.mk.inj (hclaim.trans hnone)
        exact .same
      · obtain ⟨-, rfl⟩ := Prod.mk.inj (hclaim.trans hsome)
        exact .claimRun hrun hid hpending
  | storeUpid id upid =>
      obtain rfl : w' = w.storeUpid id upid := hanswer
      exact .storeUpid
  | completeBackupRun id =>
      obtain rfl : w' = w.completeBackupRun id := hanswer
      exact .completeBackupRun
  | failBackupRun id error =>
      obtain rfl : w' = w.failBackupRun id error := hanswer
      exact .failBackupRun
  | pruneSnapshots run _ _ _ => exact .prune hanswer
  | createBackup run _ _ _ _ => exact .backup hanswer
  | listSchedules => exact hanswer.2 ▸ .same
  | listBackupSchedules => exact hanswer.2 ▸ .same
  | countBusy _ => exact hanswer.2 ▸ .same
  | countActive _ => exact hanswer.2 ▸ .same
  | getBackupRun _ => exact hanswer.2 ▸ .same
  | selectPending => exact hanswer.2 ▸ .same
  | selectRunning => exact hanswer.2 ▸ .same
  | pbsTaskStatus _ => exact hanswer.2 ▸ .same
  | taskStatus _ _ => exact hanswer.2 ▸ .same
  | _ =>
      obtain rfl : w' = w := hanswer
      exact .same

theorem change_of_serves (hserve : Serves c w r w') : Change w c w' := by
  cases r with
  | ok reply => exact change_of_answers hserve
  | error e =>
      obtain rfl | ⟨reply, hanswer⟩ := hserve
      · exact .same
      · exact change_of_answers hanswer

theorem mem_updateRun {id : RunId} {f : BackupRun → BackupRun} {hf : ∀ run, (f run).id = run.id} {run : BackupRun} :
    run ∈ (w.updateRun id f hf).runs ↔ ∃ run₀ ∈ w.runs, run = if run₀.id = id then f run₀ else run₀ := by
  simp only [World.updateRun, Table.mem_updateWhere, decide_eq_true_eq]

end change

end ProxVM.Ticker
