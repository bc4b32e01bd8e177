import ProxVM.Drift.System
import ProxVM.Routes.Vms

/-!
# Migration

`POST /vms/:id/migrate` and `GET /vms/:id/migration` of `routes/vms.ts`.
The first starts a task of Proxmox and returns its id; a client polls the second with
that id and the target until the task has ended, which updates the tracked node and
writes the audit row.  Nothing is kept in between: the id and the target of a poll are
whatever its query says.

A `MigrationWorld` adds the tasks of Proxmox and the audit rows of migrations to the
installation.  `moves` lists the writes of tracked nodes; no call reads it.
-/

namespace ProxVM

open Tables Interaction

/-! ## Payloads -/

/-- `ProxmoxTaskStatus`, the fields a poll reads. -/
structure TaskReport where
  status : String
  exitstatus : Option String
  deriving DecidableEq, Repr

def TaskReport.failure (report : TaskReport) : Option String :=
  report.exitstatus.filter fun exit => exit ≠ "" && exit ≠ "OK"

def TaskReport.EndedOk (report : TaskReport) : Prop :=
  report.status = "stopped" ∧ report.failure = none

/-- The detail of a `VM_MIGRATED` row. -/
structure MigrationDetail where
  source : String
  target : String
  online : Bool
  withLocalDisks : Bool
  detachedIso : List String
  upid : String
  deriving DecidableEq, Repr

structure MigrateBody where
  target : String
  online : Option Bool

structure MigrationStarted where
  upid : String
  node : String
  online : Bool
  detachedIso : List String
  deriving DecidableEq, Repr

structure MigrationQuery where
  upid : String
  target : String
  online : Option Bool
  detachedIso : Option String
  deriving DecidableEq, Repr

inductive MigrationState
  | done (node : String) (detachedIso : Option (List String))
  | running (upid : String)
  | error (exitStatus upid : String)
  deriving DecidableEq, Repr

/-! ## Calls -/

inductive MigrationCall
  | drift (c : DriftCall)
  | migrate (node : String) (vmid : Nat) (target : String) (online withLocalDisks : Bool)
  | taskStatus (node upid : String)
  | auditMigrated (actor : AuditActor) (vmId : VmId) (detail : MigrationDetail)

@[reducible] def MigrationCall.Reply : MigrationCall → Type
  | .drift c => c.Reply
  | .migrate _ _ _ _ _ => String
  | .taskStatus _ _ => TaskReport
  | .auditMigrated _ _ _ => Unit

@[reducible] def migrationCalls : Signature := ⟨MigrationCall, MigrationCall.Reply⟩

abbrev MigrationTask (α : Type) := Prog migrationCalls Failure α

def askMigration (c : MigrationCall) : MigrationTask c.Reply := Prog.perform (F := migrationCalls) c

def ofDrift {α : Type} : DriftTask α → MigrationTask α
  | .ret a => .ret a
  | .raise e => .raise e
  | .call c next => .call (.drift c) fun r => ofDrift (next r)

theorem only_ofDrift {α : Type} {P : MigrationCall → Prop} {p : DriftTask α}
    (hp : Only (fun c => P (.drift c)) p) : Only P (ofDrift p) := by
  induction p with
  | ret a => trivial
  | raise e => trivial
  | call c next ih => exact ⟨hp.1, fun r => ih r (hp.2 r)⟩

/-! ## `POST /vms/:id/migrate` -/

/-- `/^(ide|scsi|sata)\d+$/`. -/
def isDriveKey (key : String) : Bool :=
  ["ide", "scsi", "sata"].any fun kind =>
    let digits := key.toList.drop kind.length
    kind.toList.isPrefixOf key.toList && !digits.isEmpty && digits.all Char.isDigit

def holdsLocalMedium (value : String) : Bool :=
  includes value "media=cdrom" && ("local:".toList.isPrefixOf value.toList || includes value ",local:")

def ejectDrives (vm : VmRow) : VmConfig → List String → Task (List String)
  | [], ejected => pure ejected
  | (key, value) :: rest, ejected =>
      if isDriveKey key && holdsLocalMedium value then do
        let done ← Prog.tryCatch
          (do
            let _upid : String ← ask (.proxmoxUpdateConfig vm.node vm.vmid [(key, "none,media=cdrom")])
            pure true)
          fun _ => pure false
        if done then ejectDrives vm rest (ejected ++ [key]) else pure ejected
      else
        ejectDrives vm rest ejected

def ejectLocalMedia (vm : VmRow) : Task (List String) := do
  let config ← Prog.tryCatch (ask (.proxmoxQemuConfig vm.node vm.vmid)) fun _ => pure []
  ejectDrives vm config []

/-- `POST /vms/:id/migrate`; `body` is the parsed body or the error of its parser. -/
def postMigrate (actor : UserId) (id : VmId) (body : Except Failure MigrateBody) :
    MigrationTask MigrationStarted := do
  ofDrift (ofTask (requireVmAccess actor id))
  let _user : UserWithRoles ← askMigration (.drift (.base (.requirePermission actor .vmManage)))
  let body ← Prog.ofExcept body
  let vm ← ofDrift (ofTask (loadVm id))
  if body.target = vm.node then
    .raise (.app (AppError.validation "Target node must differ from the current node"))
  else do
    askMigration (.drift (.base .getProxmoxClient))
    let online := body.online.getD (decide (vm.status = .running))
    let detachedIso ← ofDrift (ofTask (ejectLocalMedia vm))
    let upid : String ← askMigration (.migrate vm.node vm.vmid body.target online true)
    pure { upid, node := body.target, online, detachedIso }

/-! ## `GET /vms/:id/migration` -/

/-- `query.detachedIso.split(",").filter(Boolean)`. -/
def MigrationQuery.ejected (query : MigrationQuery) : List String :=
  match query.detachedIso with
  | none => []
  | some text => ((text.toList.splitOn ',').filter fun part => !part.isEmpty).map String.ofList

def finalizeMigration (user : UserWithRoles) (vm : VmRow) (query : MigrationQuery) :
    MigrationTask MigrationState := do
  askMigration (.drift (.vmsUpdateNode vm.id query.target))
  askMigration (.auditMigrated ⟨some user.row.id, some user.row.username⟩ vm.id
    { source := vm.node, target := query.target
      online := query.online.getD (decide (vm.status = .running)), withLocalDisks := true
      detachedIso := query.ejected, upid := query.upid })
  pure (.done query.target (some query.ejected))

def concludeMigration (user : UserWithRoles) (vm : VmRow) (query : MigrationQuery)
    (report : TaskReport) : MigrationTask MigrationState :=
  if report.status = "stopped" then
    match report.failure with
    | some exit => pure (.error exit query.upid)
    | none => finalizeMigration user vm query
  else
    pure (.running query.upid)

def pollMigration (user : UserWithRoles) (vm : VmRow) (query : MigrationQuery) :
    MigrationTask MigrationState :=
  if vm.node = query.target then
    pure (.done vm.node none)
  else do
    askMigration (.drift (.base .getProxmoxClient))
    let report : TaskReport ← askMigration (.taskStatus vm.node query.upid)
    concludeMigration user vm query report

/-- `GET /vms/:id/migration`; `query` is the parsed query or the error of its parser. -/
def getMigration (actor : UserId) (id : VmId) (query : Except Failure MigrationQuery) :
    MigrationTask MigrationState := do
  ofDrift (ofTask (requireVmAccess actor id))
  let user : UserWithRoles ← askMigration (.drift (.base (.requirePermission actor .vmManage)))
  let query ← Prog.ofExcept query
  let found : Option VmRow ← askMigration (.drift (.base (.vmsFindById id)))
  match found with
  | none => .raise (.app (AppError.notFound "VM not found"))
  | some vm => pollMigration user vm query

/-! ## The world -/

structure ProxmoxTask where
  upid : String
  migrates : Option (Nat × String)
  report : TaskReport
  deriving DecidableEq, Repr

/-- A `VM_MIGRATED` row. -/
structure MigrationAudit where
  vmId : VmId
  detail : MigrationDetail
  deriving DecidableEq, Repr

structure Move where
  vmId : VmId
  vmid : Nat
  target : String
  deriving DecidableEq, Repr

structure MigrationWorld where
  drift : DriftWorld
  tasks : Table ProxmoxTask.upid
  audits : List MigrationAudit
  moves : List Move

namespace MigrationWorld

abbrev vms (w : MigrationWorld) : Table VmRow.id := w.drift.base.db.vms

def moved (w : MigrationWorld) : (c : DriftCall) → Except Failure c.Reply → List Move
  | .vmsUpdateNode id node, .ok _ => (w.vms.find? id).toList.map fun vm => ⟨id, vm.vmid, node⟩
  | _, _ => []

def startTask (w : MigrationWorld) (upid : String) (vmid : Nat) (target : String) :
    Option (Table ProxmoxTask.upid) :=
  w.tasks.insert? ⟨upid, some (vmid, target), ⟨"running", none⟩⟩

def acceptMigration (w : MigrationWorld) (vmid : Nat) (target : String) :
    Fate String → Except Failure String × MigrationWorld
  | .answer upid =>
      match w.startTask upid vmid target with
      | some tasks => (.ok upid, { w with tasks })
      | none => (.error (.other "task id in use"), w)
  | .refuse e => (.error e, w)
  | .lose e upid => (.error e, { w with tasks := (w.startTask upid vmid target).getD w.tasks })

def reportTask (w : MigrationWorld) (upid : String) : Fate TaskReport → Except Failure TaskReport
  | .answer _ =>
      match w.tasks.find? upid with
      | some task => .ok task.report
      | none => .error (.other "no such task")
  | .refuse e => .error e
  | .lose e _ => .error e

def recordAudit (w : MigrationWorld) (vmId : VmId) (detail : MigrationDetail) :
    Fate Unit → Except Failure Unit × MigrationWorld
  | .answer _ => (.ok (), { w with audits := ⟨vmId, detail⟩ :: w.audits })
  | .refuse e => (.error e, w)
  | .lose e _ => (.error e, w)

def serve (w : MigrationWorld) :
    (c : MigrationCall) → Fate c.Reply → Except Failure c.Reply × MigrationWorld
  | .drift c, fate =>
      ((w.drift.serve c fate).1,
        { w with
          drift := (w.drift.serve c fate).2
          moves := w.moved c (w.drift.serve c fate).1 ++ w.moves })
  | .migrate _ vmid target _ _, fate => w.acceptMigration vmid target fate
  | .taskStatus _ upid, fate => (w.reportTask upid fate, w)
  | .auditMigrated _ vmId detail, fate => w.recordAudit vmId detail fate

end MigrationWorld

def MigrationCall.Enabled (w : MigrationWorld) : MigrationCall → Prop
  | .drift c => c.Enabled w.drift
  | _ => True

instance (w : MigrationWorld) (c : MigrationCall) : Decidable (c.Enabled w) := by
  unfold MigrationCall.Enabled
  split <;> infer_instance

/-- In `w`, the call `c` may end with `r` and leave `w'`. -/
def MigrationServed (c : MigrationCall) (w : MigrationWorld) (r : Except Failure c.Reply)
    (w' : MigrationWorld) : Prop :=
  c.Enabled w ∧ ∃ fate, w.serve c fate = (r, w')

end ProxVM
