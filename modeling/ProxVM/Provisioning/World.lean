import ProxVM.Provisioning.Calls
import ProxVM.Services.Jobs
import ProxVM.Services.Vms

/-!
# The world the provisioning code talks to

A `World` is the database, the BullMQ queue, the Redis retry counters, the guests
of the Proxmox cluster and the clock.  `World.answer` says what each call replies
and does.  The replies of other systems are arbitrary.

A call meets a `Fate`:

- `refuse`: it fails and has no effect, as a failed SQL statement has none;
- `lose`: it takes effect, but its caller sees a failure.  This happens to calls to
  other systems, whose reply may get lost.

`Served` is the resulting relation, and the lemmas at the end say which calls
leave which part of the world alone.
-/

namespace ProxVM

open Tables Interaction

structure Guest where
  vmid : Nat
  node : String
  upid : String
  deriving DecidableEq, Repr

structure World where
  db : Db
  queue : Queue
  attempts : JobId → Option Nat
  guests : List Guest
  locked : List UserId
  now : Time

namespace World

def statement (w : World) (result : Option Db) (e : Failure) : Except Failure Unit × World :=
  match result with
  | some db => (.ok (), { w with db })
  | none => (.error e, w)

/-- The outcome of an `INSERT … RETURNING *`. -/
def insertion {ρ : Type} (w : World) (result : Option Db) (row : ρ) : Except Failure ρ × World :=
  match result with
  | some db => (.ok row, { w with db })
  | none => (.error (.uniqueViolation "duplicate key value violates unique constraint"), w)

def required {ρ : Type} (w : World) (result : Option ρ) (e : AppError) : Except Failure ρ × World :=
  match result with
  | some row => (.ok row, w)
  | none => (.error (.app e), w)

/-- The row `JobsRepository.create` inserts. -/
def newJob (w : World) (id : JobId) (request : ProvisionRequest) (createdByUserId : UserId) :
    JobRow :=
  { id, vmId := none, status := .pending, error := none, request,
    createdByUserId := some createdByUserId, bullJobId := none, startedAt := none,
    finishedAt := none, updatedAt := w.now }

/-- The row `VmsRepository.create` inserts. -/
def newVm (id : VmId) (input : CreateVmInput) : VmRow :=
  { id, vmid := input.vmid, node := input.node, name := input.name, status := input.status,
    osType := input.osType, osName := none, ipAddress := none, ipStatic := false,
    createdByUserId := input.createdByUserId, templateId := input.templateId, privacyFlag := false,
    deletedAt := none }

/-- What a call that succeeds replies and does.  The given reply is used where this
world does not determine one. -/
def answer (w : World) : (c : Call) → c.Reply → Except Failure c.Reply × World
  | .jobsRequire id, _ =>
      w.required (w.db.job? id) (AppError.notFound "Provisioning job not found")
  | .jobsUpdateStatus id status error, _ =>
      (.ok (), { w with db := w.db.updateStatus w.now id status error })
  | .jobsSetBullJobId id bullJobId, _ =>
      (.ok (), { w with db := w.db.setBullJobId w.now id bullJobId })
  | .jobsSetVmId id vmId, _ => (.ok (), { w with db := w.db.setVmId w.now id vmId })
  | .jobsResetStatus id, _ => (.ok (), { w with db := w.db.resetStatus w.now id })
  | .jobsResetFailedSteps id, _ => (.ok (), { w with db := w.db.resetFailedSteps id })
  | .jobsSetStep id step state error, _ =>
      (.ok (), { w with db := w.db.setStep w.now id step state error })
  | .jobsCompletedSteps id, _ => (.ok (w.db.completedSteps id), w)
  | .jobsCancel id, _ => (.ok (), { w with db := w.db.cancel w.now id })
  | .jobsActiveWithName user name, _ => (.ok (w.db.activeJobWithName user name), w)
  | .jobsCreate request user, given =>
      w.insertion (w.db.insertJob w.now given.id request user) (w.newJob given.id request user)
  | .usersFindById id, _ => (.ok (findUserById w.db w.now id), w)
  | .usersLock id, _ => (.ok (), { w with locked := id :: w.locked })
  | .usersUnlock id, _ => (.ok (), { w with locked := w.locked.filter fun u => decide (u ≠ id) })
  | .requireAuth id, _ =>
      w.required ((findUserById w.db w.now id).filter fun user => user.row.active)
        AppError.unauthorized
  | .requirePermission id permission, _ =>
      ((Fallible.exec (ProxVM.requirePermission ⟨id, w.now, 0⟩ permission) w.db).1.mapError .app, w)
  | .resolveEffectiveAccess id, _ => (.ok (ProxVM.resolveEffectiveAccess w.db w.now id), w)
  | .getUserQuota id, _ => (.ok (w.db.getUserQuota id), w)
  | .countUserVms id, _ => (.ok (w.db.countUserVms id), w)
  | .countActiveProvisioningJobs id, _ => (.ok (w.db.countActiveProvisioningJobs w.now id), w)
  | .templatesFindById id, _ => (.ok (w.db.templates.find? id), w)
  | .templatesRequireById id, _ =>
      w.required (w.db.templates.find? id) (AppError.notFound "Template not found")
  | .templatesFindByProxmoxId node vmid, _ =>
      (.ok (w.db.templates.rows.find? fun t =>
        decide (t.node = node) && decide (t.proxmoxVmid = vmid)), w)
  | .vmsFindById id, _ => (.ok (findVmById w.db id), w)
  | .vmsVisibleTo user roles id, _ => (.ok (visibleTo w.db w.now user roles id), w)
  | .vmsHasAccessOrOwns id user, _ => (.ok (hasAccessOrOwns w.db w.now id user), w)
  | .vmsListVmidsByNode node, _ => (.ok (w.db.listVmidsByNode node), w)
  | .vmsFindByIdKey vmid node, _ => (.ok (w.db.findVmByIdKey vmid node), w)
  | .vmsCreate input, given =>
      w.insertion (w.db.insertVm (newVm given.id input)) (newVm given.id input)
  | .vmsUpdateStatus id status, _ => (.ok (), { w with db := w.db.updateVmStatus id status })
  | .vmsUpdateIp id ip ipStatic, _ =>
      w.statement (w.db.updateVmIp id ip ipStatic)
        (.uniqueViolation "duplicate key value violates unique constraint")
  | .vmsUpdateOsInfo id osName, _ => (.ok (), { w with db := w.db.updateVmOsInfo id osName })
  | .vmsSetAccess id user, _ => (.ok (), { w with db := w.db.setVmAccess id user })
  | .vmsSoftDelete id, _ => (.ok (), { w with db := w.db.softDeleteVm w.now id })
  | .proxmoxClone opts, upid =>
      -- Proxmox refuses an id in use; a linked clone stays on the template's node.
      if w.guests.any fun g => decide (g.vmid = opts.newVmid) then
        (.error (.other "VM already exists"), w)
      else
        (.ok upid, { w with guests := ⟨opts.newVmid, opts.target.getD opts.node, upid⟩ :: w.guests })
  | .proxmoxTaskExit _ upid, exit =>
      -- A clone task that fails takes its guest with it.
      match exit with
      | .ok => (.ok exit, w)
      | .failed _ =>
          (.ok exit, { w with guests := w.guests.filter fun g => decide (g.upid ≠ upid) })
  | .proxmoxDelete node vmid, upid =>
      (.ok upid, { w with guests := w.guests.filter fun g =>
        !(decide (g.vmid = vmid) && decide (g.node = node)) })
  | .queueAdd bullJobId _, _ => (.ok (), { w with queue := w.queue.add bullJobId })
  | .queueRemove bullJobId, _ => (.ok (), { w with queue := w.queue.remove bullJobId })
  | .redisGetAttempts id, _ => (.ok (w.attempts id), w)
  | .redisSetAttempts id attempts, _ =>
      (.ok (), { w with attempts := Function.update w.attempts id (some attempts) })
  | _, given => (.ok given, w)

end World

/-! ## Fates -/

inductive Fate (ρ : Type)
  | answer (given : ρ)
  | refuse (e : Failure)
  | lose (e : Failure) (given : ρ)

def Call.isRemote : Call → Bool
  | .proxmoxClone _ => true
  | .proxmoxDelete _ _ => true
  | .queueAdd _ _ => true
  | .redisSetAttempts _ _ => true
  | _ => false

def Call.Enabled (w : World) : Call → Prop
  | .usersLock id => id ∉ w.locked
  | _ => True

instance (w : World) (c : Call) : Decidable (c.Enabled w) := by
  unfold Call.Enabled
  split <;> infer_instance

def World.failed (w : World) : (c : Call) → Failure → Except Failure c.Reply × World
  | .publishProgress _ _, _ => (.ok (), w)
  | .queueRemove _, _ => (.ok (), w)
  | _, e => (.error e, w)

def World.serve (w : World) (c : Call) : Fate c.Reply → Except Failure c.Reply × World
  | .answer given => w.answer c given
  | .refuse e => w.failed c e
  | .lose e given => if c.isRemote then (.error e, (w.answer c given).2) else w.failed c e

/-- In `w`, the call `c` may end with `r` and leave `w'`. -/
def Served (c : Call) (w : World) (r : Except Failure c.Reply) (w' : World) : Prop :=
  c.Enabled w ∧ ∃ fate, w.serve c fate = (r, w')

/-! ## What a call leaves alone -/

def Call.writesJobs : Call → Bool
  | .jobsUpdateStatus _ _ _ => true
  | .jobsSetBullJobId _ _ => true
  | .jobsSetVmId _ _ => true
  | .jobsResetStatus _ => true
  | .jobsCancel _ => true
  | .jobsCreate _ _ => true
  | _ => false

def Call.writesSteps : Call → Bool
  | .jobsResetFailedSteps _ => true
  | .jobsSetStep _ _ _ _ => true
  | _ => false

def Call.writesVms : Call → Bool
  | .vmsCreate _ => true
  | .vmsUpdateStatus _ _ => true
  | .vmsUpdateIp _ _ _ => true
  | .vmsUpdateOsInfo _ _ => true
  | .vmsSoftDelete _ => true
  | _ => false

def Call.writesGuests : Call → Bool
  | .proxmoxClone _ => true
  | .proxmoxTaskExit _ _ => true
  | .proxmoxDelete _ _ => true
  | _ => false

def Call.writesQueue : Call → Bool
  | .queueAdd _ _ => true
  | .queueRemove _ => true
  | _ => false

def Call.writesAttempts : Call → Bool
  | .redisSetAttempts _ _ => true
  | _ => false

def Call.writesLocks : Call → Bool
  | .usersLock _ => true
  | .usersUnlock _ => true
  | _ => false

structure World.Frame (c : Call) (w w' : World) : Prop where
  jobs : c.writesJobs = false → w'.db.jobs = w.db.jobs
  steps : c.writesSteps = false → w'.db.steps = w.db.steps
  vms : c.writesVms = false → w'.db.vms = w.db.vms
  users : w'.db.users = w.db.users
  guests : c.writesGuests = false → w'.guests = w.guests
  queue : c.writesQueue = false → w'.queue = w.queue
  attempts : c.writesAttempts = false → w'.attempts = w.attempts
  locked : c.writesLocks = false → w'.locked = w.locked
  now : w'.now = w.now

namespace World

variable {w w' : World} {c : Call} {r : Except Failure c.Reply}

variable {ρ : Type} {result : Option Db} {user : UserId}

@[simp] theorem required_snd (result : Option ρ) (e : AppError) : (w.required result e).2 = w := by
  cases result <;> rfl

@[simp] theorem failed_snd (e : Failure) : (w.failed c e).2 = w := by
  unfold failed
  split <;> rfl

theorem Frame.of_eq (heq : w' = w) : Frame c w w' := by
  subst heq
  exact ⟨fun _ => rfl, fun _ => rfl, fun _ => rfl, rfl, fun _ => rfl, fun _ => rfl,
    fun _ => rfl, fun _ => rfl, rfl⟩

theorem Frame.of_insertion {row : ρ} (hdb : ∀ db, result = some db → Frame c w { w with db }) :
    Frame c w (w.insertion result row).2 := by
  cases result with
  | none => exact .of_eq rfl
  | some db => exact hdb db rfl

theorem Frame.of_statement {e : Failure} (hdb : ∀ db, result = some db → Frame c w { w with db }) :
    Frame c w (w.statement result e).2 := by
  cases result with
  | none => exact .of_eq rfl
  | some db => exact hdb db rfl

private theorem frame_insertJob {given : JobRow} {request : ProvisionRequest} :
    Frame (.jobsCreate request user) w (w.answer (.jobsCreate request user) given).2 := by
  refine Frame.of_insertion fun db hinserted => ?_
  unfold Db.insertJob at hinserted
  cases hjobs : w.db.jobs.insert? _ with
  | none =>
      rw [hjobs] at hinserted
      cases hinserted
  | some jobs =>
      rw [hjobs] at hinserted
      cases hinserted
      constructor <;> first | rfl | (intro hc; first | rfl | cases hc)

private theorem frame_insertVm {given : VmRow} {input : CreateVmInput} :
    Frame (.vmsCreate input) w (w.answer (.vmsCreate input) given).2 := by
  refine Frame.of_insertion fun db hinserted => ?_
  obtain ⟨vms, rfl, -⟩ := Db.insertVm_eq_some hinserted
  constructor <;> first | rfl | (intro hc; first | rfl | cases hc)

private theorem frame_updateVmIp {id : VmId} {ip : String} {ipStatic : Bool} :
    Frame (.vmsUpdateIp id ip ipStatic) w (w.answer (.vmsUpdateIp id ip ipStatic) ()).2 := by
  refine Frame.of_statement fun db hupdated => ?_
  unfold Db.updateVmIp at hupdated
  split at hupdated
  · cases hupdated
  · cases hupdated
    constructor <;> first | rfl | (intro hc; first | rfl | cases hc)

private theorem frame_setVmAccess {id : VmId} :
    Frame (.vmsSetAccess id user) w (w.answer (.vmsSetAccess id user) ()).2 := by
  change Frame _ w { w with db := w.db.setVmAccess id user }
  unfold Db.setVmAccess
  split <;> constructor <;> first | rfl | exact fun _ => rfl

private theorem frame_clone {opts : CloneOptions} {upid : String} :
    Frame (.proxmoxClone opts) w (w.answer (.proxmoxClone opts) upid).2 := by
  by_cases hused : w.guests.any (fun g => decide (g.vmid = opts.newVmid)) = true
  · exact .of_eq (congrArg Prod.snd (if_pos hused))
  · have hcloned : w.answer (.proxmoxClone opts) upid = (.ok upid,
        { w with guests := ⟨opts.newVmid, opts.target.getD opts.node, upid⟩ :: w.guests }) :=
      if_neg hused
    rw [hcloned]
    constructor <;> first | rfl | (intro hc; first | rfl | cases hc)

private theorem frame_taskExit {node upid : String} {exit : TaskExit} :
    Frame (.proxmoxTaskExit node upid) w (w.answer (.proxmoxTaskExit node upid) exit).2 := by
  cases exit <;> constructor <;> first | rfl | (intro hc; first | rfl | cases hc)

theorem frame_answer (w : World) (c : Call) (given : c.Reply) : Frame c w (w.answer c given).2 := by
  cases c with
  | jobsRequire id => exact .of_eq (required_snd _ _)
  | requireAuth id => exact .of_eq (required_snd _ _)
  | templatesRequireById id => exact .of_eq (required_snd _ _)
  | jobsCreate request user => exact frame_insertJob
  | vmsCreate input => exact frame_insertVm
  | vmsUpdateIp id ip ipStatic => exact frame_updateVmIp
  | vmsSetAccess id user => exact frame_setVmAccess
  | proxmoxClone opts => exact frame_clone
  | proxmoxTaskExit node upid => exact frame_taskExit
  | _ => constructor <;> first | rfl | (intro hc; first | rfl | cases hc)

theorem frame_serve (w : World) (c : Call) (fate : Fate c.Reply) : Frame c w (w.serve c fate).2 := by
  cases fate with
  | answer given => exact frame_answer w c given
  | refuse e => exact .of_eq (failed_snd e)
  | lose e given =>
      simp only [serve]
      split
      · exact frame_answer w c given
      · exact .of_eq (failed_snd e)

end World

theorem Served.frame {c : Call} {w w' : World} {r : Except Failure c.Reply}
    (hserved : Served c w r w') : World.Frame c w w' := by
  obtain ⟨-, fate, heq⟩ := hserved
  have hframe := World.frame_serve w c fate
  rw [heq] at hframe
  exact hframe

/-! ## The outcomes of single calls -/

theorem Served.cases {c : Call} {w w' : World} {r : Except Failure c.Reply}
    (hlocal : c.isRemote = false) (hserved : Served c w r w') :
    (∃ given, w.answer c given = (r, w')) ∨ ∃ e, w.failed c e = (r, w') := by
  obtain ⟨-, fate, heq⟩ := hserved
  cases fate with
  | answer given => exact Or.inl ⟨given, heq⟩
  | refuse e => exact Or.inr ⟨e, heq⟩
  | lose e given =>
      rw [World.serve, hlocal] at heq
      exact Or.inr ⟨e, heq⟩

theorem Served.determined {c : Call} {w w' w₁ : World} {r : Except Failure c.Reply} {a : c.Reply}
    (hserved : Served c w r w') (hlocal : c.isRemote = false) (hfailed : ∀ e, w.failed c e = (.error e, w))
    (hanswer : ∀ given, w.answer c given = (.ok a, w₁)) :
    r = .ok a ∧ w' = w₁ ∨ (∃ e, r = .error e) ∧ w' = w := by
  rcases hserved.cases hlocal with ⟨given, heq⟩ | ⟨e, heq⟩
  · rw [hanswer] at heq
    obtain ⟨rfl, rfl⟩ := Prod.mk.inj heq
    exact Or.inl ⟨rfl, rfl⟩
  · rw [hfailed] at heq
    obtain ⟨rfl, rfl⟩ := Prod.mk.inj heq
    exact Or.inr ⟨⟨e, rfl⟩, rfl⟩

section outcomes

variable {w w' : World} {id : JobId}

theorem served_jobsUpdateStatus {status : JobStatus} {error : Option String}
    {r : Except Failure Unit} (hserved : Served (.jobsUpdateStatus id status error) w r w') :
    r = .ok () ∧ w' = { w with db := w.db.updateStatus w.now id status error } ∨
      (∃ e, r = .error e) ∧ w' = w :=
  hserved.determined rfl (fun _ => rfl) fun _ => rfl

theorem served_jobsSetStep {step : JobStep} {state : StepState} {error : Option String}
    {r : Except Failure Unit} (hserved : Served (.jobsSetStep id step state error) w r w') :
    r = .ok () ∧ w' = { w with db := w.db.setStep w.now id step state error } ∨
      (∃ e, r = .error e) ∧ w' = w :=
  hserved.determined rfl (fun _ => rfl) fun _ => rfl

theorem served_jobsCompletedSteps {r : Except Failure (List JobStep)}
    (hserved : Served (.jobsCompletedSteps id) w r w') :
    r = .ok (w.db.completedSteps id) ∧ w' = w ∨ (∃ e, r = .error e) ∧ w' = w :=
  hserved.determined rfl (fun _ => rfl) fun _ => rfl

theorem served_publishProgress {progress : Progress} {r : Except Failure Unit}
    (hserved : Served (.publishProgress id progress) w r w') : r = .ok () ∧ w' = w := by
  rcases hserved.cases rfl with ⟨given, heq⟩ | ⟨e, heq⟩
  · obtain ⟨rfl, rfl⟩ := Prod.mk.inj heq
    exact ⟨rfl, rfl⟩
  · obtain ⟨rfl, rfl⟩ := Prod.mk.inj heq
    exact ⟨rfl, rfl⟩

theorem served_jobsRequire {r : Except Failure JobRow} (hserved : Served (.jobsRequire id) w r w') :
    w' = w ∧ ∀ job, r = .ok job → w.db.job? id = some job := by
  rcases hserved.cases rfl with ⟨given, heq⟩ | ⟨e, heq⟩
  · have hanswer : w.required (w.db.job? id) (AppError.notFound "Provisioning job not found") =
        (r, w') := heq
    cases hjob : w.db.job? id with
    | none =>
        rw [hjob] at hanswer
        obtain ⟨rfl, rfl⟩ := Prod.mk.inj hanswer
        exact ⟨rfl, fun job hok => by cases hok⟩
    | some row =>
        rw [hjob] at hanswer
        obtain ⟨rfl, rfl⟩ := Prod.mk.inj hanswer
        exact ⟨rfl, fun job hok => by rw [Except.ok.inj hok]⟩
  · obtain ⟨rfl, rfl⟩ := Prod.mk.inj heq
    exact ⟨rfl, fun job hok => by cases hok⟩

end outcomes

end ProxVM
