import ProxVM.Db.Schema

/-!
# The job ledger

The statements of `JobsRepository` (`services/jobs.ts`) as
functions of the database.  `resetForRetry` is two statements, so it is two
functions here.
-/

namespace ProxVM.Db

open Tables

variable {db : Db} {now : Time} {id id' : JobId} {step step' : JobStep}

/-! ## Reads -/

/-- `SELECT * FROM provisioning_jobs WHERE id = $1`. -/
def job? (db : Db) (id : JobId) : Option JobRow := db.jobs.find? id

def jobStatus? (db : Db) (id : JobId) : Option JobStatus := (db.job? id).map JobRow.status

def stepState? (db : Db) (id : JobId) (step : JobStep) : Option StepState :=
  (db.steps.find? (id, step)).map StepRow.state

/-- The step is recorded `SUCCEEDED`. -/
def Succeeded (db : Db) (id : JobId) (step : JobStep) : Prop :=
  db.stepState? id step = some .succeeded

/-- `completedSteps`: the steps recorded `SUCCEEDED` or `SKIPPED`. -/
def completedSteps (db : Db) (id : JobId) : List JobStep :=
  (db.steps.rows.filter fun r => decide (r.jobId = id) &&
    (decide (r.state = .succeeded) || decide (r.state = .skipped))).map StepRow.step

theorem mem_completedSteps : step ∈ db.completedSteps id ↔
    db.stepState? id step = some .succeeded ∨ db.stepState? id step = some .skipped := by
  simp only [completedSteps, List.mem_map, List.mem_filter, Bool.and_eq_true, Bool.or_eq_true,
    decide_eq_true_eq, stepState?, Option.map_eq_some_iff, Table.find?_eq_some_iff]
  constructor
  · rintro ⟨r, ⟨hr, rfl, hstate⟩, rfl⟩
    rcases hstate with hstate | hstate
    · exact Or.inl ⟨r, ⟨hr, rfl⟩, hstate⟩
    · exact Or.inr ⟨r, ⟨hr, rfl⟩, hstate⟩
  · rintro (⟨r, ⟨hr, hkey⟩, hstate⟩ | ⟨r, ⟨hr, hkey⟩, hstate⟩)
    · obtain ⟨rfl, rfl⟩ := Prod.ext_iff.mp hkey
      exact ⟨r, ⟨hr, rfl, Or.inl hstate⟩, rfl⟩
    · obtain ⟨rfl, rfl⟩ := Prod.ext_iff.mp hkey
      exact ⟨r, ⟨hr, rfl, Or.inr hstate⟩, rfl⟩

/-- `activeJobWithName`: a non-terminal job by the same creator for the same VM name. -/
def activeJobWithName (db : Db) (createdByUserId : UserId) (name : String) : Option JobRow :=
  db.jobs.rows.find? fun j => decide (j.createdByUserId = some createdByUserId) &&
    !j.status.isTerminal && decide (j.request.name = name)

/-! ## Updates of one job row -/

/-- `UPDATE provisioning_jobs SET … WHERE id = $1`. -/
def updateJob (db : Db) (id : JobId) (f : JobRow → JobRow) (hkey : ∀ j, (f j).id = j.id) : Db :=
  { db with jobs := db.jobs.updateWhere (fun j => decide (j.id = id)) f hkey }

theorem job?_updateJob {f : JobRow → JobRow} (hkey : ∀ j, (f j).id = j.id) :
    (db.updateJob id f hkey).job? id' = if id' = id then (db.job? id').map f else db.job? id' := by
  simp only [job?, updateJob, Table.find?_updateWhere]
  cases hfind : db.jobs.find? id' with
  | none => simp
  | some j =>
      have hid : j.id = id' := Table.key_of_find? hfind
      by_cases hsame : id' = id
      · simp [hsame, hid]
      · simp [hsame, hid]

/-- `JobsRepository.updateStatus`: stamps `started_at` on the first status other
than `PENDING` and `finished_at` on terminal ones. -/
def updateStatus (db : Db) (now : Time) (id : JobId) (status : JobStatus)
    (error : Option String) : Db :=
  db.updateJob id (fun j =>
    { j with
      status
      error
      startedAt := if j.startedAt = none ∧ status ≠ .pending then some now else j.startedAt
      finishedAt := if status.isTerminal then some now else j.finishedAt
      updatedAt := now }) fun _ => rfl

def setBullJobId (db : Db) (now : Time) (id : JobId) (bullJobId : BullJobId) : Db :=
  db.updateJob id (fun j => { j with bullJobId := some bullJobId, updatedAt := now }) fun _ => rfl

def setVmId (db : Db) (now : Time) (id : JobId) (vmId : VmId) : Db :=
  db.updateJob id (fun j => { j with vmId := some vmId, updatedAt := now }) fun _ => rfl

/-- The first statement of `resetForRetry`. -/
def resetStatus (db : Db) (now : Time) (id : JobId) : Db :=
  db.updateJob id (fun j => { j with status := .pending, error := none, updatedAt := now })
    fun _ => rfl

def cancel (db : Db) (now : Time) (id : JobId) : Db :=
  db.updateJob id (fun j =>
    { j with status := .cancelled, finishedAt := some now, updatedAt := now }) fun _ => rfl

section status

variable {status : JobStatus} {error : Option String} {bullJobId : BullJobId} {vmId : VmId}

theorem jobStatus?_updateJob {f : JobRow → JobRow} (hkey : ∀ j, (f j).id = j.id) :
    (db.updateJob id f hkey).jobStatus? id' =
      if id' = id then (db.job? id').map fun j => (f j).status else db.jobStatus? id' := by
  simp only [jobStatus?, job?_updateJob]
  split
  · rw [Option.map_map]
    rfl
  · rfl

@[simp] theorem jobStatus?_updateStatus : (db.updateStatus now id status error).jobStatus? id' =
    if id' = id then (db.jobStatus? id').map fun _ => status else db.jobStatus? id' := by
  simp only [updateStatus, jobStatus?_updateJob]
  simp only [jobStatus?, Option.map_map, Function.comp_def]

@[simp] theorem jobStatus?_setBullJobId :
    (db.setBullJobId now id bullJobId).jobStatus? id' = db.jobStatus? id' := by
  simp only [setBullJobId, jobStatus?_updateJob]
  exact ite_self _

@[simp] theorem jobStatus?_setVmId : (db.setVmId now id vmId).jobStatus? id' = db.jobStatus? id' := by
  simp only [setVmId, jobStatus?_updateJob]
  exact ite_self _

@[simp] theorem jobStatus?_resetStatus : (db.resetStatus now id).jobStatus? id' =
    if id' = id then (db.jobStatus? id').map fun _ => .pending else db.jobStatus? id' := by
  simp only [resetStatus, jobStatus?_updateJob]
  simp only [jobStatus?, Option.map_map, Function.comp_def]

@[simp] theorem jobStatus?_cancel : (db.cancel now id).jobStatus? id' =
    if id' = id then (db.jobStatus? id').map fun _ => .cancelled else db.jobStatus? id' := by
  simp only [cancel, jobStatus?_updateJob]
  simp only [jobStatus?, Option.map_map, Function.comp_def]

end status

/-! ## Steps -/

/-- `JobsRepository.setStep`: an upsert that keeps the first `started_at`. -/
def setStep (db : Db) (now : Time) (id : JobId) (step : JobStep) (state : StepState)
    (error : Option String) : Db :=
  let finished := decide (state = .succeeded) || decide (state = .failed) ||
    decide (state = .skipped)
  { db with
    steps := db.steps.put
      (match db.steps.find? (id, step) with
        | none =>
            { jobId := id
              step
              state
              error
              startedAt := if state = .running then some now else none
              finishedAt := if finished then some now else none }
        | some old =>
            { jobId := id
              step
              state
              error
              startedAt :=
                if state = .running then some (old.startedAt.getD now) else old.startedAt
              finishedAt := if finished then some now else old.finishedAt }) }

/-- A step row set back to `PENDING`. -/
def reopen (r : StepRow) : StepRow :=
  { r with state := .pending, error := none, finishedAt := none }

theorem key_reopen (r : StepRow) : (reopen r).key = r.key := rfl

/-- The second statement of `resetForRetry`: only `FAILED` steps are reopened. -/
def resetFailedSteps (db : Db) (id : JobId) : Db :=
  { db with
    steps := db.steps.updateWhere (fun r => decide (r.jobId = id) && decide (r.state = .failed))
      reopen key_reopen }

section steps

variable {state : StepState} {error : Option String}

@[simp] theorem stepState?_setStep : (db.setStep now id step state error).stepState? id' step' =
    if id' = id ∧ step' = step then some state else db.stepState? id' step' := by
  simp only [setStep, stepState?]
  generalize hrow : (match db.steps.find? (id, step) with
    | none => _
    | some old => _ : StepRow) = row
  have hkey : StepRow.key row = (id, step) := by
    rw [← hrow]
    split <;> rfl
  have hstate : row.state = state := by
    rw [← hrow]
    split <;> rfl
  by_cases hsame : id' = id ∧ step' = step
  · obtain ⟨rfl, rfl⟩ := hsame
    rw [← hkey, Table.find?_put_self]
    simp [hstate]
  · have hne : StepRow.key row ≠ (id', step') := by
      rw [hkey]
      rintro ⟨⟩
      exact hsame ⟨rfl, rfl⟩
    rw [Table.find?_put_of_ne _ hne, if_neg hsame]

@[simp] theorem stepState?_resetFailedSteps : (db.resetFailedSteps id).stepState? id' step =
    if id' = id ∧ db.stepState? id' step = some .failed then some .pending else db.stepState? id' step := by
  unfold stepState?
  rw [resetFailedSteps, Table.find?_updateWhere]
  cases hfind : db.steps.find? (id', step) with
  | none => simp
  | some r =>
      obtain ⟨hid, -⟩ := Prod.ext_iff.mp (Table.key_of_find? hfind : StepRow.key r = (id', step))
      have hid' : r.jobId = id' := hid
      by_cases hsame : id' = id
      · by_cases hfailed : r.state = .failed
        · simp [hid', hsame, hfailed, reopen]
        · simp [hid', hsame, hfailed]
      · simp [hid', hsame]

end steps

/-! ## Creation -/

/-- `JobsRepository.create`: a `PENDING` row under a new id. -/
def insertJob (db : Db) (now : Time) (id : JobId) (request : ProvisionRequest)
    (createdByUserId : UserId) : Option Db :=
  (db.jobs.insert?
    { id, vmId := none, status := .pending, error := none, request,
      createdByUserId := some createdByUserId, bullJobId := none, startedAt := none,
      finishedAt := none, updatedAt := now }).map fun jobs => { db with jobs }

variable {db' : Db} {request : ProvisionRequest} {user : UserId}

theorem job?_eq_none_of_insertJob
    (hins : db.insertJob now id request user = some db') : db.job? id = none := by
  obtain ⟨jobs, hjobs, -⟩ := Option.map_eq_some_iff.mp hins
  exact Table.find?_eq_none_iff.mpr (Table.insert?_eq_some hjobs).1

theorem jobStatus?_insertJob (hins : db.insertJob now id request user = some db') : db'.jobStatus? id' =
      if id' = id then some .pending else db.jobStatus? id' := by
  obtain ⟨jobs, hjobs, rfl⟩ := Option.map_eq_some_iff.mp hins
  obtain ⟨-, hmem⟩ := Table.insert?_eq_some hjobs
  by_cases hsame : id' = id
  · subst hsame
    have hrow := Table.find?_of_mem ((hmem _).mpr (Or.inr rfl))
    rw [if_pos rfl, jobStatus?, job?, hrow]
    rfl
  · have hfind : jobs.find? id' = db.jobs.find? id' := by
      refine Table.find?_congr fun j hkey => ?_
      rw [hmem]
      constructor
      · rintro (hold | rfl)
        · exact hold
        · exact absurd hkey.symm hsame
      · exact Or.inl
    rw [if_neg hsame, jobStatus?, job?, hfind]
    rfl

end ProxVM.Db
