import ProxVM.Db.Schema
import ProxVM.Lib.Pool
import ProxVM.Util.Errors

/-!
# Schedules and the class of a VM

The requests that change the class of a VM or create, enable or disable a schedule, as programs
of statements: `setVmClass` and `bulkSetVmClass` of `services/vms.ts`,
`createSchedule` and `setScheduleEnabled` of `services/homelab.ts`, and the
routes of `routes/vms.ts` around them.

What a caller may do is not modelled: a check of permissions or of access comes out either way.
A statement is atomic, and it may fail without an effect.
-/

namespace ProxVM.Schedules

open Tables Interaction

abbrev ScheduleId := Nat

/-! ## The tables -/

inductive VmClass
  | server
  | user
  deriving DecidableEq, Repr

/-- The columns of `vms` that these requests read or write. -/
structure ClassRow where
  id : VmId
  vmClass : VmClass
  privacyFlag : Bool
  deriving DecidableEq, Repr

/-- `SCHEDULE_ACTIONS`. -/
inductive ScheduleAction
  | start
  | stop
  | restart
  deriving DecidableEq, Repr

/-- A row of `vm_schedules`. -/
structure VmSchedule where
  id : ScheduleId
  vmId : VmId
  action : ScheduleAction
  minute : Nat
  hour : Nat
  days : String
  enabled : Bool
  createdBy : Option UserId
  deriving DecidableEq, Repr

structure World where
  vms : Table ClassRow.id
  schedules : Table VmSchedule.id

/-! ## Statements -/

inductive Call
  | requirePermission (anyOf : List Permission)
  | resolveVmAccess (vmId : VmId)
  | hasAccessOrOwns (vmId : VmId)
  | findById (vmId : VmId)
  | countEnabled (vmId : VmId)
  | updateVmClass (vmId : VmId) (vmClass : VmClass)
  | listSchedules
  | insertSchedule (schedule : VmSchedule)
  | updateEnabled (id : ScheduleId) (enabled : Bool)

@[reducible] def Call.Reply : Call → Type
  | .resolveVmAccess _ => Bool
  | .hasAccessOrOwns _ => Bool
  | .findById _ => Option ClassRow
  | .countEnabled _ => Nat
  | .listSchedules => List VmSchedule
  | _ => Unit

@[reducible] def calls : Signature := ⟨Call, Call.Reply⟩

abbrev Task (α : Type) := Prog calls AppError α

def ask (c : Call) : Task c.Reply := Prog.perform (F := calls) c

namespace World

variable (w : World)

/-- `SELECT COUNT(*) FROM vm_schedules WHERE vm_id = $1 AND enabled`. -/
def countEnabled (vmId : VmId) : Nat :=
  w.schedules.rows.countP fun s => decide (s.vmId = vmId) && s.enabled

/-- `UPDATE vms SET vm_class = $2 WHERE id = $1`. -/
def updateVmClass (vmId : VmId) (vmClass : VmClass) : World :=
  { w with
    vms := w.vms.updateWhere (fun vm => decide (vm.id = vmId)) (fun vm => { vm with vmClass })
      fun _ => rfl }

theorem id_of_enabled (enabled : Bool) (s : VmSchedule) : { s with enabled }.id = s.id := rfl

/-- `UPDATE vm_schedules SET enabled = $2 WHERE id = $1`. -/
def updateEnabled (id : ScheduleId) (enabled : Bool) : World :=
  { w with
    schedules := w.schedules.updateWhere (fun s => decide (s.id = id)) (fun s => { s with enabled })
      (id_of_enabled enabled) }

end World

def Answers : (c : Call) → World → Except AppError c.Reply → World → Prop
  | .requirePermission _, w, r, w' => r = .ok () ∧ w' = w
  | .resolveVmAccess _, w, r, w' => (∃ allowed, r = .ok allowed) ∧ w' = w
  | .hasAccessOrOwns _, w, r, w' => (∃ granted, r = .ok granted) ∧ w' = w
  | .findById vmId, w, r, w' => r = .ok (w.vms.find? vmId) ∧ w' = w
  | .countEnabled vmId, w, r, w' => r = .ok (w.countEnabled vmId) ∧ w' = w
  | .updateVmClass vmId vmClass, w, r, w' => r = .ok () ∧ w' = w.updateVmClass vmId vmClass
  | .listSchedules, w, r, w' => r = .ok w.schedules.rows ∧ w' = w
  | .insertSchedule schedule, w, r, w' =>
      r = .ok () ∧ ∃ schedules, w.schedules.insert? schedule = some schedules ∧
        w' = { w with schedules }
  | .updateEnabled id enabled, w, r, w' => r = .ok () ∧ w' = w.updateEnabled id enabled

def Serves (c : Call) (w : World) (r : Except AppError c.Reply) (w' : World) : Prop :=
  Answers c w r w' ∨ ∃ e, r = .error e ∧ w' = w

/-! ## The class -/

def requireById (vmId : VmId) : Task ClassRow := do
  let found ← ask (.findById vmId)
  Prog.orRaise found (AppError.notFound "VM not found")

def setVmClass (vmId : VmId) (vmClass : VmClass) : Task Bool := do
  let vm ← requireById vmId
  if vmClass = .user ∧ vm.vmClass ≠ .user then do
    let n : Nat ← ask (.countEnabled vmId)
    if 0 < n then
      .raise (AppError.validation ("VM class switch to \"user\" is blocked: the VM has enabled " ++
        "schedules that would conflict with idle auto-shutdown"))
    else do
      ask (.updateVmClass vmId vmClass)
      pure true
  else if vmClass = vm.vmClass then
    pure false
  else do
    ask (.updateVmClass vmId vmClass)
    pure true

/-- `PATCH /vms/:id/class`. -/
def patchVmClass (vmId : VmId) (vmClass : VmClass) : Task Bool := do
  ask (.requirePermission [.vmEdit])
  let vm ← requireById vmId
  if vm.privacyFlag then do
    let granted : Bool ← ask (.hasAccessOrOwns vm.id)
    if granted then
      setVmClass vm.id vmClass
    else
      .raise (AppError.forbidden "This VM is privacy-flagged and you have no grant for it")
  else
    setVmClass vm.id vmClass

def bulkItem (p : Task Bool) : Task (Except AppError Bool) :=
  Prog.tryCatch (p >>= fun changed => pure (.ok changed)) fun e => pure (.error e)

def bulkSetVmClass (vmIds : List VmId) (vmClass : VmClass) :
    Task (List (VmId × Except AppError Bool)) :=
  vmIds.dedup.foldlM (fun results vmId => do
    let result ← bulkItem (setVmClass vmId vmClass)
    pure (results ++ [(vmId, result)])) []

/-- The action `class` of `POST /vms/bulk-action`, up to the order of the results. -/
def bulkClass (vmIds : List VmId) (vmClass : VmClass) :
    Task (List (VmId × Except AppError Bool)) := do
  ask (.requirePermission [.vmEdit])
  let gated ← vmIds.dedup.foldlM (fun gated vmId => do
    let allowed : Bool ← ask (.resolveVmAccess vmId)
    pure (if allowed then (gated.1 ++ [vmId], gated.2) else (gated.1, gated.2 ++ [vmId])))
      (([], []) : List VmId × List VmId)
  let results ← bulkSetVmClass gated.1 vmClass
  pure (results ++ gated.2.map fun vmId => (vmId, .error (AppError.forbidden "No access to this VM")))

/-! ## Schedules -/

structure ScheduleInput where
  id : ScheduleId
  vmId : VmId
  action : ScheduleAction
  minute : Nat
  hour : Nat
  days : Option String
  createdBy : Option UserId
  deriving DecidableEq, Repr

section programs

-- Whether a text is `*` or a list of weekday numbers, as `parseScheduleDays` reads it.
variable (parsesDays : String → Bool)

def createSchedule (input : ScheduleInput) : Task VmSchedule :=
  if 59 < input.minute then
    .raise (AppError.validation "minute must be 0-59")
  else if 23 < input.hour then
    .raise (AppError.validation "hour must be 0-23")
  else if parsesDays (input.days.getD "*") = false then
    .raise (AppError.validation "days must be '*' or comma-separated weekday numbers 0-6")
  else do
    ask (.insertSchedule
      { id := input.id, vmId := input.vmId, action := input.action, minute := input.minute
        hour := input.hour, days := input.days.getD "*", enabled := true
        createdBy := input.createdBy })
    let rows : List VmSchedule ← ask .listSchedules
    Prog.orRaise (rows.find? fun s => decide (s.id = input.id))
      (AppError.database "the schedule is gone")

/-- `POST /schedules`. -/
def postSchedules (input : ScheduleInput) : Task VmSchedule := do
  ask (.requirePermission [.vmManage])
  let allowed : Bool ← ask (.resolveVmAccess input.vmId)
  if allowed then do
    let vm ← requireById input.vmId
    if vm.vmClass = .user then
      .raise (AppError.validation ("A user-class VM may not have an enabled schedule: idle " ++
        "auto-shutdown and the schedule would fight over its power state. Move the VM to the " ++
        "server class first, or switch the VM class endpoint refuses the other way round."))
    else
      createSchedule parsesDays input
  else
    .raise (AppError.forbidden "No access to this VM")

/-- `PATCH /schedules/:id`. -/
def patchSchedules (id : ScheduleId) (enabled : Bool) : Task Unit := do
  ask (.requirePermission [.vmManage])
  let schedules : List VmSchedule ← ask .listSchedules
  let schedule ← Prog.orRaise (schedules.find? fun s => decide (s.id = id))
    (AppError.notFound "Schedule not found")
  let allowed : Bool ← ask (.resolveVmAccess schedule.vmId)
  if allowed then
    if enabled then do
      let vm : Option ClassRow ← ask (.findById schedule.vmId)
      if vm.any fun vm => decide (vm.vmClass = .user) then
        .raise (AppError.validation ("A user-class VM may not have an enabled schedule: idle " ++
          "auto-shutdown and the schedule would fight over its power state."))
      else
        ask (.updateEnabled id true)
    else
      ask (.updateEnabled id false)
  else
    .raise (AppError.forbidden "No access to this VM")

end programs

/-! ## Side by side -/

inductive Request
  | patchVmClass (vmId : VmId) (vmClass : VmClass)
  | bulkClass (vmIds : List VmId) (vmClass : VmClass)
  | postSchedules (input : ScheduleInput)
  | patchSchedules (id : ScheduleId) (enabled : Bool)
  deriving DecidableEq, Repr

@[reducible] def Request.Result : Request → Type
  | .patchVmClass _ _ => Bool
  | .bulkClass _ _ => List (VmId × Except AppError Bool)
  | .postSchedules _ => VmSchedule
  | .patchSchedules _ _ => Unit

def Request.prog (parsesDays : String → Bool) : (request : Request) → Task request.Result
  | .patchVmClass vmId vmClass => Schedules.patchVmClass vmId vmClass
  | .bulkClass vmIds vmClass => Schedules.bulkClass vmIds vmClass
  | .postSchedules input => Schedules.postSchedules parsesDays input
  | .patchSchedules id enabled => Schedules.patchSchedules id enabled

abbrev ScheduleThread := Thread calls AppError Request.Result

abbrev SchedulePool := Pool calls AppError World Request.Result

def scheduleRules (parsesDays : String → Bool) (admits : SchedulePool → Request → Call → Prop) :
    Rules calls AppError World Request.Result where
  serve := Serves
  admits := admits
  ends _ _ w successor w' := successor = none ∧ w' = w
  turn w newcomer w' := w' = w ∧ ∃ request, newcomer = some ⟨request, request.prog parsesDays⟩

end ProxVM.Schedules
