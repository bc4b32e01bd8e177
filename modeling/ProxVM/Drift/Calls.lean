import ProxVM.Drift.Detectors
import ProxVM.Lib.Solo
import ProxVM.Provisioning.World

/-!
# The calls of the drift code

The drift passes and the remediations make calls of their own besides those of the
provisioning code, which `DriftCall.base` embeds.  A `DriftWorld` is the world of
the provisioning code with the two drift tables; `DriftWorld.answer` says what each
call replies and does, and `DriftServed` adds that every call may fail.

The cluster listing, a guest's configuration, the guest agent, the SSH probe and
the Guacamole records are outside of this world: their replies are arbitrary.
-/

namespace ProxVM

open Tables Interaction

/-! ## Reads and statements of the services -/

/-- `VmsRepository.list`: live rows, newest first. -/
def Db.listVms (db : Db) : List VmRow :=
  db.vms.rows.reverse.filter fun vm => vm.deletedAt.isNone

theorem Db.mem_listVms {db : Db} {vm : VmRow} : vm ∈ db.listVms ↔ vm ∈ db.vms ∧ vm.deletedAt = none := by
  simp [listVms, Table.mem_def]

def Db.activeJobVmIds (db : Db) : List VmId :=
  ((db.jobs.rows.filter fun j => !j.status.isTerminal).filterMap JobRow.vmId).dedup

def Db.activeJobsForVm (db : Db) (vmId : VmId) : List JobRow :=
  db.jobs.rows.filter fun j => decide (j.vmId = some vmId) && !j.status.isTerminal

/-- `VmsRepository.updateName`. -/
def Db.updateVmName (db : Db) (id : VmId) (name : String) : Db :=
  db.updateVm id (fun v => { v with name }) fun _ => rfl

/-- `VmsRepository.updateNode`, rejected when `(vmid, node)` is taken. -/
def Db.updateVmNode (db : Db) (id : VmId) (node : String) : Option Db :=
  let taken := match db.vms.find? id with
    | none => false
    | some vm => db.vms.rows.any fun v =>
        decide (v.id ≠ id) && decide (v.vmid = vm.vmid) && decide (v.node = node)
  if taken then none else some (db.updateVm id (fun v => { v with node }) fun _ => rfl)

/-- The direct half of `VmsRepository.revokeAllAccess`. -/
def Db.deleteDirectAccess (db : Db) (vmId : VmId) : Db :=
  { db with vmAccess := db.vmAccess.deleteWhere fun va => decide (va.vmId = vmId) }

/-- The group half of `VmsRepository.revokeAllAccess`. -/
def Db.deleteGroupAccess (db : Db) (vmId : VmId) : Db :=
  { db with groupVmAccess := db.groupVmAccess.deleteWhere fun gva => decide (gva.vmId = vmId) }

/-- The reference of a nullable `vm_id` to `vms`. -/
def Db.hasVm (db : Db) (vmId : Option VmId) : Bool :=
  match vmId with
  | none => true
  | some id => (db.vms.find? id).isSome

/-! ## Payloads -/

/-- `DriftPassResult.skipped`. -/
inductive SkipReason
  | disabled
  | unconfigured
  | proxmoxDown
  deriving DecidableEq, Repr

/-- The summary a pass stores under `drift.last_run`. -/
structure DriftRunSummary where
  time : Time
  created : Nat
  updated : Nat
  resolved : Nat
  exempted : Nat
  liveChecked : Bool
  skipped : Option SkipReason
  deriving DecidableEq, Repr

/-- A row of `vm_credentials`, the columns the probe reads. -/
structure CredentialRow where
  username : String
  passwordCiphertext : String
  deriving DecidableEq, Repr

/-- `status` of `probeSsh`. -/
inductive SshStatus
  | authenticated
  | authFailed
  | connectionFailed
  deriving DecidableEq, Repr

/-- The verdict of `probeSsh`. -/
structure SshProbe where
  status : SshStatus
  detail : String
  deriving DecidableEq, Repr

/-! ## The calls -/

inductive DriftCall
  | base (c : Call)
  -- settings
  | settingsDriftEnabled
  | settingsSetLastRun (summary : DriftRunSummary)
  -- proxmox/client.ts
  | clusterResources
  | qemuConfig (node : String) (vmid : Nat)
  -- services/vms.ts and services/jobs.ts
  | vmsList
  | vmsUpdateName (id : VmId) (name : String)
  | vmsUpdateNode (id : VmId) (node : String)
  | vmsDeleteDirectAccess (id : VmId)
  | vmsDeleteGroupAccess (id : VmId)
  | jobsActiveJobVmIds
  | jobsActiveJobsForVm (vmId : VmId)
  -- services/guacamole.ts
  | guacListAllConnectionRecords
  | guacUpdateConnectionHostname (vmId : VmId) (hostname : String)
  | guacDeleteConnectionRecord (id : ConnectionId)
  -- credentials, host keys, SSH
  | credsFindByVm (vmId : VmId)
  | hostKeysPolicy (vmId : VmId) (host : String) (port : Nat)
  | probeSsh (target : SshTarget)
  -- services/usage.ts
  | closePowerPeriod (vmId : VmId)
  -- drift_findings
  | newId
  | findingByFingerprint (fingerprint : String)
  | findingById (id : FindingId)
  | insertFinding (id : FindingId) (d : Detected)
  | refreshFinding (d : Detected) (now : Time)
  | listActiveFindings
  | autoResolveFindings (fingerprints : List String) (now : Time)
  | resolveFinding (fingerprint : String) (actor : UserId) (now : Time)
  | acknowledgeFinding (id : FindingId) (actor : UserId) (now : Time)
  -- drift_vm_state
  | getVmState (vmId : VmId)
  | upsertVmState (vmId : VmId) (patch : VmStatePatch)

@[reducible] def DriftCall.Reply : DriftCall → Type
  | .base c => c.Reply
  | .settingsDriftEnabled => Option String
  | .clusterResources => List ProxmoxQemuResource
  | .qemuConfig _ _ => HardwareConfig
  | .vmsList => List VmRow
  | .vmsDeleteDirectAccess _ => Nat
  | .vmsDeleteGroupAccess _ => Nat
  | .jobsActiveJobVmIds => List VmId
  | .jobsActiveJobsForVm _ => List JobRow
  | .guacListAllConnectionRecords => List GuacConnectionRow
  | .guacUpdateConnectionHostname _ _ => Nat
  | .guacDeleteConnectionRecord _ => Bool
  | .credsFindByVm _ => Option CredentialRow
  | .probeSsh _ => SshProbe
  | .closePowerPeriod _ => Nat
  | .newId => FindingId
  | .findingByFingerprint _ => Option (FindingId × DriftStatus)
  | .findingById _ => Option DriftFindingRow
  | .listActiveFindings => List DriftFindingRow
  | .autoResolveFindings _ _ => Nat
  | .getVmState _ => Option VmStateRow
  | _ => Unit

@[reducible] def driftCalls : Signature := ⟨DriftCall, DriftCall.Reply⟩

abbrev DriftTask (α : Type) := Prog driftCalls Failure α

def askDrift (c : DriftCall) : DriftTask c.Reply := Prog.perform (F := driftCalls) c

theorem holds_askDrift {σ : Type} {serve : Service driftCalls Failure σ}
    {guarantee : DriftCall → σ → Prop} {c : DriftCall} {Q : Except Failure c.Reply → σ → Prop}
    {s : σ} : (aloneOwing serve guarantee).holds (askDrift c) Q s ↔
      guarantee c s ∧ ∀ r s', serve c s r s' → Q r s' :=
  holds_aloneOwing_perform

theorem holds_askDrift_bind {σ α : Type} {serve : Service driftCalls Failure σ}
    {guarantee : DriftCall → σ → Prop} {c : DriftCall} {f : c.Reply → DriftTask α}
    {Q : Except Failure α → σ → Prop} {s : σ} :
    (aloneOwing serve guarantee).holds (askDrift c >>= f) Q s ↔ guarantee c s ∧
        (∀ a s', serve c s (.ok a) s' → (aloneOwing serve guarantee).holds (f a) Q s') ∧
        ∀ e s', serve c s (.error e) s' → Q (.error e) s' :=
  holds_aloneOwing_bind

/-- `throw`. -/
def throwDrift {α : Type} (e : AppError) : DriftTask α := .raise (.app e)

/-! ## The world -/

/-- The world of the provisioning code, `drift_findings` and `drift_vm_state`. -/
structure DriftWorld where
  base : World
  findings : Findings
  vmState : VmStates

namespace DriftWorld

/-- What a violated reference to `vms` surfaces as. -/
def foreignKeyViolation : Failure :=
  .other "insert or update on table violates foreign key constraint"

def insertFinding (w : DriftWorld) (id : FindingId) (d : Detected) :
    Except Failure Unit × DriftWorld :=
  if w.base.db.hasVm d.vmId then
    match w.findings.insertNew id d w.base.now with
    | some findings => (.ok (), { w with findings })
    | none => (.error (.uniqueViolation "duplicate key value violates unique constraint"), w)
  else
    (.error foreignKeyViolation, w)

/-- The outcome of `upsertVmState`. -/
def upsertVmState (w : DriftWorld) (vmId : VmId) (patch : VmStatePatch) :
    Except Failure Unit × DriftWorld :=
  if w.base.db.hasVm (some vmId) then
    (.ok (), { w with vmState := w.vmState.upsert vmId patch })
  else
    (.error foreignKeyViolation, w)

/-- The outcome of `VmsRepository.updateNode`. -/
def updateVmNode (w : DriftWorld) (id : VmId) (node : String) : Except Failure Unit × DriftWorld :=
  match w.base.db.updateVmNode id node with
  | some db => (.ok (), { w with base := { w.base with db } })
  | none => (.error (.uniqueViolation "duplicate key value violates unique constraint"), w)

def withDb (w : DriftWorld) (db : Db) : DriftWorld := { w with base := { w.base with db } }

/-- What a call that succeeds replies and does.  The given reply is used where this
world does not determine one. -/
def answer (w : DriftWorld) : (c : DriftCall) → c.Reply → Except Failure c.Reply × DriftWorld
  | .base c, given => ((w.base.answer c given).1, { w with base := (w.base.answer c given).2 })
  | .vmsList, _ => (.ok w.base.db.listVms, w)
  | .vmsUpdateName id name, _ => (.ok (), w.withDb (w.base.db.updateVmName id name))
  | .vmsUpdateNode id node, _ => w.updateVmNode id node
  | .vmsDeleteDirectAccess id, given => (.ok given, w.withDb (w.base.db.deleteDirectAccess id))
  | .vmsDeleteGroupAccess id, given => (.ok given, w.withDb (w.base.db.deleteGroupAccess id))
  | .jobsActiveJobVmIds, _ => (.ok w.base.db.activeJobVmIds, w)
  | .jobsActiveJobsForVm vmId, _ => (.ok (w.base.db.activeJobsForVm vmId), w)
  | .findingByFingerprint fingerprint, _ =>
      (.ok ((w.findings.find? fingerprint).map fun row => (row.id, row.status)), w)
  | .findingById id, _ => (.ok (w.findings.findById id), w)
  | .insertFinding id d, _ => w.insertFinding id d
  | .refreshFinding d now, _ => (.ok (), { w with findings := w.findings.refreshRow d now })
  | .listActiveFindings, _ => (.ok w.findings.listActive, w)
  | .autoResolveFindings fingerprints now, _ =>
      (.ok (w.findings.autoResolveCount fingerprints),
        { w with findings := w.findings.autoResolve fingerprints now })
  | .resolveFinding fingerprint actor now, _ =>
      (.ok (), { w with findings := w.findings.resolveManually fingerprint actor now })
  | .acknowledgeFinding id actor now, _ =>
      (.ok (), { w with findings := w.findings.acknowledge id actor now })
  | .getVmState vmId, _ => (.ok (w.vmState.find? vmId), w)
  | .upsertVmState vmId patch, _ => w.upsertVmState vmId patch
  | _, given => (.ok given, w)

def serve (w : DriftWorld) : (c : DriftCall) → Fate c.Reply → Except Failure c.Reply × DriftWorld
  | .base c, fate => ((w.base.serve c fate).1, { w with base := (w.base.serve c fate).2 })
  | c, .answer given => w.answer c given
  | _, .refuse e => (.error e, w)
  | _, .lose e _ => (.error e, w)

end DriftWorld

def DriftCall.Enabled (w : DriftWorld) : DriftCall → Prop
  | .base c => c.Enabled w.base
  | _ => True

instance (w : DriftWorld) (c : DriftCall) : Decidable (c.Enabled w) := by
  unfold DriftCall.Enabled
  split <;> infer_instance

/-- In `w`, the call `c` may end with `r` and leave `w'`. -/
def DriftServed (c : DriftCall) (w : DriftWorld) (r : Except Failure c.Reply) (w' : DriftWorld) :
    Prop :=
  c.Enabled w ∧ ∃ fate, w.serve c fate = (r, w')

/-! ## What a call leaves alone -/

def DriftCall.writesFindings : DriftCall → Bool
  | .insertFinding _ _ => true
  | .refreshFinding _ _ => true
  | .autoResolveFindings _ _ => true
  | .resolveFinding _ _ _ => true
  | .acknowledgeFinding _ _ _ => true
  | _ => false

def DriftCall.writesVmState : DriftCall → Bool
  | .upsertVmState _ _ => true
  | _ => false

def DriftCall.writesBase : DriftCall → Bool
  | .base _ => true
  | .vmsUpdateName _ _ => true
  | .vmsUpdateNode _ _ => true
  | .vmsDeleteDirectAccess _ => true
  | .vmsDeleteGroupAccess _ => true
  | _ => false

structure DriftWorld.Frame (c : DriftCall) (w w' : DriftWorld) : Prop where
  findings : c.writesFindings = false → w'.findings = w.findings
  vmState : c.writesVmState = false → w'.vmState = w.vmState
  base : c.writesBase = false → w'.base = w.base

namespace DriftWorld

variable {w w' : DriftWorld} {c : DriftCall}

theorem Frame.refl (c : DriftCall) (w : DriftWorld) : Frame c w w :=
  ⟨fun _ => rfl, fun _ => rfl, fun _ => rfl⟩

private theorem frame_updateVmNode {id : VmId} {node : String} :
    Frame (.vmsUpdateNode id node) w (w.updateVmNode id node).2 := by
  unfold updateVmNode
  split
  · exact ⟨fun _ => rfl, fun _ => rfl, nofun⟩
  · exact Frame.refl _ w

private theorem frame_insertFinding {id : FindingId} {d : Detected} :
    Frame (.insertFinding id d) w (w.insertFinding id d).2 := by
  unfold insertFinding
  split
  · split
    · exact ⟨nofun, fun _ => rfl, fun _ => rfl⟩
    · exact Frame.refl _ w
  · exact Frame.refl _ w

private theorem frame_upsertVmState {vmId : VmId} {patch : VmStatePatch} :
    Frame (.upsertVmState vmId patch) w (w.upsertVmState vmId patch).2 := by
  unfold upsertVmState
  split
  · exact ⟨fun _ => rfl, nofun, fun _ => rfl⟩
  · exact Frame.refl _ w

theorem frame_answer (w : DriftWorld) (c : DriftCall) (given : c.Reply) : Frame c w (w.answer c given).2 := by
  cases c with
  | vmsUpdateNode id node => exact frame_updateVmNode
  | insertFinding id d => exact frame_insertFinding
  | upsertVmState vmId patch => exact frame_upsertVmState
  | _ => constructor <;> first | exact fun _ => rfl | exact nofun

end DriftWorld

section served

variable {c : DriftCall} {w w' : DriftWorld}

def DriftCall.isBase : DriftCall → Bool
  | .base _ => true
  | _ => false

theorem DriftServed.cases {r : Except Failure c.Reply} (hserved : DriftServed c w r w')
    (hbase : c.isBase = false) : (∃ e, r = .error e ∧ w' = w) ∨ ∃ given, w.answer c given = (r, w') := by
  obtain ⟨-, fate, hserve⟩ := hserved
  cases c with
  | base b => cases hbase
  | _ =>
      cases fate with
      | answer given => exact .inr ⟨given, hserve⟩
      | refuse e =>
          cases hserve
          exact .inl ⟨e, rfl, rfl⟩
      | lose e given =>
          cases hserve
          exact .inl ⟨e, rfl, rfl⟩

theorem DriftServed.base {b : Call} {r : Except Failure b.Reply} (hserved : DriftServed (.base b) w r w') :
    Served b w.base r w'.base ∧ w'.findings = w.findings ∧ w'.vmState = w.vmState := by
  obtain ⟨henabled, fate, hserve⟩ := hserved
  cases hserve
  exact ⟨⟨henabled, fate, rfl⟩, rfl, rfl⟩

theorem DriftServed.frame {r : Except Failure c.Reply} (hserved : DriftServed c w r w') :
    DriftWorld.Frame c w w' := by
  cases hb : c.isBase with
  | true =>
      cases c with
      | base b => exact ⟨fun _ => hserved.base.2.1, fun _ => hserved.base.2.2, nofun⟩
      | _ => cases hb
  | false =>
      obtain ⟨e, -, rfl⟩ | ⟨given, hanswer⟩ := hserved.cases hb
      · exact .refl _ _
      · have hframe := DriftWorld.frame_answer w c given
        rwa [hanswer] at hframe

end served

end ProxVM
