import ProxVM.Drift.Persistence
import ProxVM.Provisioning.GuestConfig

/-!
# Drift remediation

The four remediations of `services/drift.ts` and the acknowledgement.  Each reads
the finding, checks it, verifies the drift against the live systems and only then
writes.
-/

namespace ProxVM

open Interaction

structure DriftActor where
  userId : UserId
  username : String
  deriving DecidableEq, Repr

/-- `deps.audit`: the request supplies the actor. -/
def auditDrift (actor : DriftActor) (event : String) : DriftTask Unit :=
  askDrift (.base (.auditRecord
    { event, actor := ⟨some actor.userId, some actor.username⟩, jobId := none, vmId := none }))

def activeFinding (id : FindingId) : DriftTask DriftFindingRow := do
  let found : Option DriftFindingRow ← askDrift (.findingById id)
  match found with
  | none => throwDrift (AppError.notFound "Drift finding not found")
  | some row =>
      if row.status = .resolved then
        throwDrift (AppError.conflict "Finding already resolved")
      else
        pure row

def findingTarget (finding : DriftFindingRow) (dimension : DriftDimension) (refusal : String) :
    DriftTask VmId :=
  if finding.dimension = dimension then
    Prog.orRaise finding.vmId (.app (AppError.conflict refusal))
  else
    throwDrift (AppError.conflict refusal)

/-- `VmsRepository.requireById` and its variant with another message. -/
def requireVm (id : VmId) (refusal : String) : DriftTask VmRow := do
  let vm : Option VmRow ← askDrift (.base (.vmsFindById id))
  Prog.orRaise vm (.app (AppError.notFound refusal))

def assertNoActiveJob (vmId : VmId) : DriftTask Unit := do
  let jobs : List JobRow ← askDrift (.jobsActiveJobsForVm vmId)
  if jobs = [] then
    pure ()
  else
    throwDrift (AppError.conflict
      "VM has an active provisioning job; drift remediation is refused until it finishes")

/-- `resolveFinding` and the audit entry that follows it. -/
def settleFinding (finding : DriftFindingRow) (actor : DriftActor) (now : Time) : DriftTask Unit := do
  askDrift (.resolveFinding finding.fingerprint actor.userId now)
  auditDrift actor "DRIFT_REMEDIATED"

/-! ## Decommission -/

def vanishedCount (tracked : List VmRow) (guests : List DriftLiveResource) : Nat :=
  tracked.countP fun vm => !hasVmid guests vm.vmid

def verifyAbsent (vm : VmRow) : DriftTask Unit := do
  askDrift (.base .getProxmoxClient)
  let raw : List ProxmoxQemuResource ← askDrift .clusterResources
  if hasVmid (allQemuResources raw) vm.vmid then
    throwDrift (AppError.conflict
      "A guest with this vmid exists again; the finding is stale (auto-resolves on the next pass)")
  else do
    let tracked : List VmRow ← askDrift .vmsList
    let vanished := vanishedCount tracked (allQemuResources raw)
    if clusterViewLooksDegraded tracked.length vanished then
      throwDrift (AppError.conflict
        (s!"The Proxmox cluster view looks incomplete ({vanished} of {tracked.length} tracked " ++
          "guests are missing); decommission is refused until the cluster view is whole again"))
    else
      pure ()

def dropRecord (vm : VmRow) : DriftTask Unit := do
  Prog.tryCatch (do
    askDrift (.base .getGuacDb)
    askDrift (.base (.guacDeleteVmResources vm.id))) fun _ => pure ()
  askDrift (.base (.credsDelete vm.id))
  let _closed : Nat ← askDrift (.closePowerPeriod vm.id)
  askDrift (.base (.vmsSoftDelete vm.id))
  let _direct : Nat ← askDrift (.vmsDeleteDirectAccess vm.id)
  let _grouped : Nat ← askDrift (.vmsDeleteGroupAccess vm.id)

def decommissionDriftVm (findingId : FindingId) (actor : DriftActor) (now : Time) :
    DriftTask Unit := do
  let finding ← activeFinding findingId
  let vmId ← findingTarget finding .deleted "Decommission applies only to deleted-VM findings"
  let vm ← requireVm vmId "VM record not found"
  assertNoActiveJob vm.id
  verifyAbsent vm
  dropRecord vm
  settleFinding finding actor now

/-! ## Adoption -/

/-- `String(detail.field ?? "")`. -/
def detailField (detail : Detail) : String :=
  match detail.lookup "field" with
  | none => ""
  | some .null => ""
  | some value => value.toText

def requireLive (vm : VmRow) : DriftTask DriftLiveResource := do
  askDrift (.base .getProxmoxClient)
  let raw : List ProxmoxQemuResource ← askDrift .clusterResources
  Prog.orRaise (findLive (findableResources raw) vm.vmid)
    (.app (AppError.conflict "The guest is no longer present in Proxmox; the finding is stale"))

def adoptName (vm : VmRow) (lr : DriftLiveResource) : DriftTask Unit :=
  match presentText lr.name with
  | none =>
      throwDrift (AppError.conflict
        "Proxmox reports no name for this guest; there is nothing to adopt")
  | some liveName =>
      if liveName.toLower ≠ vm.name.toLower then
        askDrift (.vmsUpdateName vm.id liveName)
      else
        pure ()

def adoptNode (vm : VmRow) (lr : DriftLiveResource) : DriftTask Unit :=
  if lr.node ≠ vm.node then askDrift (.vmsUpdateNode vm.id lr.node) else pure ()

def adoptHardware (vm : VmRow) (lr : DriftLiveResource) (time : Time) : DriftTask Unit := do
  let cfg : HardwareConfig ← askDrift (.qemuConfig lr.node vm.vmid)
  let wrote ← bumpHardwareSnapshot vm.id cfg time
  if wrote then
    pure ()
  else
    throwDrift (AppError.conflict
      ("Proxmox reported an incomplete hardware configuration for this guest; refusing to " ++
        "record it as the baseline"))

def adoptLive (finding : DriftFindingRow) (vm : VmRow) (lr : DriftLiveResource) (time : Time) :
    DriftTask Unit :=
  if finding.dimension = .config then
    let field := detailField finding.detail
    if field = "name" then
      adoptName vm lr
    else if field = "node" then
      adoptNode vm lr
    else
      throwDrift (AppError.validation s!"Unknown config drift field \"{field}\"")
  else
    adoptHardware vm lr time

def adoptDriftFinding (findingId : FindingId) (actor : DriftActor) (now : Time) :
    DriftTask Unit := do
  let finding ← activeFinding findingId
  let vmId ← Prog.orRaise finding.vmId (.app (AppError.conflict "Finding has no VM target"))
  if finding.dimension ≠ .config ∧ finding.dimension ≠ .hw then
    throwDrift (AppError.conflict "Adopt applies to config and hardware findings")
  else do
    let vm ← requireVm vmId "VM not found"
    assertNoActiveJob vm.id
    let lr ← requireLive vm
    adoptLive finding vm lr now
    settleFinding finding actor now

/-! ## Address re-sync -/

def liveNode (vm : VmRow) : DriftTask String :=
  Prog.tryCatch (do
    let raw : List ProxmoxQemuResource ← askDrift .clusterResources
    pure (((findLive (findableResources raw) vm.vmid).map DriftLiveResource.node).getD vm.node))
    fun _ => pure vm.node

def agentIp (vm : VmRow) : DriftTask String := do
  askDrift (.base .getProxmoxClient)
  let node ← liveNode vm
  let agent : Option AgentInfo ← askDrift (.base (.proxmoxGuestIpAddresses node vm.vmid))
  match agent with
  | none =>
      throwDrift (AppError.external "Guest"
        "Guest agent is not reachable; cannot re-sync the IP (stopping nothing, changing nothing)")
  | some info =>
      Prog.orRaise (presentText (selectUsableIpv4 info.ipv4s)) (.app (AppError.external "Guest"
        "The guest agent reported no usable IPv4 address; nothing to re-sync"))

def writeIp (vm : VmRow) (ip : String) : DriftTask Unit := do
  askDrift (.base (.vmsUpdateIp vm.id ip vm.ipStatic))
  let connections : List ConnectionRecord ← askDrift (.base (.guacListConnectionRecords vm.id))
  if connections = [] then
    pure ()
  else do
    askDrift (.base .getGuacDb)
    let _updated : Nat ← askDrift (.guacUpdateConnectionHostname vm.id ip)

def resyncDriftIp (findingId : FindingId) (actor : DriftActor) (now : Time) : DriftTask Unit := do
  let finding ← activeFinding findingId
  let vmId ← findingTarget finding .ip "IP re-sync applies only to IP findings"
  let vm ← requireVm vmId "VM not found"
  assertNoActiveJob vm.id
  if vm.ipStatic then
    throwDrift (AppError.conflict
      ("This VM has a statically assigned address; re-syncing would overwrite the operator's " ++
        "assignment"))
  else do
    let ip ← agentIp vm
    if vm.ipAddress = some ip then
      settleFinding finding actor now
    else do
      writeIp vm ip
      settleFinding finding actor now

/-! ## Orphaned connections -/

def assertVmGone (vmId : Option VmId) : DriftTask Unit :=
  match vmId with
  | none => pure ()
  | some id => do
      let vm : Option VmRow ← askDrift (.base (.vmsFindById id))
      if vm.isSome then
        throwDrift (AppError.conflict
          ("The VM record is live again; this orphan finding is stale (auto-resolves on the " ++
            "next pass)"))
      else
        pure ()

def orphanTarget (finding : DriftFindingRow) : DriftTask ConnectionId :=
  if finding.dimension = .guac then
    Prog.orRaise finding.connectionId
      (.app (AppError.conflict "Orphan deletion applies only to Guacamole orphan findings"))
  else
    throwDrift (AppError.conflict "Orphan deletion applies only to Guacamole orphan findings")

def deleteOrphanDriftConnection (findingId : FindingId) (actor : DriftActor) (now : Time) :
    DriftTask Unit := do
  let finding ← activeFinding findingId
  let connectionId ← orphanTarget finding
  assertVmGone finding.vmId
  askDrift (.base .getGuacDb)
  let deleted : Bool ← askDrift (.guacDeleteConnectionRecord connectionId)
  if deleted then
    settleFinding finding actor now
  else
    throwDrift (AppError.notFound "Connection record already removed (auto-resolves on the next pass)")

/-! ## Acknowledgement -/

def acknowledgeDriftFinding (findingId : FindingId) (actor : DriftActor) (now : Time) :
    DriftTask Unit := do
  let finding ← activeFinding findingId
  if finding.status = .acknowledged then
    pure ()
  else do
    askDrift (.acknowledgeFinding finding.id actor.userId now)
    auditDrift actor "DRIFT_FINDING_ACKNOWLEDGED"

inductive Remediation
  | decommission
  | adopt
  | resyncIp
  | deleteOrphan
  deriving DecidableEq, Repr

def Remediation.prog : Remediation → FindingId → DriftActor → Time → DriftTask Unit
  | .decommission => decommissionDriftVm
  | .adopt => adoptDriftFinding
  | .resyncIp => resyncDriftIp
  | .deleteOrphan => deleteOrphanDriftConnection

end ProxVM
