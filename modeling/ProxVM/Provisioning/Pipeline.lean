import Mathlib.Data.List.Infix
import ProxVM.Provisioning.Calls
import ProxVM.Provisioning.GuestConfig

/-!
# The provisioning pipeline

`provisioning/pipeline.ts`: `runProvisioningJob` and the
`StepRunner` whose methods are the eleven steps.

A run re-authorizes the job's creator, then walks through the steps in order and
skips those recorded as completed.  `StepRunner.run` records a step `RUNNING`,
runs its body and records how it ended.  A body that waits for the guest throws
`RescheduleError`, which ends the run with `RESCHEDULE`; any other failure ends it
with `FAILED`.

The methods of `StepRunner` change its `SharedState`; here they return the changed
state.  A failed body changes nothing that is read afterwards.
-/

namespace ProxVM

open Interaction

def maxWaitAttempts : Nat := 30

def waitRecheckDelayMs : Nat := 30000

inductive RunOutcome
  | completed
  | reschedule
  | failed
  | skipped
  deriving DecidableEq, Repr

/-- `STEP_STATUS`: the job status while a step runs. -/
def stepStatus : JobStep → JobStatus
  | .validateProxmoxResources => .creating
  | .cloneTemplate => .creating
  | .configureVm => .provisioning
  | .configureGuestProvisioning => .provisioning
  | .startVm => .configuring
  | .waitForGuest => .waitingForGuest
  | .discoverIp => .waitingForGuest
  | .verifyGuest => .verifying
  | .verifyCredentials => .verifying
  | .createGuacamoleConnection => .guacamoleCreating
  | .verifyGuacamole => .guacamoleCreating

/-- `jobAuditActor`: the human behind a job. -/
def jobAuditActor (jobId : JobId) : Task AuditActor := do
  let job : JobRow ← ask (.jobsRequire jobId)
  match job.createdByUserId with
  | none => pure ⟨none, none⟩
  | some id =>
      let creator : Option UserWithRoles ← ask (.usersFindById id)
      pure ⟨some id, creator.map fun u => u.row.username⟩

/-- `countProvisionLoad`: two counts, one after the other. -/
def countProvisionLoad (user : UserId) : Task Nat := do
  let vms : Nat ← ask (.countUserVms user)
  let jobs : Nat ← ask (.countActiveProvisioningJobs user)
  pure (vms + jobs)

def waitForTask (node upid : String) : Task Unit := do
  let exit : TaskExit ← ask (.proxmoxTaskExit node upid)
  match exit with
  | .ok => pure ()
  | .failed exitstatus =>
      .raise (.other ("Proxmox task " ++ upid ++ " failed with exitstatus " ++ exitstatus))

/-- `if (upid) await proxmox.waitForTask(…)`. -/
def waitForTaskIfAny (node upid : String) : Task Unit :=
  if upid = "" then pure () else waitForTask node upid

/-- `resolutionNode`: the configured default node, else the first of the cluster. -/
def resolutionNode : Task String := do
  let default : Option String ← ask .settingsDefaultNode
  match default.filter fun n => n ≠ "" with
  | some node => pure node
  | none =>
      ask .getProxmoxClient
      let nodes : List String ← ask .proxmoxNodes
      pure (nodes.headD "")

/-- `text.includes(sub)`. -/
def includes (text sub : String) : Bool := decide (sub.toList <:+: text.toList)

def external (service message : String) : Failure := .app (AppError.external service message)

def validation (message : String) : Failure := .app (AppError.validation message)

/-- A `PROVISIONING_ERROR` with status 504. -/
def provisioningTimeout (message : String) : Failure :=
  .app { code := .provisioningError, message, statusCode := 504 }

/-! ## The runner -/

/-- The readonly fields of `StepRunner`. -/
structure StepRunner where
  jobId : JobId
  request : ProvisionRequest
  attempt : Nat

/-- The fields of `StepRunner` that change: `shared`, the resolved template and the
cached audit actor. -/
structure SharedState where
  template : Option TemplateRow
  actor : Option AuditActor
  templateId : Option TemplateId
  node : String
  vmid : Nat
  vmRecId : Option VmId
  ip : Option String
  osType : OsType
  protocols : List Protocol

namespace StepRunner

/-- What the constructor puts into `shared`. -/
def initial (k : StepRunner) : SharedState :=
  { template := none, actor := none, templateId := k.request.templateId,
    node := k.request.node.getD "", vmid := k.request.vmid.getD 0, vmRecId := none, ip := none,
    osType := k.request.osType,
    protocols := resolveProtocols k.request.protocols k.request.osType none }

def restoreTemplate (k : StepRunner) (r : SharedState) (t : TemplateRow) : SharedState :=
  { r with
    template := some t
    templateId := some t.id
    osType := t.osType
    protocols :=
      resolveProtocols k.request.protocols k.request.osType (some t.supportedProtocols) }

/-- `stepActor`: asked once per run. -/
def stepActor (k : StepRunner) (r : SharedState) : Task (AuditActor × SharedState) :=
  match r.actor with
  | some actor => pure (actor, r)
  | none => do
      let actor ← jobAuditActor k.jobId
      pure (actor, { r with actor := some actor })

def audit (k : StepRunner) (r : SharedState) (event : String) (vmId : Option VmId) :
    Task SharedState := do
  let (actor, r) ← k.stepActor r
  ask (.auditRecord { event, actor, jobId := some k.jobId, vmId })
  pure r

def run (k : StepRunner) (r : SharedState) (step : JobStep) (fn : SharedState → Task SharedState) :
    Task SharedState := do
  let status := stepStatus step
  ask (.jobsUpdateStatus k.jobId status none)
  ask (.jobsSetStep k.jobId step .running none)
  ask (.publishProgress k.jobId
    { vmId := r.vmRecId, status, step := some step, error := none, progress := 0,
      message := "Running " ++ step.text })
  Prog.tryCatch
    (do
      let r' ← fn r
      ask (.jobsSetStep k.jobId step .succeeded none)
      ask (.publishProgress k.jobId
        { vmId := r'.vmRecId, status, step := some step, error := none, progress := 100,
          message := step.text ++ " succeeded" })
      pure r')
    fun e => do
      ask (.jobsSetStep k.jobId step .failed (some e.message))
      .raise e

/-! ## The steps -/

/-- `request.node ?? await resolutionNode(deps)`. -/
def templateNode (request : ProvisionRequest) : Task String :=
  match request.node with
  | some node => pure node
  | none => resolutionNode

def requestedTemplate (request : ProvisionRequest) (byId : TemplateId → Task (Option TemplateRow)) :
    Task (Option TemplateRow) :=
  match request.templateId with
  | some id => byId id
  | none =>
      match request.proxmoxTemplateVmid.filter fun n => n ≠ 0 with
      | none => pure none
      | some vmid => do
          let node ← templateNode request
          ask (.templatesFindByProxmoxId node vmid)

def ensureProvisionable (t : TemplateRow) : Task Unit :=
  match t.osType with
  | .linux =>
      if t.provisioningMethod = .cloudInit then
        pure ()
      else
        .raise (validation ("Linux template \"" ++ t.name ++ "\" uses provisioning method \"" ++
          t.provisioningMethod.text ++
          "\". Only \"cloud-init\" is supported for automated Linux provisioning."))
  | .windows =>
      if t.provisioningMethod = .cloudbaseInit ∧ t.cloudInitSupport = true then
        pure ()
      else
        throwApp
          { code := .notImplemented
            message := "Windows template \"" ++ t.name ++ "\" (provisioning: " ++
              t.provisioningMethod.text ++ ", cloud-init: " ++
              (if t.cloudInitSupport then "yes" else "no") ++
              ") does not support automated guest provisioning. Only Windows templates prepared " ++
              "with Cloudbase-Init on the Proxmox cloud-init drive can be provisioned automatically."
            statusCode := 501 }

def templateNotRegistered : Failure :=
  validation ("Template must be registered in ProxVM before it can be used for provisioning. " ++
    "Register it on the Templates page.")

def hasBridge (node bridge : String) : Task Bool :=
  if bridge = "" then
    pure true
  else do
    let networks : List String ← ask (.proxmoxNetworks node)
    pure (decide (bridge ∈ networks))

def validateResources (k : StepRunner) (r : SharedState) : Task SharedState := do
  ask .getProxmoxClient
  let found ← requestedTemplate k.request fun id => do
    let t : TemplateRow ← ask (.templatesRequireById id)
    pure (some t)
  let t ← Prog.orRaise found templateNotRegistered
  ensureProvisionable t
  let node := k.request.node.getD r.node
  let nodes : List String ← ask .proxmoxNodes
  if node ∉ nodes then
    .raise (validation ("Proxmox node \"" ++ node ++ "\" does not exist"))
  else
  let resources : List ClusterResource ← ask .proxmoxClusterResources
  let resource ← Prog.orRaise
    (resources.find? fun c => decide (c.vmid = t.proxmoxVmid) && decide (c.node = t.node))
    (external "Proxmox" ("Template " ++ t.name ++ " (vmid " ++ toString t.proxmoxVmid ++
      ") no longer exists on node " ++ t.node))
  if resource.template = false then
    .raise (validation ("VM " ++ toString t.proxmoxVmid ++ " (\"" ++ resource.name ++
      "\") exists on node " ++ t.node ++ " but is not a template. Convert it to a template or " ++
      "register a different VM."))
  else
  let storages : List StorageInfo ← ask (.proxmoxStorages node)
  let storage ← Prog.orRaise (storages.find? fun s => decide (s.storage = k.request.storage))
    (external "Proxmox" ("Storage \"" ++ k.request.storage ++ "\" not found on node " ++ node))
  if includes storage.content "images" = false then
    .raise (external "Proxmox" ("Storage \"" ++ k.request.storage ++
      "\" cannot hold VM images (content=" ++
      (if storage.content = "" then "none" else storage.content) ++ ")"))
  else
  let bridge := k.request.network.bridge
  let bridgeKnown ← hasBridge node bridge
  if bridgeKnown = false then
    .raise (external "Proxmox" ("Network bridge \"" ++ bridge ++ "\" not found on node " ++ node))
  else
  pure { k.restoreTemplate r t with node }

def advanceVmid (busy : Nat → Bool) : Nat → Nat → Option Nat
  | 0, _ => none
  | fuel + 1, vmid => if busy vmid then advanceVmid busy fuel (vmid + 1) else some vmid

/-- The VMID of the new guest: the requested one, or the next free one that no row
and no guest occupies. -/
def chooseVmid (k : StepRunner) (r : SharedState) : Task Nat :=
  match k.request.vmid.filter fun n => n ≠ 0 with
  | some vmid => pure vmid
  | none => do
      let next : Nat ← ask .proxmoxNextId
      let taken : List Nat ← ask (.vmsListVmidsByNode r.node)
      if next ∈ taken then do
        let resources : List ClusterResource ← ask .proxmoxClusterResources
        let used := resources.map ClusterResource.vmid
        Prog.orRaise (advanceVmid (fun v => decide (v ∈ taken) || decide (v ∈ used)) 1000 next)
          (.app (AppError.conflict
            ("No free VM ID found on node " ++ r.node ++ " after 1000 attempts.")))
      else
        pure next

/-- `VmsRepository.findOrCreate`. -/
def findOrCreateVm (input : CreateVmInput) : Task VmRow := do
  let existing : Option VmRow ← ask (.vmsFindByIdKey input.vmid input.node)
  match existing with
  | some vm => pure vm
  | none => ask (.vmsCreate input)

def cloneTemplate (createdByUserId : Option UserId) (k : StepRunner) (r : SharedState) :
    Task SharedState := do
  ask .getProxmoxClient
  let t ← Prog.orRaise r.template (validation "Template not resolved")
  let vmid ← k.chooseVmid r
  let existing : Option VmRow ← ask (.vmsFindByIdKey vmid r.node)
  if existing.isSome then
    throwApp (AppError.conflict ("VM ID " ++ toString vmid ++ " on node " ++ r.node ++
      " is already tracked. Choose a different VM ID."))
  else
  let full := !k.request.linkedClone
  let upid : String ← ask (.proxmoxClone
    { node := t.node, templateVmid := t.proxmoxVmid, newVmid := vmid, name := k.request.name, full,
      storage := if full then some k.request.storage else none
      target := if full then some r.node else none })
  waitForTask t.node upid
  let vm ← findOrCreateVm
    { vmid, node := r.node, name := k.request.name, status := .pending, osType := some r.osType,
      createdByUserId, templateId := r.templateId }
  ask (.jobsSetVmId k.jobId vm.id)
  ask (.jobsUpdateStatus k.jobId .creating none)
  pure { r with vmid, vmRecId := some vm.id }

def configureVm (k : StepRunner) (r : SharedState) : Task SharedState := do
  ask .getProxmoxClient
  let cfg : VmConfig ← ask (.proxmoxQemuConfig r.node r.vmid)
  let base : VmConfig :=
    [("memory", toString k.request.ramMb), ("cores", toString k.request.cpu), ("sockets", "1"),
      ("agent", "enabled=1,fstrim_cloned_disks=1")]
  let net : VmConfig :=
    match netIndex cfg with
    | none => []
    | some key =>
        let parsed := parseNet ((cfg.lookup key).getD "")
        [(key, buildNet parsed.model parsed.macaddr k.request.network.bridge k.request.network.vlan
          (extraNetOptions (cfg.lookup key) parsed.model))]
  let upid : String ← ask (.proxmoxUpdateConfig r.node r.vmid (base ++ net))
  waitForTaskIfAny r.node upid
  match rootDisk cfg with
  | none => pure r
  | some disk =>
      match diskSizeOf ((cfg.lookup disk).getD "") with
      | none => pure r
      | some bytes =>
          if bytes < k.request.diskGb * 1024 ^ 3 then do
            let upid : String ← ask (.proxmoxResizeDisk r.node r.vmid disk k.request.diskGb)
            waitForTaskIfAny r.node upid
            pure r
          else
            pure r

/-- The `ipconfig0` value of a request. -/
def ipConfig (network : NetworkRequest) : Task String :=
  if network.isStatic then
    match network.ip, network.gateway with
    | some ip, some gateway =>
        pure ("ip=" ++ ip ++ "/" ++ toString (network.cidr.getD 24) ++ ",gw=" ++ gateway)
    | _, _ => .raise (validation "Static networking requires both IP and gateway")
  else
    pure "ip=dhcp"

def configureGuestProvisioning (k : StepRunner) (r : SharedState) : Task SharedState := do
  ask .getProxmoxClient
  let cfg : VmConfig ← ask (.proxmoxQemuConfig r.node r.vmid)
  if (cfg.find? fun entry => includes entry.2 "cloudinit").isNone then
    .raise (external "Proxmox" ("Template must include a cloud-init drive. Current config has no " ++
      "\"cloudinit\" drive."))
  else
  let network := k.request.network
  let ipconfig0 ← ipConfig network
  let nameserver : VmConfig :=
    if network.isStatic ∧ network.dns ≠ [] then
      [("nameserver", " ".intercalate network.dns)]
    else
      []
  ask (.proxmoxSetCloudInit r.node r.vmid
    ([("ciuser", k.request.guestUser), ("cipassword", k.request.password), ("ipconfig0", ipconfig0),
      ("ciupgrade", "0")] ++ nameserver))
  ask (.credsStore r.vmRecId k.request.guestUser k.request.password .provisioned)
  k.audit r "PASSWORD_CREATED" r.vmRecId

def startVm (k : StepRunner) (r : SharedState) : Task SharedState := do
  ask .getProxmoxClient
  if k.request.startAfterProvision = false then
    pure r
  else
  let upid : String ← ask (.proxmoxStart r.node r.vmid)
  waitForTaskIfAny r.node upid
  let status : String ← ask (.proxmoxQemuStatus r.node r.vmid)
  if status ≠ "running" then
    .raise (external "Proxmox" ("VM did not reach running state (status=" ++ status ++ ")"))
  else
  match r.vmRecId with
  | none => pure r
  | some id =>
      ask (.vmsUpdateStatus id .running)
      pure r

/-- What a wait that found nothing throws: a `RescheduleError`, or `message` once
the attempts are used up. -/
def waitFailure (attempt : Nat) (message : String) : Failure :=
  if maxWaitAttempts ≤ attempt then
    provisioningTimeout message
  else
    .reschedule "WAITING FOR GUEST IP"

def waitForGuest (k : StepRunner) (r : SharedState) : Task SharedState := do
  ask .getProxmoxClient
  if k.request.startAfterProvision = false then
    pure r
  else
  let ready : Bool ← ask (.proxmoxWaitForGuestAgent r.node r.vmid)
  if ready then
    pure r
  else
    .raise (waitFailure k.attempt
      (if (r.template.map TemplateRow.guestAgentRequired).getD false then
        "Guest agent never became available. Ensure qemu-guest-agent is installed in the " ++
          "template and the VM boots correctly."
      else
        "VM did not boot to a reachable state within the allowed time."))

def osLabel (r : SharedState) (agent : AgentInfo) : Task (Option String) :=
  match agent.osType with
  | some label => pure (some label)
  | none => do
      let info : Option (Option String) ← ask (.proxmoxAgentOsInfo r.node r.vmid)
      pure (info.bind fun label => label)

def recordOsLabel (r : SharedState) (agent : AgentInfo) : Task Unit :=
  match r.vmRecId with
  | none => pure ()
  | some id => do
      let label ← osLabel r agent
      match label with
      | none => pure ()
      | some label => ask (.vmsUpdateOsInfo id (some label))

def agentAddress (r : SharedState) : Task (Option String) := do
  let agent : Option AgentInfo ← ask (.proxmoxGuestIpAddresses r.node r.vmid)
  match agent with
  | none => pure none
  | some agent =>
      recordOsLabel r agent
      pure (selectUsableIpv4 agent.ipv4s)

def recordAddress (r : SharedState) (ip : String) (ipStatic : Bool) : Task SharedState :=
  match r.vmRecId with
  | none => pure { r with ip := some ip }
  | some id => do
      Prog.tryCatch (ask (.vmsUpdateIp id ip ipStatic)) fun e =>
        match e with
        | .uniqueViolation _ =>
            .raise (validation ("IP address " ++ ip ++
              " was allocated to another VM while provisioning (source: " ++
              (if ipStatic then "static_config" else "guest_agent") ++ ")"))
        | e => .raise e
      pure { r with ip := some ip }

def discoverIp (k : StepRunner) (r : SharedState) : Task SharedState := do
  ask .getProxmoxClient
  let static := if k.request.network.isStatic then k.request.network.ip else none
  let discovered ← (if k.request.startAfterProvision then agentAddress r else pure none)
  match discovered, static with
  | some ip, _ => recordAddress r ip false
  | none, some ip => recordAddress r ip true
  | none, none =>
      .raise (waitFailure k.attempt
        ("IP address could not be discovered. The guest agent reported no usable IPv4 address " ++
          "and no static address was configured."))

def sshTarget (k : StepRunner) (r : SharedState) : SshTarget :=
  { host := r.ip, port := 22, username := k.request.guestUser, password := k.request.password }

def probePort (r : SharedState) (mechanism : VerifyMechanism) : Task Unit := do
  let port := portForVerifyMechanism mechanism
  let reachable : Bool ← ask (.probeTcp r.ip port)
  if reachable then
    pure ()
  else
    .raise (external "Guest" ("Guest port " ++ toString port ++ " is not reachable on " ++ r.ip.getD "null"))

def verifyGuest (k : StepRunner) (r : SharedState) : Task SharedState :=
  match selectVerifyMechanism r.protocols r.osType with
  | .ssh => do
      let result : SshResult ← ask (.probeSsh (k.sshTarget r))
      if result.authenticated then
        pure r
      else
        .raise (external "SSH" ("Guest is reachable at " ++ r.ip.getD "null" ++
          " but credentials were rejected: " ++ result.detail))
  | mechanism => do
      probePort r mechanism
      pure r

def verifyCredentials (k : StepRunner) (r : SharedState) : Task SharedState :=
  match selectVerifyMechanism r.protocols r.osType with
  | .ssh => do
      let result : SshResult ← ask (.probeSsh (k.sshTarget r))
      if result.authenticated then
        ask (.credsSetStatus r.vmRecId .verified)
        k.audit r "PASSWORD_VERIFIED" r.vmRecId
      else
        ask (.credsSetStatus r.vmRecId .failed)
        .raise (external "SSH" ("Credential verification failed for " ++ r.ip.getD "null" ++ ": " ++
          result.detail))
  | mechanism => do
      probePort r mechanism
      ask (.credsSetStatus r.vmRecId .provisioned)
      pure r

/-- `vms.requireById(this.shared.vmRecId)`. -/
def requireVm (r : SharedState) : Task VmRow :=
  match r.vmRecId with
  | none => throwApp (AppError.notFound "VM not found")
  | some id => do
      let vm : Option VmRow ← ask (.vmsFindById id)
      Prog.orRaise vm (.app (AppError.notFound "VM not found"))

def grantAccess (vm : VmRow) (user : UserWithRoles) : Task Unit := do
  ask (.guacEnsureUser user.row.id user.row.username)
  ask (.guacGrantVmAccess vm.id user.row.id)
  ask (.vmsSetAccess vm.id user.row.id)

def assignUser (vm : VmRow) (k : StepRunner) (r : SharedState) (userId : UserId) :
    Task SharedState := do
  let user : Option UserWithRoles ← ask (.usersFindById userId)
  match user with
  | none => pure r
  | some user =>
      grantAccess vm user
      k.audit r "VM_ACCESS_GRANTED" (some vm.id)

def assignCreator (vm : VmRow) (k : StepRunner) : Task Unit :=
  match k.request.assignToUserIds, vm.createdByUserId with
  | [], some creatorId => do
      let creator : Option UserWithRoles ← ask (.usersFindById creatorId)
      match creator with
      | none => pure ()
      | some creator =>
          if creator.roles.any fun role => decide (role ≠ .user) then
            grantAccess vm creator
          else
            pure ()
  | _, _ => pure ()

def createGuacamoleConnection (k : StepRunner) (r : SharedState) : Task SharedState := do
  ask .getGuacDb
  let vm ← requireVm r
  r.protocols.forM fun protocol => do
    let _ : String ← ask (.guacUpsertConnection
      { vmId := vm.id, vmName := vm.name, protocol, hostname := r.ip, port := portForProtocol protocol
        username := k.request.guestUser, password := k.request.password
        connectionName :=
          if 1 < r.protocols.length then
            some ("proxvm-" ++ vm.name ++ "-" ++
              (match protocol with | .ssh => "ssh" | .rdp => "rdp" | .vnc => "vnc"))
          else
            none })
    pure ()
  let r ← k.request.assignToUserIds.foldlM (assignUser vm k) r
  assignCreator vm k
  k.audit r "GUAC_CONNECTION_CREATED" (some vm.id)

def verifyGuacamole (r : SharedState) : Task SharedState := do
  ask .getGuacDb
  let vm ← requireVm r
  let records : List ConnectionRecord ← ask (.guacListConnectionRecords vm.id)
  if records = [] then
    .raise (external "Guacamole" "Connection record missing")
  else
  records.forM fun record => do
    let check : ConnectionCheck ← ask (.guacVerifyConnection record)
    if check.ok then
      ask (.guacSetConnectionStatus record.id true)
    else
      ask (.guacSetConnectionStatus record.id false)
      .raise (external "Guacamole" ("Guacamole verification failed (" ++ record.protocol ++ "): " ++
        check.detail))
  pure r

def body (createdByUserId : Option UserId) (k : StepRunner) :
    JobStep → SharedState → Task SharedState
  | .validateProxmoxResources => k.validateResources
  | .cloneTemplate => cloneTemplate createdByUserId k
  | .configureVm => k.configureVm
  | .configureGuestProvisioning => k.configureGuestProvisioning
  | .startVm => k.startVm
  | .waitForGuest => k.waitForGuest
  | .discoverIp => k.discoverIp
  | .verifyGuest => k.verifyGuest
  | .verifyCredentials => k.verifyCredentials
  | .createGuacamoleConnection => k.createGuacamoleConnection
  | .verifyGuacamole => verifyGuacamole

/-- What a run does about a step that is completed already: after `DISCOVER_IP` the
recorded address is read back. -/
def skip (r : SharedState) : JobStep → Task SharedState
  | .discoverIp =>
      match r.vmRecId with
      | none => pure r
      | some id => do
          let vm : Option VmRow ← ask (.vmsFindById id)
          pure { r with ip := (vm.bind VmRow.ipAddress) <|> r.ip }
  | _ => pure r

/-- `if (!completed.has(step)) await stepRunner.run(step, …)`. -/
def runUnlessCompleted (completed : List JobStep) (createdByUserId : Option UserId)
    (k : StepRunner) (r : SharedState) (step : JobStep) : Task SharedState :=
  if step ∈ completed then skip r step else k.run r step (body createdByUserId k step)

end StepRunner

/-! ## The run -/

structure ExecutionCheck where
  policyAdmin : Bool
  rejection : Option String
  deriving DecidableEq, Repr

/-- `quota !== null && (await countProvisionLoad(…)) > quota`. -/
def isOverQuota (user : UserId) (quota : Option Nat) : Task Bool :=
  match quota with
  | none => pure false
  | some q => do
      let load ← countProvisionLoad user
      pure (decide (q < load))

/-- The re-authorization of a job's creator: active and allowed to provision, not
over quota, and holding `vm.edit` if the request assigns access. -/
def authorizeExecution (job : JobRow) (creatorId : UserId) : Task ExecutionCheck := do
  let creator : Option UserWithRoles ← ask (.usersFindById creatorId)
  let effective : EffectiveAccess ← ask (.resolveEffectiveAccess creatorId)
  let may := fun permission => match creator with
    | none => false
    | some c => c.row.active && (hasPermission c permission || effective.has permission)
  let policyAdmin := match creator with
    | none => false
    | some c => isAdmin c || decide ("ADMIN" ∈ effective.roles)
  let quota : Option Nat ← ask (.getUserQuota creatorId)
  let overQuota ← isOverQuota creatorId quota
  let staleAssigns := !job.request.assignToUserIds.isEmpty && !may .vmEdit
  let rejection :=
    if may .vmCreate = false then
      some "creator no longer authorized to provision"
    else if overQuota then
      some ("quota exceeded (limit " ++ toString (quota.getD 0) ++ ")")
    else if staleAssigns then
      some "creator no longer holds vm.edit for delegated access grants"
    else
      none
  pure { policyAdmin, rejection }

def rejectExecution (jobId : JobId) (job : JobRow) (reason : String) : Task RunOutcome := do
  ask (.jobsUpdateStatus jobId .failed (some reason))
  ask (.auditRecord
    { event := "PROVISIONING_FAILED", actor := ⟨job.createdByUserId, none⟩, jobId := some jobId,
      vmId := job.vmId })
  pure .failed

/-- The runner of a job that may have been worked on before: what an earlier attempt
recorded on the VM row is taken over. -/
def resumeRunner (job : JobRow) (k : StepRunner) : Task SharedState :=
  match job.vmId with
  | none => pure k.initial
  | some id => do
      let existingVm : Option VmRow ← ask (.vmsFindById id)
      match existingVm with
      | none => pure k.initial
      | some vm =>
          let r := { k.initial with
            vmRecId := some vm.id, vmid := vm.vmid, node := vm.node, ip := vm.ipAddress }
          match vm.templateId with
          | none => pure r
          | some templateId => do
              let tmpl : Option TemplateRow ← ask (.templatesFindById templateId)
              pure (match tmpl with
                | some t => k.restoreTemplate r t
                | none => r)

/-- Re-resolve the template that an earlier attempt validated without getting as far
as a VM row. -/
def recoverTemplate (completed : List JobStep) (k : StepRunner) (r : SharedState) :
    Task SharedState :=
  if r.template.isNone ∧ JobStep.validateProxmoxResources ∈ completed then do
    let tmpl ← StepRunner.requestedTemplate k.request fun id => ask (.templatesFindById id)
    let t ← Prog.orRaise tmpl StepRunner.templateNotRegistered
    pure (k.restoreTemplate r t)
  else
    pure r

def settleVm (k : StepRunner) (r : SharedState) : Task Unit :=
  match r.vmRecId with
  | none => pure ()
  | some id => do
      ask (.vmsUpdateStatus id (if k.request.startAfterProvision then .running else .stopped))
      ask (.credsMarkVerified id)

def completeRun (actor : AuditActor) (k : StepRunner) (r : SharedState) : Task RunOutcome := do
  ask (.jobsUpdateStatus k.jobId .ready none)
  settleVm k r
  ask (.publishProgress k.jobId
    { vmId := r.vmRecId, status := .ready, step := none, error := none, progress := 100,
      message := "VM is ready" })
  ask (.auditRecord { event := "VM_CREATED", actor, jobId := some k.jobId, vmId := r.vmRecId })
  pure .completed

def checkPolicy (job : JobRow) (policyAdmin : Bool) (k : StepRunner) : Task Unit :=
  if policyAdmin then
    pure ()
  else
    ask (.validateProvisionPolicy
      ⟨k.request.cpu, k.request.ramMb, k.request.diskGb, k.request.network⟩ job.vmId)

/-- The `try` block of a run: policy, template recovery, the steps, the end. -/
def runSteps (job : JobRow) (policyAdmin : Bool) (completed : List JobStep) (actor : AuditActor)
    (k : StepRunner) (r : SharedState) : Task RunOutcome := do
  checkPolicy job policyAdmin k
  let r ← recoverTemplate completed k r
  let r ← JobStep.all.foldlM (StepRunner.runUnlessCompleted completed job.createdByUserId k) r
  completeRun actor k r

/-- The `catch` block of a run. -/
def failRun (jobId : JobId) (job : JobRow) (actor : AuditActor) : Failure → Task RunOutcome
  | .reschedule message => do
      ask (.publishProgress jobId
        { vmId := job.vmId, status := .waitingForGuest, step := none, error := none, progress := 55,
          message })
      pure .reschedule
  | e => do
      ask (.jobsUpdateStatus jobId .failed (some e.message))
      ask (.publishProgress jobId
        { vmId := job.vmId, status := .failed, step := none, error := some e.message,
          progress := 100, message := "Provisioning failed: " ++ e.message })
      ask (.auditRecord { event := "PROVISIONING_FAILED", actor, jobId := some jobId, vmId := job.vmId })
      pure .failed

def decryptPassword (stored : String) : Task String :=
  if stored = "" then pure "" else ask (.decrypt stored)

def executeJob (jobId : JobId) (attempt : Nat) (job : JobRow) (policyAdmin : Bool) :
    Task RunOutcome := do
  let actor ← jobAuditActor jobId
  let password ← decryptPassword job.request.password
  let k : StepRunner := ⟨jobId, { job.request with password }, attempt⟩
  let completed : List JobStep ← ask (.jobsCompletedSteps jobId)
  ask (.jobsUpdateStatus jobId .provisioning none)
  ask (.auditRecord
    { event := "PROVISIONING_STARTED", actor, jobId := some jobId, vmId := job.vmId })
  let r ← resumeRunner job k
  Prog.tryCatch (runSteps job policyAdmin completed actor k r) (failRun jobId job actor)

def runOpenJob (jobId : JobId) (attempt : Nat) (job : JobRow) : Task RunOutcome :=
  match job.createdByUserId with
  | none =>
      rejectExecution jobId job
        "job has no creator; refusing to provision without re-authorization"
  | some creatorId => do
      let check ← authorizeExecution job creatorId
      match check.rejection with
      | some reason => rejectExecution jobId job reason
      | none => executeJob jobId attempt job check.policyAdmin

def runLoadedJob (jobId : JobId) (attempt : Nat) (job : JobRow) : Task RunOutcome :=
  match job.status with
  | .ready => pure .skipped
  | .failed => pure .failed
  | .cancelled => pure .failed
  | _ => runOpenJob jobId attempt job

def runProvisioningJob (jobId : JobId) (attempt : Nat) : Task RunOutcome := do
  let job : JobRow ← ask (.jobsRequire jobId)
  runLoadedJob jobId attempt job

end ProxVM
