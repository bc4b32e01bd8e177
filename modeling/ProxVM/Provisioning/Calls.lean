import ProxVM.Iam.Service
import ProxVM.Lib.Interaction
import ProxVM.Services.Queue

/-!
# The calls of the provisioning code

The pipeline, the queue helpers and the job and VM routes are programs in the
sense of `ProxVM.Lib.Interaction`: what they do to the outside is a sequence of
calls, each of which another party may precede and each of which may fail.  One call is one SQL statement, one
Redis command or one method of an external client; a service method that issues
several statements is a program.

Log lines are left out, and so is a step's `detail`, which is never read back.
-/

namespace ProxVM

open Interaction

/-! ## Errors -/

/-- What is thrown: an `AppError`, the pipeline's `RescheduleError`, a unique
violation (code 23505) or any other `Error`. -/
inductive Failure
  | app (e : AppError)
  | reschedule (message : String)
  | uniqueViolation (message : String)
  | other (message : String)
  deriving DecidableEq, Repr

def Failure.message : Failure → String
  | .app e => e.message
  | .reschedule message => message
  | .uniqueViolation message => message
  | .other message => message

/-! ## Payloads -/

structure AuditActor where
  actorUserId : Option UserId
  actorUsername : Option String
  deriving DecidableEq, Repr

/-- `AuditEntryInput`, without the free-form detail. -/
structure AuditEntry where
  event : String
  actor : AuditActor
  jobId : Option JobId
  vmId : Option VmId
  deriving DecidableEq, Repr

/-- `JobProgressData`. -/
structure Progress where
  vmId : Option VmId
  status : JobStatus
  step : Option JobStep
  error : Option String
  progress : Nat
  message : String
  deriving DecidableEq, Repr

structure ProvisionPolicyInput where
  cpu : Nat
  ramMb : Nat
  diskGb : Rat
  network : NetworkRequest
  deriving DecidableEq, Repr

structure CreateVmInput where
  vmid : Nat
  node : String
  name : String
  status : VmStatus
  osType : Option OsType
  createdByUserId : Option UserId
  templateId : Option TemplateId
  deriving DecidableEq, Repr

/-- An entry of Proxmox's `/cluster/resources`. -/
structure ClusterResource where
  vmid : Nat
  node : String
  name : String
  template : Bool
  deriving DecidableEq, Repr

structure StorageInfo where
  storage : String
  content : String
  deriving DecidableEq, Repr

/-- The options of `ProxmoxClient.clone`. -/
structure CloneOptions where
  node : String
  templateVmid : Nat
  newVmid : Nat
  name : String
  full : Bool
  storage : Option String
  target : Option String
  deriving DecidableEq, Repr

/-- How a Proxmox task ended: `exitstatus` absent or `OK`, or anything else. -/
inductive TaskExit
  | ok
  | failed (exitstatus : String)
  deriving DecidableEq, Repr, Inhabited

abbrev VmConfig := List (String × String)

/-- `ProxmoxAgentInfo`, the fields the pipeline reads. -/
structure AgentInfo where
  osType : Option String
  ipv4s : List String
  deriving DecidableEq, Repr

structure SshResult where
  authenticated : Bool
  detail : String
  output : Option String
  deriving DecidableEq, Repr, Inhabited

/-- The arguments of `probeSsh`. -/
structure SshTarget where
  host : Option String
  port : Nat
  username : String
  password : String
  deriving DecidableEq, Repr

/-- The arguments of `GuacamoleService.upsertConnection`. -/
structure ConnectionInput where
  vmId : VmId
  vmName : String
  protocol : Protocol
  hostname : Option String
  port : Nat
  username : String
  password : String
  connectionName : Option String
  deriving DecidableEq, Repr

/-- A row of `guacamole_connections`, as far as its verification needs it. -/
structure ConnectionRecord where
  id : Nat
  protocol : String
  deriving DecidableEq, Repr

/-- The verdict of `verifyConnection`. -/
structure ConnectionCheck where
  ok : Bool
  detail : String
  deriving DecidableEq, Repr, Inhabited

/-! ## The calls -/

inductive Call
  -- services/jobs.ts
  | jobsRequire (id : JobId)
  | jobsUpdateStatus (id : JobId) (status : JobStatus) (error : Option String)
  | jobsSetBullJobId (id : JobId) (bullJobId : BullJobId)
  | jobsSetVmId (id : JobId) (vmId : VmId)
  | jobsResetStatus (id : JobId)
  | jobsResetFailedSteps (id : JobId)
  | jobsSetStep (id : JobId) (step : JobStep) (state : StepState) (error : Option String)
  | jobsCompletedSteps (id : JobId)
  | jobsCancel (id : JobId)
  | jobsActiveWithName (createdByUserId : UserId) (name : String)
  | jobsCreate (request : ProvisionRequest) (createdByUserId : UserId)
  -- users, permissions and quotas
  | usersFindById (id : UserId)
  | usersLock (id : UserId)
  | usersUnlock (id : UserId)
  | requireAuth (id : UserId)
  | requirePermission (id : UserId) (permission : Permission)
  | resolveEffectiveAccess (id : UserId)
  | getUserQuota (id : UserId)
  | countUserVms (id : UserId)
  | countActiveProvisioningJobs (id : UserId)
  -- settings, templates and policy
  | settingsDefaultNode
  | templatesFindById (id : TemplateId)
  | templatesRequireById (id : TemplateId)
  | templatesFindByProxmoxId (node : String) (vmid : Nat)
  | validateProvisionPolicy (input : ProvisionPolicyInput) (excludeVmId : Option VmId)
  -- secrets
  | encrypt (plaintext : String)
  | decrypt (stored : String)
  | credsStore (vmId : Option VmId) (username password : String) (status : CredStatus)
  | credsSetStatus (vmId : Option VmId) (status : CredStatus)
  | credsMarkVerified (vmId : VmId)
  | credsDelete (vmId : VmId)
  -- services/vms.ts
  | vmsFindById (id : VmId)
  | vmsVisibleTo (userId : UserId) (roles : List Role) (id : VmId)
  | vmsHasAccessOrOwns (id : VmId) (userId : UserId)
  | vmsListVmidsByNode (node : String)
  | vmsFindByIdKey (vmid : Nat) (node : String)
  | vmsCreate (input : CreateVmInput)
  | vmsUpdateStatus (id : VmId) (status : VmStatus)
  | vmsUpdateIp (id : VmId) (ip : String) (ipStatic : Bool)
  | vmsUpdateOsInfo (id : VmId) (osName : Option String)
  | vmsSetAccess (id : VmId) (userId : UserId)
  | vmsSoftDelete (id : VmId)
  -- records of what happened
  | auditRecord (entry : AuditEntry)
  | publishProgress (id : JobId) (progress : Progress)
  -- proxmox/client.ts
  | getProxmoxClient
  | proxmoxNodes
  | proxmoxClusterResources
  | proxmoxStorages (node : String)
  | proxmoxNetworks (node : String)
  | proxmoxNextId
  | proxmoxClone (opts : CloneOptions)
  | proxmoxTaskExit (node upid : String)
  | proxmoxQemuConfig (node : String) (vmid : Nat)
  | proxmoxUpdateConfig (node : String) (vmid : Nat) (updates : VmConfig)
  | proxmoxResizeDisk (node : String) (vmid : Nat) (disk : String) (sizeGb : Rat)
  | proxmoxSetCloudInit (node : String) (vmid : Nat) (config : VmConfig)
  | proxmoxStart (node : String) (vmid : Nat)
  | proxmoxStop (node : String) (vmid : Nat)
  | proxmoxDelete (node : String) (vmid : Nat)
  | proxmoxQemuStatus (node : String) (vmid : Nat)
  | proxmoxWaitForGuestAgent (node : String) (vmid : Nat)
  | proxmoxGuestIpAddresses (node : String) (vmid : Nat)
  | proxmoxAgentOsInfo (node : String) (vmid : Nat)
  -- guest probes
  | probeSsh (target : SshTarget)
  | probeTcp (host : Option String) (port : Nat)
  -- services/guacamole.ts
  | getGuacDb
  | guacUpsertConnection (input : ConnectionInput)
  | guacEnsureUser (id : UserId) (username : String)
  | guacGrantVmAccess (vmId : VmId) (userId : UserId)
  | guacListConnectionRecords (vmId : VmId)
  | guacVerifyConnection (record : ConnectionRecord)
  | guacSetConnectionStatus (id : Nat) (active : Bool)
  | guacDeleteVmResources (vmId : VmId)
  -- queue and Redis
  | getQueue
  | queueAdd (bullJobId : BullJobId) (delayMs : Nat)
  | queueRemove (bullJobId : BullJobId)
  | redisGetAttempts (id : JobId)
  | redisSetAttempts (id : JobId) (attempts : Nat)

@[reducible] def Call.Reply : Call → Type
  | .jobsRequire _ => JobRow
  | .jobsCompletedSteps _ => List JobStep
  | .jobsActiveWithName _ _ => Option JobRow
  | .jobsCreate _ _ => JobRow
  | .usersFindById _ => Option UserWithRoles
  | .requireAuth _ => UserWithRoles
  | .requirePermission _ _ => UserWithRoles
  | .resolveEffectiveAccess _ => EffectiveAccess
  | .getUserQuota _ => Option Nat
  | .countUserVms _ => Nat
  | .countActiveProvisioningJobs _ => Nat
  | .settingsDefaultNode => Option String
  | .templatesFindById _ => Option TemplateRow
  | .templatesRequireById _ => TemplateRow
  | .templatesFindByProxmoxId _ _ => Option TemplateRow
  | .encrypt _ => String
  | .decrypt _ => String
  | .vmsFindById _ => Option VmRow
  | .vmsVisibleTo _ _ _ => Bool
  | .vmsHasAccessOrOwns _ _ => Bool
  | .vmsListVmidsByNode _ => List Nat
  | .vmsFindByIdKey _ _ => Option VmRow
  | .vmsCreate _ => VmRow
  | .proxmoxNodes => List String
  | .proxmoxClusterResources => List ClusterResource
  | .proxmoxStorages _ => List StorageInfo
  | .proxmoxNetworks _ => List String
  | .proxmoxNextId => Nat
  | .proxmoxClone _ => String
  | .proxmoxTaskExit _ _ => TaskExit
  | .proxmoxQemuConfig _ _ => VmConfig
  | .proxmoxUpdateConfig _ _ _ => String
  | .proxmoxResizeDisk _ _ _ _ => String
  | .proxmoxStart _ _ => String
  | .proxmoxStop _ _ => String
  | .proxmoxDelete _ _ => String
  | .proxmoxQemuStatus _ _ => String
  | .proxmoxWaitForGuestAgent _ _ => Bool
  | .proxmoxGuestIpAddresses _ _ => Option AgentInfo
  | .proxmoxAgentOsInfo _ _ => Option (Option String)
  | .probeSsh _ => SshResult
  | .probeTcp _ _ => Bool
  | .guacUpsertConnection _ => String
  | .guacListConnectionRecords _ => List ConnectionRecord
  | .guacVerifyConnection _ => ConnectionCheck
  | .redisGetAttempts _ => Option Nat
  | _ => Unit

@[reducible] def calls : Signature := ⟨Call, Call.Reply⟩

abbrev Task (α : Type) := Prog calls Failure α

def ask (c : Call) : Task c.Reply := Prog.perform (F := calls) c

/-- `throw`. -/
def throwApp {α : Type} (e : AppError) : Task α := .raise (.app e)

end ProxVM
