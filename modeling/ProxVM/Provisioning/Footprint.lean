import ProxVM.Provisioning.Pipeline
import ProxVM.Provisioning.World

/-!
# Which calls the parts of a run make

Most of the pipeline only reads, talks to Proxmox, Guacamole or the guest, and
updates columns of the VM row: its calls are *quiet*.  What drives a job is the
rest: the status and step writes of `runProvisioningJob` and `StepRunner.run`, and
the clone with the insertion and linking of the VM row.  One lemma per function
says that it is quiet, and `only_body` says what a step body may call.
-/

namespace ProxVM

open Interaction

def Call.isQuiet : Call → Bool
  | .jobsUpdateStatus _ _ _ => false
  | .jobsSetBullJobId _ _ => false
  | .jobsSetVmId _ _ => false
  | .jobsResetStatus _ => false
  | .jobsResetFailedSteps _ => false
  | .jobsSetStep _ _ _ _ => false
  | .jobsCancel _ => false
  | .jobsCreate _ _ => false
  | .usersLock _ => false
  | .usersUnlock _ => false
  | .vmsCreate _ => false
  | .vmsSoftDelete _ => false
  | .proxmoxClone _ => false
  | .proxmoxDelete _ _ => false
  | .queueAdd _ _ => false
  | .queueRemove _ => false
  | .redisSetAttempts _ _ => false
  | _ => true

abbrev Quiet {α : Type} (p : Task α) : Prop := Only (fun c : Call => c.isQuiet = true) p

theorem Call.writes_of_isQuiet {c : Call} (hquiet : c.isQuiet = true) :
    c.writesJobs = false ∧ c.writesSteps = false ∧ c.writesQueue = false ∧
      c.writesAttempts = false ∧ c.writesLocks = false := by
  cases c <;> first | exact ⟨rfl, rfl, rfl, rfl, rfl⟩ | cases hquiet

variable {α : Type}

theorem quiet_ask {c : Call} (hc : c.isQuiet = true) : Quiet (ask c) := only_perform.mpr hc

/-! ## Helpers -/

theorem quiet_jobAuditActor (jobId : JobId) : Quiet (jobAuditActor jobId) := by
  refine (quiet_ask rfl).bind fun job => ?_
  cases job.createdByUserId with
  | none => trivial
  | some id => exact (quiet_ask rfl).bind fun _ => trivial

theorem quiet_countProvisionLoad (user : UserId) : Quiet (countProvisionLoad user) :=
  (quiet_ask rfl).bind fun _ => (quiet_ask rfl).bind fun _ => trivial

theorem quiet_waitForTask (node upid : String) : Quiet (waitForTask node upid) := by
  refine (quiet_ask rfl).bind fun exit => ?_
  cases exit with
  | ok => trivial
  | failed exitstatus => trivial

theorem quiet_waitForTaskIfAny (node upid : String) : Quiet (waitForTaskIfAny node upid) :=
  .ite trivial (quiet_waitForTask node upid)

theorem quiet_resolutionNode : Quiet resolutionNode := by
  refine (quiet_ask rfl).bind fun default => ?_
  cases default.filter fun n => n ≠ "" with
  | some node => trivial
  | none => exact (quiet_ask rfl).bind fun _ => (quiet_ask rfl).bind fun _ => trivial

namespace StepRunner

variable (k : StepRunner) (r : SharedState)

theorem quiet_stepActor : Quiet (k.stepActor r) := by
  unfold stepActor
  cases r.actor with
  | some actor => trivial
  | none => exact (quiet_jobAuditActor k.jobId).bind fun _ => trivial

theorem quiet_audit (event : String) (vmId : Option VmId) : Quiet ((k.audit r event vmId)) :=
  (quiet_stepActor k r).bind fun _ => (quiet_ask rfl).bind fun _ => trivial

theorem quiet_requestedTemplate {request : ProvisionRequest}
    {byId : TemplateId → Task (Option TemplateRow)} (hbyId : ∀ id, Quiet (byId id)) :
    Quiet (requestedTemplate request byId) := by
  unfold requestedTemplate
  cases request.templateId with
  | some id => exact hbyId id
  | none =>
      cases request.proxmoxTemplateVmid.filter fun n => n ≠ 0 with
      | none => trivial
      | some vmid =>
          have hnode : Quiet (templateNode request) := by
            unfold templateNode
            cases request.node with
            | some node => trivial
            | none => exact quiet_resolutionNode
          exact hnode.bind fun _ => quiet_ask rfl

theorem quiet_ensureProvisionable (t : TemplateRow) : Quiet (ensureProvisionable t) := by
  unfold ensureProvisionable
  cases t.osType with
  | linux => exact .ite trivial trivial
  | windows => exact .ite trivial trivial

/-! ## Step bodies -/

theorem quiet_validateResources : Quiet (k.validateResources r) := by
  refine (quiet_ask rfl).bind fun _ => ?_
  refine (quiet_requestedTemplate fun id => (quiet_ask rfl).bind fun _ => only_pure).bind fun _ => ?_
  refine only_orRaise.bind fun t => (quiet_ensureProvisionable t).bind fun _ => ?_
  refine (quiet_ask rfl).bind fun _ => .ite trivial ?_
  refine (quiet_ask rfl).bind fun _ => only_orRaise.bind fun _ => .ite trivial ?_
  refine (quiet_ask rfl).bind fun _ => only_orRaise.bind fun _ => .ite trivial ?_
  have hbridge : Quiet (hasBridge (k.request.node.getD r.node) k.request.network.bridge) :=
    .ite trivial ((quiet_ask rfl).bind fun _ => trivial)
  exact hbridge.bind fun _ => .ite trivial trivial

theorem quiet_chooseVmid : Quiet (k.chooseVmid r) := by
  unfold chooseVmid
  cases k.request.vmid.filter fun n => n ≠ 0 with
  | some vmid => trivial
  | none =>
      refine (quiet_ask rfl).bind fun _ => (quiet_ask rfl).bind fun _ => .ite ?_ trivial
      exact (quiet_ask rfl).bind fun _ => only_orRaise

theorem quiet_configureVm : Quiet (k.configureVm r) := by
  refine (quiet_ask rfl).bind fun _ => (quiet_ask rfl).bind fun cfg => ?_
  refine (quiet_ask rfl).bind fun _ => (quiet_waitForTaskIfAny _ _).bind fun _ => ?_
  cases rootDisk cfg with
  | none => trivial
  | some disk =>
      cases hsize : diskSizeOf ((cfg.lookup disk).getD "") with
      | none => simp only [hsize]; trivial
      | some bytes =>
          simp only [hsize]
          refine .ite ?_ trivial
          exact (quiet_ask rfl).bind fun _ => (quiet_waitForTaskIfAny _ _).bind fun _ => trivial

theorem quiet_ipConfig (network : NetworkRequest) : Quiet (ipConfig network) := by
  refine .ite ?_ trivial
  cases network.ip with
  | none => trivial
  | some ip => cases network.gateway <;> trivial

theorem quiet_configureGuestProvisioning : Quiet (k.configureGuestProvisioning r) := by
  refine (quiet_ask rfl).bind fun _ => (quiet_ask rfl).bind fun _ => .ite trivial ?_
  refine (quiet_ipConfig _).bind fun _ => (quiet_ask rfl).bind fun _ => ?_
  exact (quiet_ask rfl).bind fun _ => quiet_audit k r _ _

theorem quiet_startVm : Quiet (k.startVm r) := by
  refine (quiet_ask rfl).bind fun _ => .ite trivial ?_
  refine (quiet_ask rfl).bind fun _ => (quiet_waitForTaskIfAny _ _).bind fun _ => ?_
  refine (quiet_ask rfl).bind fun _ => .ite trivial ?_
  cases r.vmRecId with
  | none => trivial
  | some id => exact (quiet_ask rfl).bind fun _ => trivial

theorem quiet_waitForGuest : Quiet (k.waitForGuest r) := by
  refine (quiet_ask rfl).bind fun _ => .ite trivial ?_
  exact (quiet_ask rfl).bind fun _ => .ite trivial trivial

theorem quiet_recordOsLabel (agent : AgentInfo) : Quiet (recordOsLabel r agent) := by
  unfold recordOsLabel
  cases r.vmRecId with
  | none => trivial
  | some id =>
      have hlabel : Quiet (osLabel r agent) := by
        unfold osLabel
        cases agent.osType with
        | some label => trivial
        | none => exact (quiet_ask rfl).bind fun _ => trivial
      refine hlabel.bind fun label => ?_
      cases label with
      | none => trivial
      | some label => exact quiet_ask rfl

theorem quiet_agentAddress : Quiet (agentAddress r) := by
  refine (quiet_ask rfl).bind fun agent => ?_
  cases agent with
  | none => trivial
  | some agent => exact (quiet_recordOsLabel r agent).bind fun _ => trivial

theorem quiet_recordAddress (ip : String) (ipStatic : Bool) : Quiet (recordAddress r ip ipStatic) := by
  unfold recordAddress
  cases r.vmRecId with
  | none => trivial
  | some id =>
      refine ((quiet_ask rfl).tryCatch fun e => ?_).bind fun _ => trivial
      cases e <;> trivial

theorem quiet_discoverIp : Quiet (k.discoverIp r) := by
  refine (quiet_ask rfl).bind fun _ => (Only.ite (quiet_agentAddress r) only_pure).bind fun found => ?_
  cases found with
  | some ip => exact quiet_recordAddress r ip false
  | none =>
      cases hstatic : (if k.request.network.isStatic then k.request.network.ip else none) with
      | none => simpa only [hstatic] using only_raise
      | some ip => simpa only [hstatic] using quiet_recordAddress r ip true

theorem quiet_probePort (mechanism : VerifyMechanism) : Quiet (probePort r mechanism) :=
  (quiet_ask rfl).bind fun _ => .ite trivial trivial

theorem quiet_verifyGuest : Quiet (k.verifyGuest r) := by
  unfold verifyGuest
  cases selectVerifyMechanism r.protocols r.osType with
  | ssh => exact (quiet_ask rfl).bind fun _ => .ite trivial trivial
  | rdpPort => exact (quiet_probePort r _).bind fun _ => trivial
  | vncPort => exact (quiet_probePort r _).bind fun _ => trivial

theorem quiet_verifyCredentials : Quiet (k.verifyCredentials r) := by
  unfold verifyCredentials
  cases selectVerifyMechanism r.protocols r.osType with
  | ssh =>
      refine (quiet_ask rfl).bind fun _ => .ite ?_ ?_
      · exact (quiet_ask rfl).bind fun _ => quiet_audit k r _ _
      · exact (quiet_ask rfl).bind fun _ => trivial
  | rdpPort =>
      exact (quiet_probePort r _).bind fun _ => (quiet_ask rfl).bind fun _ => trivial
  | vncPort =>
      exact (quiet_probePort r _).bind fun _ => (quiet_ask rfl).bind fun _ => trivial

theorem quiet_requireVm : Quiet (requireVm r) := by
  unfold requireVm
  cases r.vmRecId with
  | none => trivial
  | some id => exact (quiet_ask rfl).bind fun _ => only_orRaise

theorem quiet_grantAccess (vm : VmRow) (user : UserWithRoles) : Quiet (grantAccess vm user) :=
  (quiet_ask rfl).bind fun _ => (quiet_ask rfl).bind fun _ => quiet_ask rfl

theorem quiet_assignUser (vm : VmRow) (userId : UserId) : Quiet (assignUser vm k r userId) := by
  refine (quiet_ask rfl).bind fun user => ?_
  cases user with
  | none => trivial
  | some user => exact (quiet_grantAccess vm user).bind fun _ => quiet_audit k r _ _

theorem quiet_assignCreator (vm : VmRow) : Quiet (assignCreator vm k) := by
  unfold assignCreator
  split
  · refine (quiet_ask rfl).bind fun creator => ?_
    cases creator with
    | none => trivial
    | some creator => exact .ite (quiet_grantAccess vm creator) trivial
  · trivial

theorem quiet_createGuacamoleConnection : Quiet (k.createGuacamoleConnection r) := by
  refine (quiet_ask rfl).bind fun _ => (quiet_requireVm r).bind fun vm => ?_
  refine (Only.forM fun _ => (quiet_ask rfl).bind fun _ => only_pure).bind fun _ => ?_
  refine (Only.foldlM fun r' userId => quiet_assignUser k r' vm userId).bind fun r' => ?_
  exact (quiet_assignCreator k vm).bind fun _ => quiet_audit k r' _ _

theorem quiet_verifyGuacamole : Quiet (verifyGuacamole r) := by
  refine (quiet_ask rfl).bind fun _ => (quiet_requireVm r).bind fun vm => ?_
  refine (quiet_ask rfl).bind fun _ => .ite trivial ?_
  refine (Only.forM fun record => (quiet_ask rfl).bind fun _ => .ite (quiet_ask rfl) ?_).bind
    fun _ => trivial
  exact (quiet_ask rfl).bind fun _ => trivial

theorem quiet_body {createdByUserId : Option UserId} {step : JobStep}
    (hstep : step ≠ .cloneTemplate) : Quiet (body createdByUserId k step r) := by
  cases step with
  | validateProxmoxResources => exact quiet_validateResources k r
  | cloneTemplate => exact absurd rfl hstep
  | configureVm => exact quiet_configureVm k r
  | configureGuestProvisioning => exact quiet_configureGuestProvisioning k r
  | startVm => exact quiet_startVm k r
  | waitForGuest => exact quiet_waitForGuest k r
  | discoverIp => exact quiet_discoverIp k r
  | verifyGuest => exact quiet_verifyGuest k r
  | verifyCredentials => exact quiet_verifyCredentials k r
  | createGuacamoleConnection => exact quiet_createGuacamoleConnection k r
  | verifyGuacamole => exact quiet_verifyGuacamole r

theorem quiet_skip (step : JobStep) : Quiet (skip r step) := by
  cases step with
  | discoverIp =>
      unfold skip
      cases r.vmRecId with
      | none => trivial
      | some id => exact (quiet_ask rfl).bind fun _ => trivial
  | _ => trivial

end StepRunner

/-! ## The clone -/

inductive BodyCall (jobId : JobId) : Call → Prop
  | quiet {c : Call} (hquiet : c.isQuiet = true) : BodyCall jobId c
  | clone (opts : CloneOptions) : BodyCall jobId (.proxmoxClone opts)
  | create (input : CreateVmInput) : BodyCall jobId (.vmsCreate input)
  | link (vmId : VmId) : BodyCall jobId (.jobsSetVmId jobId vmId)
  | creating : BodyCall jobId (.jobsUpdateStatus jobId .creating none)

theorem BodyCall.of_quiet {jobId : JobId} {p : Task α} (hp : Quiet p) : Only (BodyCall jobId) p :=
  hp.mono fun _ => .quiet

namespace StepRunner

variable (k : StepRunner) (r : SharedState)

theorem only_findOrCreateVm {jobId : JobId} (input : CreateVmInput) :
    Only (BodyCall jobId) (findOrCreateVm input) := by
  refine (only_perform.mpr (.quiet rfl)).bind fun existing => ?_
  cases existing with
  | some vm => trivial
  | none => exact only_perform.mpr (.create input)

theorem only_cloneTemplate (createdByUserId : Option UserId) :
    Only (BodyCall k.jobId) (cloneTemplate createdByUserId k r) := by
  refine (only_perform.mpr (.quiet rfl)).bind fun _ => only_orRaise.bind fun t => ?_
  refine (BodyCall.of_quiet (quiet_chooseVmid k r)).bind fun vmid => ?_
  refine (only_perform.mpr (.quiet rfl)).bind fun _ => .ite trivial ?_
  refine (only_perform.mpr (.clone _)).bind fun upid => ?_
  refine (BodyCall.of_quiet (quiet_waitForTask _ _)).bind fun _ => ?_
  refine (only_findOrCreateVm _).bind fun vm => ?_
  refine (only_perform.mpr (.link vm.id)).bind fun _ => ?_
  exact (only_perform.mpr .creating).bind fun _ => trivial

theorem only_body (createdByUserId : Option UserId) (step : JobStep) :
    Only (BodyCall k.jobId) (body createdByUserId k step r) := by
  by_cases hclone : step = .cloneTemplate
  · subst hclone
    exact only_cloneTemplate k r createdByUserId
  · exact BodyCall.of_quiet (quiet_body k r hclone)

end StepRunner

/-! ## Around the steps -/

theorem quiet_authorizeExecution (job : JobRow) (creatorId : UserId) :
    Quiet (authorizeExecution job creatorId) := by
  refine (quiet_ask rfl).bind fun _ => (quiet_ask rfl).bind fun _ => (quiet_ask rfl).bind fun q => ?_
  have hquota : Quiet (isOverQuota creatorId q) := by
    cases q with
    | none => trivial
    | some q => exact (quiet_countProvisionLoad creatorId).bind fun _ => trivial
  exact hquota.bind fun _ => trivial

theorem quiet_resumeRunner (job : JobRow) (k : StepRunner) : Quiet (resumeRunner job k) := by
  unfold resumeRunner
  cases job.vmId with
  | none => trivial
  | some id =>
      refine (quiet_ask rfl).bind fun existingVm => ?_
      cases existingVm with
      | none => trivial
      | some vm =>
          cases htemplate : vm.templateId with
          | none => simp only [htemplate]; trivial
          | some templateId =>
              simp only [htemplate]
              exact (quiet_ask rfl).bind fun _ => trivial

theorem quiet_recoverTemplate (completed : List JobStep) (k : StepRunner) (r : SharedState) :
    Quiet (recoverTemplate completed k r) := by
  refine .ite ?_ trivial
  refine (StepRunner.quiet_requestedTemplate fun _ => quiet_ask rfl).bind fun _ => ?_
  exact only_orRaise.bind fun _ => trivial

theorem quiet_checkPolicy (job : JobRow) (policyAdmin : Bool) (k : StepRunner) :
    Quiet (checkPolicy job policyAdmin k) :=
  .ite trivial (quiet_ask rfl)

theorem quiet_settleVm (k : StepRunner) (r : SharedState) : Quiet (settleVm k r) := by
  unfold settleVm
  cases r.vmRecId with
  | none => trivial
  | some id => exact (quiet_ask rfl).bind fun _ => quiet_ask rfl

theorem quiet_decryptPassword (stored : String) : Quiet (decryptPassword stored) :=
  .ite trivial (quiet_ask rfl)

end ProxVM
