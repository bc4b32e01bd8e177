import Mathlib.Data.List.Basic

/-!
# Shared vocabularies

The closed enumerations of `packages/shared/src/enums.ts`, and the few
predicates on them that routes and services repeat: which job statuses are
terminal, and the order of the pipeline's steps.
-/

namespace ProxVM

abbrev UserId := Nat
abbrev RoleId := Nat
abbrev GroupId := Nat
abbrev VmId := Nat
abbrev JobId := Nat
abbrev TemplateId := Nat

abbrev Time := Nat

/-- `ROLES`: the legacy system roles. -/
inductive Role
  | admin
  | operator
  | user
  | guest
  deriving DecidableEq, Repr

/-- The name a legacy role has in the `roles` table. -/
def Role.name : Role → String
  | .admin => "ADMIN"
  | .operator => "OPERATOR"
  | .user => "USER"
  | .guest => "GUEST"

/-- `ROLES`, in source order. -/
def Role.all : List Role := [.admin, .operator, .user, .guest]

def Role.ofName? (name : String) : Option Role :=
  Role.all.find? fun r => decide (r.name = name)

theorem Role.ofName?_eq_some_iff {name : String} {r : Role} : Role.ofName? name = some r ↔ r.name = name := by
  constructor
  · intro hfind
    unfold Role.ofName? at hfind
    simpa using List.find?_some hfind
  · rintro rfl
    cases r <;> decide

/-- `OS_TYPES`. -/
inductive OsType
  | linux
  | windows
  deriving DecidableEq, Repr, Inhabited

/-- `PROTOCOLS`. -/
inductive Protocol
  | ssh
  | rdp
  | vnc
  deriving DecidableEq, Repr

def Protocol.text : Protocol → String
  | .ssh => "ssh"
  | .rdp => "rdp"
  | .vnc => "vnc"

/-- `PROVISIONING_METHODS`. -/
inductive ProvisioningMethod
  | cloudInit
  | cloudbaseInit
  | unattend
  | none
  deriving DecidableEq, Repr, Inhabited

def ProvisioningMethod.text : ProvisioningMethod → String
  | .cloudInit => "cloud-init"
  | .cloudbaseInit => "cloudbase-init"
  | .unattend => "unattend"
  | .none => "none"

inductive CredStatus
  | none
  | encrypted
  | provisioned
  | verified
  | rotating
  | failed
  deriving DecidableEq, Repr

inductive JobStatus
  | pending
  | creating
  | provisioning
  | waitingForGuest
  | configuring
  | verifying
  | guacamoleCreating
  | ready
  | failed
  | cancelled
  deriving DecidableEq, Repr, Inhabited

def JobStatus.text : JobStatus → String
  | .pending => "PENDING"
  | .creating => "CREATING"
  | .provisioning => "PROVISIONING"
  | .waitingForGuest => "WAITING_FOR_GUEST"
  | .configuring => "CONFIGURING"
  | .verifying => "VERIFYING"
  | .guacamoleCreating => "GUACAMOLE_CREATING"
  | .ready => "READY"
  | .failed => "FAILED"
  | .cancelled => "CANCELLED"

/-- `status IN ('READY','FAILED','CANCELLED')`, the test every query for active
jobs spells out. -/
def JobStatus.isTerminal : JobStatus → Bool
  | .ready => true
  | .failed => true
  | .cancelled => true
  | _ => false

/-- `JOB_STEPS`. -/
inductive JobStep
  | validateProxmoxResources
  | cloneTemplate
  | configureVm
  | configureGuestProvisioning
  | startVm
  | waitForGuest
  | discoverIp
  | verifyGuest
  | verifyCredentials
  | createGuacamoleConnection
  | verifyGuacamole
  deriving DecidableEq, Repr

/-- `JOB_STEPS` in pipeline order. -/
def JobStep.all : List JobStep :=
  [.validateProxmoxResources, .cloneTemplate, .configureVm, .configureGuestProvisioning,
    .startVm, .waitForGuest, .discoverIp, .verifyGuest, .verifyCredentials,
    .createGuacamoleConnection, .verifyGuacamole]

def JobStep.text : JobStep → String
  | .validateProxmoxResources => "VALIDATE_PROXMOX_RESOURCES"
  | .cloneTemplate => "CLONE_TEMPLATE"
  | .configureVm => "CONFIGURE_VM"
  | .configureGuestProvisioning => "CONFIGURE_GUEST_PROVISIONING"
  | .startVm => "START_VM"
  | .waitForGuest => "WAIT_FOR_GUEST"
  | .discoverIp => "DISCOVER_IP"
  | .verifyGuest => "VERIFY_GUEST"
  | .verifyCredentials => "VERIFY_CREDENTIALS"
  | .createGuacamoleConnection => "CREATE_GUACAMOLE_CONNECTION"
  | .verifyGuacamole => "VERIFY_GUACAMOLE"

def JobStep.index : JobStep → Nat
  | .validateProxmoxResources => 0
  | .cloneTemplate => 1
  | .configureVm => 2
  | .configureGuestProvisioning => 3
  | .startVm => 4
  | .waitForGuest => 5
  | .discoverIp => 6
  | .verifyGuest => 7
  | .verifyCredentials => 8
  | .createGuacamoleConnection => 9
  | .verifyGuacamole => 10

theorem JobStep.all_getElem?_index (s : JobStep) : JobStep.all[s.index]? = some s := by
  cases s <;> rfl

theorem JobStep.index_injective {s s' : JobStep} (hindex : s.index = s'.index) : s = s' := by
  have hget := JobStep.all_getElem?_index s
  rw [hindex, JobStep.all_getElem?_index s'] at hget
  exact (Option.some.inj hget).symm

theorem JobStep.drop_eq_cons {i : Nat} {s : JobStep} {rest : List JobStep}
    (hdrop : JobStep.all.drop i = s :: rest) : s.index = i ∧ JobStep.all.drop (i + 1) = rest := by
  have hget : JobStep.all[i]? = some s := by
    rw [← List.head?_drop, hdrop]
    rfl
  constructor
  · have hlt : i < JobStep.all.length := (List.getElem?_eq_some_iff.mp hget).1
    exact ((List.getElem?_inj hlt (by decide)).mp
      (hget.trans (JobStep.all_getElem?_index s).symm)).symm
  · rw [← List.tail_drop, hdrop]
    rfl

inductive StepState
  | pending
  | running
  | succeeded
  | failed
  | skipped
  deriving DecidableEq, Repr

inductive VmStatus
  | pending
  | running
  | stopped
  | failed
  | notFound
  deriving DecidableEq, Repr, Inhabited

end ProxVM
