import ProxVM.Provisioning.Pipeline
import ProxVM.Provisioning.World
import ProxVM.Util.Text

/-!
# The request that a job gets

`resolveProvisionRequest` of `provisioning/defaults.ts`: what a request leaves open
is taken from the settings of Proxmox and from the template.

Left to parameters are what `SettingsService.proxmox` reads, the default sizes of a template and the
checks of `provisionVmSchema`, which change nothing.
-/

namespace ProxVM

open Interaction

/-- The `network` object of a `BasicProvisionRequest`; the mode is `dhcp` unless it is static. -/
structure BasicNetwork where
  bridge : Option String
  vlan : Option Nat
  isStatic : Bool
  ip : Option String
  cidr : Option Nat
  gateway : Option String
  dns : List String
  deriving DecidableEq, Repr

structure BasicProvisionRequest where
  name : String
  templateId : TemplateId
  proxmoxTemplateVmid : Option Nat
  node : Option String
  vmid : Option Nat
  cpu : Option Nat
  ramMb : Option Nat
  diskGb : Option Rat
  storage : Option String
  network : Option BasicNetwork
  osType : Option OsType
  protocols : Option (List Protocol)
  guestUser : Option String
  password : String
  startAfterProvision : Bool
  linkedClone : Bool
  assignToUserIds : List UserId
  deriving DecidableEq, Repr

structure ProxmoxDefaults where
  defaultNode : Option String
  defaultStorage : Option String
  defaultNetwork : Option String
  deriving DecidableEq, Repr

structure TemplateDefaults where
  defaultCpu : Nat
  defaultRamMb : Nat
  defaultDiskGb : Rat
  deriving DecidableEq, Repr

def fallbackBridge : String := "vmbr0"

def fallbackGuestUser : String := "deploy"

def ensureSupported (t : TemplateRow) (protocols : List Protocol) : Task Unit :=
  match protocols.filter fun p => decide (p ∉ t.supportedProtocols) with
  | [] => pure ()
  | unsupported => .raise (validation ("Template \"" ++ t.name ++
      "\" does not support protocol(s): " ++ ", ".intercalate (unsupported.map Protocol.text) ++
      ". Supported: " ++
      (if t.supportedProtocols = [] then "none"
        else ", ".intercalate (t.supportedProtocols.map Protocol.text)) ++ "."))

def notBlank (text : Option String) : Option String :=
  text.filter fun s => (trimmed (some s)).isSome

def resolveNetwork (defaults : Option ProxmoxDefaults) (network : Option BasicNetwork) :
    NetworkRequest :=
  { bridge := ((network.bind BasicNetwork.bridge).or
      (defaults.bind ProxmoxDefaults.defaultNetwork)).getD fallbackBridge
    vlan := network.bind BasicNetwork.vlan
    isStatic := network.any BasicNetwork.isStatic
    ip := network.bind BasicNetwork.ip
    cidr := network.bind BasicNetwork.cidr
    gateway := network.bind BasicNetwork.gateway
    dns := (network.map BasicNetwork.dns).getD [] }

section resolve

variable (defaults : Option ProxmoxDefaults) (sizes : TemplateId → TemplateDefaults)
  (schema : ProvisionRequest → Except AppError Unit)

def resolveNode (t : TemplateRow) (node : Option String) : String :=
  (node.or (defaults.bind ProxmoxDefaults.defaultNode)).getD t.node

def resolveProvisionRequest (input : BasicProvisionRequest) : Task ProvisionRequest := do
  let t : TemplateRow ← ask (.templatesRequireById input.templateId)
  StepRunner.ensureProvisionable t
  ensureSupported t (input.protocols.getD [])
  forM input.assignToUserIds fun userId => do
    let target : Option UserWithRoles ← ask (.usersFindById userId)
    if target.isNone then
      .raise (validation ("Assigned user does not exist: " ++ toString userId))
    else
      pure ()
  let storage ← Prog.orRaise
    ((notBlank input.storage).or (notBlank (defaults.bind ProxmoxDefaults.defaultStorage)))
    (validation "storage is required (no default storage configured)")
  let network := resolveNetwork defaults input.network
  if network.isStatic ∧ (network.ip.isNone ∨ network.gateway.isNone) then
    .raise (validation "Static networking requires both ip and gateway")
  else
  let resolved : ProvisionRequest :=
    { name := input.name, templateId := some input.templateId
      proxmoxTemplateVmid := input.proxmoxTemplateVmid
      node := some (resolveNode defaults t input.node), vmid := input.vmid
      cpu := input.cpu.getD (sizes t.id).defaultCpu
      ramMb := input.ramMb.getD (sizes t.id).defaultRamMb
      diskGb := input.diskGb.getD (sizes t.id).defaultDiskGb, storage, network
      osType := input.osType.getD t.osType, protocols := input.protocols
      guestUser := input.guestUser.getD fallbackGuestUser, password := input.password
      startAfterProvision := input.startAfterProvision, linkedClone := input.linkedClone
      assignToUserIds := input.assignToUserIds }
  Prog.ofExcept ((schema resolved).mapError .app)
  pure resolved

end resolve

end ProxVM
