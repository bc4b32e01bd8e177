import Mathlib.Data.List.Sort
import ProxVM.Firewall.Rules
import ProxVM.Iam.Service
import ProxVM.Schedules.Requests

/-!
# The isolation of a VM

`applyIsolation`, `removeIsolation` and `getIsolationStatus` of
`services/firewall.ts`, and `applyStartOnBoot` of `services/start-on-boot.ts`, over
the application's tables and a Proxmox server.

Of Proxmox nothing is assumed: each method of its client is a program over states of its own, and one
that fails may leave another state.
-/

namespace ProxVM

open Fallible Firewall

/-! ## The state -/

/-- `GET …/firewall/options` of a guest; `enable` is `1`, `"1"` or `true`. -/
structure GuestFirewallOptions where
  enable : Bool
  policyIn : Option String
  policyOut : Option String
  deriving DecidableEq, Repr

/-- What `PUT …/firewall/options` sets. -/
structure FirewallPatch where
  enable : Option Bool := none
  policyIn : Option RuleAction := none
  policyOut : Option RuleAction := none
  deriving DecidableEq, Repr

structure GuestRule where
  pos : Option Nat
  type : Option String
  action : Option String
  proto : Option String
  dport : Option String
  source : Option String
  dest : Option String
  comment : Option String
  deriving DecidableEq, Repr

/-- The methods of `ProxmoxClient` on the policies of a guest, with `P` the states of the server. -/
structure ProxmoxApi (P : Type) where
  clusterFirewallEnable : Program AppError P Bool
  guestFirewallOptions (node : String) (vmid : Nat) : Program AppError P GuestFirewallOptions
  setGuestFirewallOptions (node : String) (vmid : Nat) (opts : FirewallPatch) :
    Program AppError P Unit
  guestFirewallRules (node : String) (vmid : Nat) : Program AppError P (List GuestRule)
  createGuestFirewallRule (node : String) (vmid : Nat) (rule : IsolationRule) (pos : Nat) :
    Program AppError P Unit
  deleteGuestFirewallRule (node : String) (vmid : Nat) (pos : Nat) : Program AppError P Unit
  updateOnboot (node : String) (vmid : Nat) (onboot : Nat) : Program AppError P Unit

/-- The columns of `vms` with the policies, `privacy_flag` apart. -/
structure VmPolicy where
  vmClass : Schedules.VmClass
  firewallIsolated : Bool
  startOnBoot : Bool
  deriving DecidableEq, Repr

structure FleetWorld (P : Type) where
  db : Db
  policies : VmId → VmPolicy
  schedules : Tables.Table Schedules.VmSchedule.id
  proxmox : P

abbrev FleetProgram (P α : Type) := Program AppError (FleetWorld P) α

variable {P α : Type}

def onTables (m : Handler α) : FleetProgram P α := fun w =>
  ((exec m w.db).1, { w with db := (exec m w.db).2 })

def onProxmox (m : Program AppError P α) : FleetProgram P α := fun w =>
  ((exec m w.proxmox).1, { w with proxmox := (exec m w.proxmox).2 })

/-- `UPDATE vms SET …` on the policies of one VM. -/
def setPolicy (vmId : VmId) (f : VmPolicy → VmPolicy) : FleetProgram P Unit :=
  write fun w => { w with policies := Function.update w.policies vmId (f (w.policies vmId)) }

/-! ## The functions -/

section functions

variable (proxmox : ProxmoxApi P)

def proxvmPositions (rules : List GuestRule) : List Nat :=
  ((rules.filter fun r => isProxvmRule r.comment).filterMap GuestRule.pos).insertionSort (· ≥ ·)

def deleteProxvmRules (node : String) (vmid : Nat) : FleetProgram P Nat := do
  let existing ← onProxmox (proxmox.guestFirewallRules node vmid)
  forM (proxvmPositions existing) fun pos =>
    onProxmox (proxmox.deleteGuestFirewallRule node vmid pos)
  pure (proxvmPositions existing).length

/-- `applyIsolation`, which answers how many rules it created. -/
def applyIsolation (vmId : VmId) (node : String) (vmid : Nat) (opts : IsolationOptions) :
    FleetProgram P Nat := do
  let enabled ← onProxmox proxmox.clusterFirewallEnable
  ensure enabled (AppError.validation ("Proxmox cluster firewall is disabled, so guest rules would " ++
    "be silently ignored. Enable it once (Datacenter → Firewall → Options) and retry — ProxVM will " ++
    "not touch datacenter config itself."))
  let rules ← outcome (buildIsolationRules opts)
  onProxmox (proxmox.setGuestFirewallOptions node vmid { enable := some true })
  let _ ← deleteProxvmRules proxmox node vmid
  -- Proxmox inserts at the top, so the last rule is created first.
  forM rules.reverse fun rule => onProxmox (proxmox.createGuestFirewallRule node vmid rule 0)
  onProxmox (proxmox.setGuestFirewallOptions node vmid
    { enable := some true, policyIn := some .drop, policyOut := some .drop })
  setPolicy vmId fun policy => { policy with firewallIsolated := true }
  pure rules.length

/-- `removeIsolation`, which answers how many rules it deleted. -/
def removeIsolation (vmId : VmId) (node : String) (vmid : Nat) : FleetProgram P Nat := do
  onProxmox (proxmox.setGuestFirewallOptions node vmid
    { policyIn := some .accept, policyOut := some .accept })
  let removed ← deleteProxvmRules proxmox node vmid
  setPolicy vmId fun policy => { policy with firewallIsolated := false }
  pure removed

structure IsolationStatus where
  enabled : Bool
  policyIn : Option String
  policyOut : Option String
  proxvmRules : List GuestRule
  otherRuleCount : Nat
  deriving DecidableEq, Repr

def getIsolationStatus (node : String) (vmid : Nat) : FleetProgram P IsolationStatus := do
  let options ← onProxmox (proxmox.guestFirewallOptions node vmid)
  let rules ← onProxmox (proxmox.guestFirewallRules node vmid)
  pure
    { enabled := options.enable, policyIn := options.policyIn, policyOut := options.policyOut
      proxvmRules := rules.filter fun r => isProxvmRule r.comment
      otherRuleCount := rules.countP fun r => !isProxvmRule r.comment }

/-- `applyStartOnBoot`, with `setStartOnBoot`: Proxmox first. -/
def applyStartOnBoot (vm : VmRow) (enabled : Bool) : FleetProgram P Unit := do
  onProxmox (proxmox.updateOnboot vm.node vm.vmid (if enabled then 1 else 0))
  setPolicy vm.id fun policy => { policy with startOnBoot := enabled }

end functions

/-! ## What they leave -/

section rules

variable {m : Handler α} {w w' : FleetWorld P}

variable {Q : Except AppError α → FleetWorld P → Prop}

@[simp] theorem after_onProxmox {m : Program AppError P α} :
    after (onProxmox m) Q w ↔ after m (fun r proxmox => Q r { w with proxmox }) w.proxmox := Iff.rfl

structure SameTables (w w' : FleetWorld P) : Prop where
  db : w'.db = w.db
  policies : w'.policies = w.policies
  schedules : w'.schedules = w.schedules

theorem SameTables.refl (w : FleetWorld P) : SameTables w w := ⟨rfl, rfl, rfl⟩

theorem SameTables.onProxmox (h : SameTables w w') (m : Program AppError P α) :
    after (onProxmox m) (fun _ w'' => SameTables w w'') w' := by
  rw [after_onProxmox, after_iff]
  exact ⟨h.db, h.policies, h.schedules⟩

def TableChange (w : FleetWorld P) (r : Except AppError α) (w' : FleetWorld P) : Prop :=
  w'.db = w.db ∧ (r.isOk = false → SameTables w w')

theorem SameTables.change (h : SameTables w w') (r : Except AppError α) : TableChange w r w' :=
  ⟨h.db, fun _ => h⟩

theorem after_before_change {β : Type} {m : FleetProgram P α} {f : α → FleetProgram P β}
    (hm : after m (fun _ w'' => SameTables w w'') w')
    (hf : ∀ a w'', SameTables w w'' → after (f a) (TableChange w) w'') : after (m >>= f) (TableChange w) w' :=
  after_bind_of hm (fun e _ h => h.change (.error e)) hf

theorem SameTables.setPolicy (h : SameTables w w') (vmId : VmId) (f : VmPolicy → VmPolicy) (a : α) :
    after (ProxVM.setPolicy vmId f >>= fun _ => pure a) (TableChange w) w' :=
  ⟨h.db, nofun⟩

theorem SameTables.deleteProxvmRules (h : SameTables w w') (proxmox : ProxmoxApi P) (node : String)
    (vmid : Nat) : after (ProxVM.deleteProxvmRules proxmox node vmid) (fun _ w'' => SameTables w w'') w' := by
  refine after_bind_keep (h.onProxmox _) fun existing w₁ h₁ => ?_
  refine after_bind_keep (after_forM (fun pos _ w₂ h₂ => h₂.onProxmox _) h₁) fun _ w₂ h₂ => ?_
  exact h₂

/-- **Isolation is recorded after it is made.** -/
theorem applyIsolation_change (proxmox : ProxmoxApi P) (vmId : VmId) (node : String) (vmid : Nat)
    (opts : IsolationOptions) : after (applyIsolation proxmox vmId node vmid opts) (TableChange w) w := by
  refine after_before_change ((SameTables.refl w).onProxmox _) fun enabled w₁ h₁ => ?_
  refine after_before_change (after_ensure.mpr ⟨fun _ => h₁, fun _ => h₁⟩) fun _ w₂ h₂ => ?_
  refine after_before_change (after_outcome.mpr h₂) fun rules w₃ h₃ => ?_
  refine after_before_change (h₃.onProxmox _) fun _ w₄ h₄ => ?_
  refine after_before_change (h₄.deleteProxvmRules proxmox node vmid) fun _ w₅ h₅ => ?_
  refine after_before_change (after_forM (fun rule _ w₆ h₆ => h₆.onProxmox _) h₅) fun _ w₇ h₇ => ?_
  refine after_before_change (h₇.onProxmox _) fun _ w₈ h₈ => ?_
  exact h₈.setPolicy vmId _ rules.length

theorem removeIsolation_change (proxmox : ProxmoxApi P) (vmId : VmId) (node : String) (vmid : Nat) :
    after (removeIsolation proxmox vmId node vmid) (TableChange w) w := by
  refine after_before_change ((SameTables.refl w).onProxmox _) fun _ w₁ h₁ => ?_
  refine after_before_change (h₁.deleteProxvmRules proxmox node vmid) fun removed w₂ h₂ => ?_
  exact h₂.setPolicy vmId _ removed

theorem applyStartOnBoot_change (proxmox : ProxmoxApi P) (vm : VmRow) (enabled : Bool) :
    after (applyStartOnBoot proxmox vm enabled) (TableChange w) w :=
  after_before_change ((SameTables.refl w).onProxmox _) fun _ _ h₁ => ⟨h₁.db, nofun⟩

end rules

end ProxVM
