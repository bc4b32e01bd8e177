import ProxVM.Db.Seeds
import ProxVM.Provisioning.World

/-!
# Playing calls

To exhibit a run, each of its calls is given a fate.  `Call.plainReply` is what a
healthy cluster with one node, one template and one storage replies;
`World.play fates` serves calls by `fates`, and `served_play` says that what it
computes can happen.  `World.sample` is an installation with one provisioning job.
-/

namespace ProxVM

open Interaction

instance Call.inhabitedReply (c : Call) : Inhabited c.Reply := by
  apply Call.casesOn (motive := fun c => Inhabited c.Reply) c <;> intros <;> exact inferInstance

def Call.plainReply : (c : Call) → c.Reply
  | .jobsCreate _ _ => { (default : JobRow) with id := 2 }
  | .vmsCreate _ => { (default : VmRow) with id := 31 }
  | .proxmoxNodes => ["pve1"]
  | .proxmoxClusterResources => [⟨9000, "pve1", "ubuntu", true⟩]
  | .proxmoxStorages _ => [⟨"local", "images"⟩]
  | .proxmoxNetworks _ => ["vmbr0"]
  | .proxmoxNextId => 101
  | .proxmoxClone _ => "UPID:clone"
  | .proxmoxTaskExit _ _ => .ok
  | .proxmoxQemuConfig _ _ => [("ide2", "local:cloudinit")]
  | .proxmoxQemuStatus _ _ => "running"
  | .proxmoxWaitForGuestAgent _ _ => true
  | .probeSsh _ => ⟨true, "ok", none⟩
  | .probeTcp _ _ => true
  | .guacListConnectionRecords _ => [⟨1, "SSH"⟩]
  | .guacVerifyConnection _ => ⟨true, "ok"⟩
  | _ => default

abbrev Fates := (c : Call) → Fate c.Reply

def Fates.plain : Fates := fun c => .answer c.plainReply

def Fates.deaf : Fates
  | .proxmoxWaitForGuestAgent _ _ => .answer false
  | c => .answer c.plainReply

def Fates.offline : Fates
  | .getProxmoxClient => .refuse (.other "connect ECONNREFUSED")
  | c => .answer c.plainReply

def World.play (fates : Fates) (c : Call) (w : World) : Option (Except Failure c.Reply × World) :=
  if c.Enabled w then some (w.serve c (fates c)) else none

theorem served_play {fates : Fates} {c : Call} {w w' : World} {r : Except Failure c.Reply}
    (hplay : World.play fates c w = some (r, w')) : Served c w r w' := by
  unfold World.play at hplay
  split at hplay
  · next henabled => exact ⟨henabled, fates c, Option.some.inj hplay⟩
  · cases hplay

/-! ## A sample installation -/

/-- A request for a small Linux VM on `pve1` with a static address. -/
def ProvisionRequest.sample : ProvisionRequest :=
  { name := "web-1", templateId := some 7, proxmoxTemplateVmid := none, node := some "pve1",
    vmid := none, cpu := 2, ramMb := 2048, diskGb := 10, storage := "local"
    network :=
      { bridge := "vmbr0", vlan := none, isStatic := true, ip := some "10.0.0.5", cidr := none,
        gateway := some "10.0.0.1", dns := [] }
    osType := .linux, protocols := none, guestUser := "ubuntu", password := ""
    startAfterProvision := true, linkedClone := false, assignToUserIds := [] }

/-- A new job of `root` for that request. -/
def JobRow.sample : JobRow :=
  { id := 1, vmId := none, status := .pending, error := none, request := .sample,
    createdByUserId := some 10, bullJobId := none, startedAt := none, finishedAt := none,
    updatedAt := 0 }

/-- `root`, as requests see him. -/
def UserWithRoles.root : UserWithRoles := ⟨plainUser 10 "root" true, [.admin]⟩

def TemplateRow.sample : TemplateRow :=
  { id := 7, name := "ubuntu", node := "pve1", proxmoxVmid := 9000, osType := .linux,
    provisioningMethod := .cloudInit, cloudInitSupport := true, guestAgentRequired := true,
    supportedProtocols := [.ssh] }

def World.sample : World :=
  { db := { Db.sample with
      templates := ⟨[.sample], by decide⟩
      jobs := ⟨[.sample], by decide⟩ }
    queue := .empty
    attempts := fun _ => none
    guests := []
    locked := []
    now := 1000 }

end ProxVM
