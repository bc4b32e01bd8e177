import ProxVM.Drift.Pass
import ProxVM.Drift.Remediation
import ProxVM.Provisioning.Simulation

/-!
# Playing the calls of the drift code

As in `ProxVM.Provisioning.Simulation`, with a sample installation whose drift detection is on and
which has one running VM.
-/

namespace ProxVM

open Tables Interaction

def ProxmoxQemuResource.web : ProxmoxQemuResource :=
  { vmid := some 500, node := some "pve1", name := some "web", status := some "running",
    type := some "qemu", template := some 0 }

def DriftCall.plainReply : (c : DriftCall) → c.Reply
  | .base c => c.plainReply
  | .settingsDriftEnabled => some "true"
  | .settingsSetLastRun _ => ()
  | .clusterResources => [.web]
  | .qemuConfig _ _ => ⟨some 2, some 2048, none⟩
  | .vmsList => []
  | .vmsUpdateName _ _ => ()
  | .vmsUpdateNode _ _ => ()
  | .vmsDeleteDirectAccess _ => 0
  | .vmsDeleteGroupAccess _ => 0
  | .jobsActiveJobVmIds => []
  | .jobsActiveJobsForVm _ => []
  | .guacListAllConnectionRecords => []
  | .guacUpdateConnectionHostname _ _ => 1
  | .guacDeleteConnectionRecord _ => true
  | .credsFindByVm _ => none
  | .hostKeysPolicy _ _ _ => ()
  | .probeSsh _ => ⟨.authenticated, "ok"⟩
  | .closePowerPeriod _ => 0
  | .newId => 1
  | .findingByFingerprint _ => none
  | .findingById _ => none
  | .insertFinding _ _ => ()
  | .refreshFinding _ _ => ()
  | .listActiveFindings => []
  | .autoResolveFindings _ _ => 0
  | .resolveFinding _ _ _ => ()
  | .acknowledgeFinding _ _ _ => ()
  | .getVmState _ => none
  | .upsertVmState _ _ => ()

abbrev DriftFates := (c : DriftCall) → Fate c.Reply

def DriftFates.plain : DriftFates := fun c => .answer c.plainReply

def DriftFates.listing (guests : List ProxmoxQemuResource) : DriftFates
  | .clusterResources => .answer guests
  | c => .answer c.plainReply

def DriftWorld.play (fates : DriftFates) (c : DriftCall) (w : DriftWorld) :
    Option (Except Failure c.Reply × DriftWorld) :=
  if c.Enabled w then some (w.serve c (fates c)) else none

variable {fates : DriftFates} {c : DriftCall}

theorem driftServed_play {w w' : DriftWorld}
    {r : Except Failure c.Reply} (hplay : DriftWorld.play fates c w = some (r, w')) :
    DriftServed c w r w' := by
  unfold DriftWorld.play at hplay
  split at hplay
  · next henabled => exact ⟨henabled, fates c, Option.some.inj hplay⟩
  · cases hplay

def DriftWorld.playLogged (fates : DriftFates) (c : DriftCall)
    (s : DriftWorld × Log driftCalls Failure) :
    Option (Except Failure c.Reply × DriftWorld × Log driftCalls Failure) :=
  (DriftWorld.play fates c s.1).map fun out => (out.1, out.2, ⟨c, out.1⟩ :: s.2)

theorem logging_playLogged {s s' : DriftWorld × Log driftCalls Failure} {r : Except Failure c.Reply}
    (hplay : DriftWorld.playLogged fates c s = some (r, s')) : logging DriftServed c s r s' := by
  obtain ⟨out, hout, heq⟩ := Option.map_eq_some_iff.mp hplay
  cases heq
  exact ⟨driftServed_play hout, rfl⟩

/-! ## A sample installation -/

/-- A running Linux VM of `root`. -/
def VmRow.web : VmRow :=
  { id := 30, vmid := 500, node := "pve1", name := "web", status := .running, osType := some .linux,
    osName := none, ipAddress := some "10.0.0.5", ipStatic := false, createdByUserId := some 10,
    templateId := none, privacyFlag := false, deletedAt := none }

def DriftWorld.sample : DriftWorld :=
  { base := { World.sample with
      db := { World.sample.db with
        vms := ⟨[.web], by decide⟩
        jobs := Table.empty } }
    findings := Table.empty
    vmState := Table.empty }

def DriftWorld.sampleMissing : DriftWorld :=
  { DriftWorld.sample with findings := ⟨[(deletedFinding .web).newRow 1 900], by decide⟩ }

/-- `root`, as a drift actor. -/
def DriftActor.root : DriftActor := ⟨10, "root"⟩

end ProxVM
