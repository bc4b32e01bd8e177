import ProxVM.Drift.Lifecycle

/-!
# Which calls a pass makes

`CheckCall vm` are the calls of the checks of one VM, `ProbeCall vm` those of its later
checks (address and credential), and `PassCall` all calls of a pass.  They name the VM
they are about and say what they store, so that everything a pass leaves alone follows
by a case analysis.
-/

namespace ProxVM

open Interaction

structure VmStatePatch.IsPositive (patch : VmStatePatch) : Prop where
  cores : ∀ value, patch.cores = some value → ∃ n, value = some n ∧ 0 < n
  memoryMb : ∀ value, patch.memoryMb = some value → ∃ n, value = some n ∧ 0 < n

structure VmStatePatch.SparesHardware (patch : VmStatePatch) : Prop where
  cores : patch.cores = none
  memoryMb : patch.memoryMb = none

theorem VmStatePatch.SparesHardware.isPositive {patch : VmStatePatch} (h : patch.SparesHardware) :
    patch.IsPositive := by
  constructor
  · intro value hvalue
    rw [h.cores] at hvalue
    cases hvalue
  · intro value hvalue
    rw [h.memoryMb] at hvalue
    cases hvalue

theorem VmStatePatch.sparesHardware_probe (time : Time) (okAt : Option Time) :
    (VmStatePatch.probe time okAt).SparesHardware := ⟨rfl, rfl⟩

theorem VmStatePatch.isPositive_hardware {hw : HardwareConfig} {cores memory : Int}
    (husable : hw.usable = some (cores, memory)) (net : Option String) (time : Time) :
    (VmStatePatch.hardware cores memory net time).IsPositive := by
  obtain ⟨-, -, hcores, hmemory⟩ := HardwareConfig.usable_eq_some.mp husable
  constructor
  · rintro _ ⟨⟩
    exact ⟨cores, rfl, hcores⟩
  · rintro _ ⟨⟩
    exact ⟨memory, rfl, hmemory⟩

/-! ## The checks of one VM -/

def ProbeCall (vm : VmRow) : DriftCall → Prop
  | .base .getProxmoxClient => True
  | .base (.proxmoxGuestIpAddresses _ vmid) => vmid = vm.vmid
  | .base (.decrypt _) => True
  | .base (.credsMarkVerified vmId) => vmId = vm.id
  | .credsFindByVm vmId => vmId = vm.id
  | .hostKeysPolicy vmId _ _ => vmId = vm.id
  | .probeSsh _ => True
  | .getVmState vmId => vmId = vm.id
  | .upsertVmState vmId patch => vmId = vm.id ∧ patch.SparesHardware
  | _ => False

def CheckCall (vm : VmRow) : DriftCall → Prop
  | .qemuConfig _ vmid => vmid = vm.vmid
  | .upsertVmState vmId patch => vmId = vm.id ∧ patch.IsPositive
  | c => ProbeCall vm c

theorem ProbeCall.check {vm : VmRow} {c : DriftCall} (hc : ProbeCall vm c) : CheckCall vm c := by
  cases c with
  | upsertVmState vmId patch => exact ⟨hc.1, hc.2.isPositive⟩
  | qemuConfig node vmid => exact hc.elim
  | _ => exact hc

section checks

variable {vm : VmRow} {lr : DriftLiveResource} {now : Time}

theorem only_upsertProbe {okAt : Option Time} :
    Only (ProbeCall vm) (askDrift (.upsertVmState vm.id (.probe now okAt))) :=
  only_perform.mpr ⟨rfl, VmStatePatch.sparesHardware_probe now okAt⟩

theorem only_probeWith (ip : String) (cred : CredentialRow) :
    Only (ProbeCall vm) (probeWith vm ip now cred) := by
  refine Only.bind (only_perform.mpr trivial) fun password => Only.bind (only_perform.mpr rfl) fun _ => ?_
  refine Only.bind (only_perform.mpr trivial) fun result => ?_
  cases result.status with
  | authenticated =>
      exact Only.bind (only_perform.mpr rfl) fun _ => Only.bind only_upsertProbe fun _ => only_pure
  | authFailed => exact Only.bind only_upsertProbe fun _ => only_pure
  | connectionFailed => exact Only.bind only_upsertProbe fun _ => only_pure

theorem only_probeCredential (ip : String) : Only (ProbeCall vm) (probeCredential vm ip now) := by
  refine Only.bind (only_perform.mpr rfl) fun cred => ?_
  cases cred with
  | none => exact only_pure
  | some cred =>
      refine Only.tryCatch (only_probeWith ip cred) fun _ => ?_
      exact Only.bind (Only.tryCatch only_upsertProbe fun _ => only_pure) fun _ => only_pure

theorem only_checkIp (st : PassState) : Only (ProbeCall vm) (checkIp vm lr st) := by
  refine Only.ite (Only.bind (only_perform.mpr trivial) fun _ => ?_) only_pure
  refine Only.bind (only_perform.mpr rfl) fun agent => ?_
  split
  · exact only_pure
  · exact only_pure

theorem only_admitProbe (st : PassState) : Only (ProbeCall vm) (admitProbe now vm lr st) := by
  unfold admitProbe
  split
  · exact only_pure
  · exact Only.bind (only_perform.mpr rfl) fun state => Only.ite only_pure only_pure

theorem only_checkCredential (st : PassState) : Only (ProbeCall vm) (checkCredential now vm lr st) := by
  unfold checkCredential
  split
  · exact only_pure
  · next ip _ =>
      refine Only.ite (Only.bind (only_probeCredential ip) fun outcome => ?_) only_pure
      exact Only.ite only_pure only_pure

theorem only_checkHardware (st : PassState) : Only (CheckCall vm) (checkHardware now vm lr st) := by
  refine Only.bind (only_perform.mpr trivial) fun _ => Only.bind (only_perform.mpr rfl) fun cfg => ?_
  refine Only.bind (only_perform.mpr rfl) fun state => ?_
  split
  · exact only_pure
  · next cores memory husable =>
      have hpositive := VmStatePatch.isPositive_hardware husable (canonNet cfg.net) now
      exact Only.ite (Only.bind (only_perform.mpr ⟨rfl, hpositive⟩) fun _ => only_pure) only_pure

theorem only_checkStep {P : DriftCall → Prop} {vmId : VmId} {p : PassState → DriftTask PassState}
    (ck : Check) (hp : ∀ st, Only P (p st)) : Only P (Check.step vmId p ck) :=
  Only.ite only_pure (Only.tryCatch (Only.bind (hp _) fun _ => only_pure) fun _ => only_pure)

theorem only_checkVm (resources : List DriftLiveResource) (st : PassState) :
    Only (CheckCall vm) (checkVm now resources st vm) := by
  unfold checkVm
  split
  · exact only_pure
  · next lr _ =>
      have hprobe : ∀ {p : DriftTask PassState}, Only (ProbeCall vm) p → Only (CheckCall vm) p :=
        fun hp => hp.mono fun _ hc => hc.check
      refine Only.bind (only_checkStep _ fun st => only_checkHardware st) fun ck => ?_
      refine Only.bind (only_checkStep _ fun st => hprobe (only_checkIp st)) fun ck => ?_
      refine Only.bind (only_checkStep _ fun st => hprobe (only_admitProbe st)) fun ck => ?_
      exact Only.bind (only_checkStep _ fun st => hprobe (only_checkCredential st)) fun ck => only_pure

end checks

/-! ## The pass -/

def FrameCall : DriftCall → Prop
  | .base .getProxmoxClient => True
  | .settingsDriftEnabled => True
  | .settingsSetLastRun _ => True
  | .clusterResources => True
  | .vmsList => True
  | .jobsActiveJobVmIds => True
  | .guacListAllConnectionRecords => True
  | .findingByFingerprint _ => True
  | .newId => True
  | .insertFinding _ _ => True
  | .refreshFinding _ _ => True
  | .listActiveFindings => True
  | .autoResolveFindings _ _ => True
  | _ => False

def PassCall (c : DriftCall) : Prop := FrameCall c ∨ ∃ vm, CheckCall vm c

theorem only_skipPass (now : Time) (reason : SkipReason) : Only FrameCall (skipPass now reason) :=
  Only.ite only_pure (Only.bind (only_perform.mpr trivial) fun _ => only_pure)

theorem only_readCluster : Only FrameCall (attempt readCluster) := by
  refine Only.tryCatch (Only.bind ?_ fun _ => only_pure) fun _ => only_pure
  exact Only.bind (only_perform.mpr trivial) fun _ => only_perform.mpr trivial

theorem only_finishPass (now : Time) (recorded : List VmRow) (exemptIds : List VmId)
    (st : PassState) : Only FrameCall (finishPass now recorded exemptIds st) := by
  refine Only.bind (only_perform.mpr trivial) fun connections => ?_
  refine Only.bind ((only_applyFindings _ _).mono fun c hc => ?_) fun counts => ?_
  · cases c <;> trivial
  · exact Only.bind (only_perform.mpr trivial) fun _ => only_pure

theorem only_runDriftPass (now : Time) : Only PassCall (runDriftPass now) := by
  have hframe : ∀ {α : Type} {p : DriftTask α}, Only FrameCall p → Only PassCall p :=
    fun hp => hp.mono fun _ hc => .inl hc
  refine Only.bind (only_perform.mpr (.inl trivial)) fun setting =>
    Only.ite (Only.bind (hframe only_readCluster) fun listing => ?_) (hframe (only_skipPass _ _))
  cases listing with
  | error e => exact hframe (only_skipPass _ _)
  | ok raw =>
      refine Only.bind (only_perform.mpr (.inl trivial)) fun recorded => ?_
      refine Only.bind (only_perform.mpr (.inl trivial)) fun exemptIds => ?_
      refine Only.bind (Only.foldlM fun st vm => ?_) fun st => hframe (only_finishPass _ _ _ _)
      exact (only_checkVm _ st).mono fun _ hc => .inr ⟨vm, hc⟩

end ProxVM
