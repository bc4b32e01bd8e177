import ProxVM.Drift.Hardware

/-!
# Network hardware

A drift pass compares `cfg.net` of a guest's configuration.  `ProxmoxClient.qemuConfig` hands on what Proxmox replies,
and Proxmox has the devices in keys of their own: `net0`, `net1` and so on.

- `FlatVmConfig.net_eq_none`: so there is no `net` to compare.
-/

namespace ProxVM

open Tables Interaction

/-! ## The reply of Proxmox -/

inductive ConfigValue
  | number (n : Int)
  | text (s : String)
  /-- A list of records, each given by its JSON text. -/
  | devices (list : List String)
  deriving DecidableEq, Repr

structure FlatVmConfig where
  entries : List (String × ConfigValue)
  flat : "net" ∉ entries.map Prod.fst

namespace FlatVmConfig

/-- The network devices: the values of `net0`, `net1` and so on. -/
def nics (raw : FlatVmConfig) : List (String × ConfigValue) :=
  raw.entries.filter fun e => decide (e.1.toList.take 3 = ['n', 'e', 't']) && !(e.1.toList.drop 3).isEmpty &&
    (e.1.toList.drop 3).all Char.isDigit

/-- What a pass reads of it, with `Number`. -/
def hardware (number : ConfigValue → Option Int) (raw : FlatVmConfig) : HardwareConfig where
  cores := (raw.entries.lookup "cores").bind number
  memory := (raw.entries.lookup "memory").bind number
  net := match raw.entries.lookup "net" with
    | some (.devices list) => some list
    | _ => none

variable {number : ConfigValue → Option Int}

theorem net_eq_none (raw : FlatVmConfig) : (raw.hardware number).net = none := by
  have hlookup : raw.entries.lookup "net" = none := by
    rw [List.lookup_eq_none_iff]
    intro e he
    refine bne_iff_ne.mpr fun heq => raw.flat ?_
    rw [heq]
    exact List.mem_map_of_mem he
  simp only [hardware, hlookup]

end FlatVmConfig

/-- A read of a configuration replies with a flat one, and for the guest `vmid` with its own. -/
def DriftCall.RepliesRaw (number : ConfigValue → Option Int) (vmid : Nat) (raw : FlatVmConfig) :
    (c : DriftCall) → Except Failure c.Reply → Prop
  | .qemuConfig _ n, r => ∀ cfg, r = .ok cfg →
      ∃ raw' : FlatVmConfig, cfg = raw'.hardware number ∧ (n = vmid → raw' = raw)
  | _, _ => True

/-- Calls are served as ever while the guest `vmid` has the given configuration. -/
def servedRaw (number : ConfigValue → Option Int) (vmid : Nat) (raw : FlatVmConfig) :
    Service driftCalls Failure DriftWorld :=
  fun c w r w' => DriftServed c w r w' ∧ c.RepliesRaw number vmid raw r

def netFingerprint (v : VmId) : String := (Fingerprint.hw v "net").text

def DriftCall.ProducesNet (v : VmId) : DriftCall → Prop
  | .insertFinding _ d => d.fingerprint = netFingerprint v
  | .refreshFinding d _ => d.fingerprint = netFingerprint v
  | _ => False

def ProducesNet (v : VmId) (log : PassLog) : Prop := ∃ entry ∈ log, entry.1.ProducesNet v

/-! ## What a pass writes -/

def DriftCall.WritesNoNet : DriftCall → Prop
  | .upsertVmState _ patch => (∀ net, patch.netJson = some net → net = none) ∧
    (patch.cores.isSome = true → patch.netJson = some none)
  | _ => True

def DriftCall.RepliesNoNet : (c : DriftCall) → Except Failure c.Reply → Prop
  | .qemuConfig _ _, r => ∀ cfg, r = .ok cfg → cfg.net = none
  | _, _ => True

abbrev netless : Context driftCalls Failure Unit :=
  aloneOwing (fun c _ r _ => c.RepliesNoNet r) fun c _ => c.WritesNoNet

section programs

variable {α : Type} {p : DriftTask α} {vm : VmRow} {lr : DriftLiveResource} {now : Time}

theorem FrameCall.writesNoNet {c : DriftCall} (hc : FrameCall c) : c.WritesNoNet := by
  cases c <;> trivial

theorem netless_of_only (hp : Only DriftCall.WritesNoNet p) : netless.holds p (fun _ _ => True) () :=
  Context.holds_of_only (fun _ _ _ _ => trivial) (fun _ _ hc _ => hc) (fun _ _ _ _ _ _ _ => trivial) hp trivial

theorem writesNoNet_probe {okAt : Option Time} :
    Only DriftCall.WritesNoNet (askDrift (.upsertVmState vm.id (.probe now okAt))) := by
  refine only_perform.mpr ⟨?_, ?_⟩
  · intro net h
    cases h
  · intro h
    cases h

theorem writesNoNet_probeCredential (ip : String) : Only DriftCall.WritesNoNet (probeCredential vm ip now) := by
  refine Only.bind (only_perform.mpr trivial) fun cred => ?_
  cases cred with
  | none => exact only_pure
  | some cred =>
      refine Only.tryCatch ?_ fun _ => Only.bind (Only.tryCatch writesNoNet_probe fun _ => only_pure) fun _ => only_pure
      refine Only.bind (only_perform.mpr trivial) fun password => Only.bind (only_perform.mpr trivial) fun _ => ?_
      refine Only.bind (only_perform.mpr trivial) fun result => ?_
      cases result.status with
      | authenticated =>
          exact Only.bind (only_perform.mpr trivial) fun _ => Only.bind writesNoNet_probe fun _ => only_pure
      | authFailed => exact Only.bind writesNoNet_probe fun _ => only_pure
      | connectionFailed => exact Only.bind writesNoNet_probe fun _ => only_pure

theorem writesNoNet_checkIp (st : PassState) : Only DriftCall.WritesNoNet (checkIp vm lr st) := by
  refine Only.ite (Only.bind (only_perform.mpr trivial) fun _ => ?_) only_pure
  refine Only.bind (only_perform.mpr trivial) fun agent => ?_
  split
  · exact only_pure
  · exact only_pure

theorem writesNoNet_admitProbe (st : PassState) : Only DriftCall.WritesNoNet (admitProbe now vm lr st) := by
  unfold admitProbe
  split
  · exact only_pure
  · exact Only.bind (only_perform.mpr trivial) fun state => Only.ite only_pure only_pure

theorem writesNoNet_checkCredential (st : PassState) :
    Only DriftCall.WritesNoNet (checkCredential now vm lr st) := by
  unfold checkCredential
  split
  · exact only_pure
  · next ip _ =>
      refine Only.ite (Only.bind (writesNoNet_probeCredential ip) fun outcome => ?_) only_pure
      exact Only.ite only_pure only_pure

theorem netless_checkHardware (st : PassState) :
    netless.holds (checkHardware now vm lr st) (fun _ _ => True) () := by
  refine holds_aloneOwing_bind.mpr ⟨trivial, fun _ _ _ => ?_, fun _ _ _ => trivial⟩
  refine holds_aloneOwing_bind.mpr ⟨trivial, fun (cfg : HardwareConfig) _ hcfg => ?_, fun _ _ _ => trivial⟩
  have hnet : cfg.net = none := hcfg cfg rfl
  refine holds_aloneOwing_bind.mpr ⟨trivial, fun (state : Option VmStateRow) _ _ => ?_, fun _ _ _ => trivial⟩
  refine netless_of_only ?_
  split
  · exact only_pure
  · next cores memory _ =>
      rw [hnet]
      refine Only.ite (Only.bind (only_perform.mpr ⟨?_, fun _ => rfl⟩) fun _ => only_pure) only_pure
      intro net h
      exact (Option.some.inj h).symm

theorem netless_checkStep {vmId : VmId} {q : PassState → DriftTask PassState} (ck : Check)
    (hq : ∀ st, netless.holds (q st) (fun _ _ => True) ()) :
    netless.holds (Check.step vmId q ck) (fun _ _ => True) () := by
  refine Context.holds_ite.mpr ⟨fun _ => trivial, fun _ => Context.holds_tryCatch.mpr ?_⟩
  refine Context.holds_bind.mpr (Context.holds_mono (hq ck.state) ?_)
  rintro (e | st) s' -
  · trivial
  · trivial

theorem netless_bind {β : Type} {f : α → DriftTask β} (hp : netless.holds p (fun _ _ => True) ())
    (hf : ∀ a, netless.holds (f a) (fun _ _ => True) ()) : netless.holds (p >>= f) (fun _ _ => True) () :=
  Context.holds_bind_of (I := fun _ => True) hp (fun a _ _ => hf a) fun _ _ _ => trivial

theorem netless_checkVm (resources : List DriftLiveResource) (st : PassState) :
    netless.holds (checkVm now resources st vm) (fun _ _ => True) () := by
  unfold checkVm
  split
  · trivial
  · refine netless_bind (netless_checkStep _ fun st => netless_checkHardware st) fun ck => ?_
    refine netless_bind (netless_checkStep _ fun st => netless_of_only (writesNoNet_checkIp st)) fun ck => ?_
    refine netless_bind (netless_checkStep _ fun st => netless_of_only (writesNoNet_admitProbe st)) fun ck => ?_
    exact netless_bind (netless_checkStep _ fun st => netless_of_only (writesNoNet_checkCredential st)) fun ck => trivial

theorem netless_runDriftPass (now : Time) : netless.holds (runDriftPass now) (fun _ _ => True) () := by
  have hframe : ∀ {α : Type} {p : DriftTask α}, Only FrameCall p → netless.holds p (fun _ _ => True) () :=
    fun hp => netless_of_only (hp.mono fun _ hc => hc.writesNoNet)
  have hask : ∀ {c : DriftCall}, FrameCall c → netless.holds (askDrift c) (fun _ _ => True) () :=
    fun hc => hframe (only_perform.mpr hc)
  refine netless_bind (hask (c := .settingsDriftEnabled) trivial) fun setting => ?_
  refine Context.holds_ite.mpr ⟨fun _ => ?_, fun _ => hframe (only_skipPass _ _)⟩
  refine netless_bind (hframe only_readCluster) fun listing => ?_
  cases listing with
  | error e => exact hframe (only_skipPass _ _)
  | ok raw =>
      refine netless_bind (hask (c := .vmsList) trivial) fun recorded => ?_
      refine netless_bind (hask (c := .jobsActiveJobVmIds) trivial) fun exemptIds => ?_
      refine netless_bind ?_ fun st => hframe (only_finishPass _ _ _ _)
      refine Context.holds_foldlM (I := fun _ _ => True) (fun st vm _ s _ => ?_) (fun _ _ _ => trivial) trivial
      refine Context.holds_mono (netless_checkVm _ st) ?_
      rintro (e | st') s' -
      · trivial
      · trivial

end programs

/-! ## The stored devices -/

def DriftWorld.storedNet (w : DriftWorld) (v : VmId) : Option String := (w.vmState.find? v).bind VmStateRow.netJson

section served

variable {c : DriftCall} {v : VmId} {w w' : DriftWorld} {r : Except Failure c.Reply}

theorem vmState_of_served (hserved : DriftServed c w r w') : w'.vmState = w.vmState ∨
    ∃ vmId patch, c = .upsertVmState vmId patch ∧ w'.vmState = w.vmState.upsert vmId patch := by
  cases hwrites : c.writesVmState with
  | false => exact .inl (hserved.frame.vmState hwrites)
  | true =>
      cases c with
      | upsertVmState vmId patch =>
          obtain ⟨e, -, rfl⟩ | ⟨-, hstate⟩ := served_upsertVmState hserved
          · exact .inl rfl
          · exact .inr ⟨vmId, patch, rfl, hstate⟩
      | _ => cases hwrites

theorem VmStateRow.patched_netJson (row : VmStateRow) {patch : VmStatePatch}
    (hpatch : ∀ net, patch.netJson = some net → net = none) (hrow : row.netJson = none) :
    (row.patched patch).netJson = none := by
  have hnet : (row.patched patch).netJson = patch.netJson.getD row.netJson := rfl
  rw [hnet]
  cases hgiven : patch.netJson with
  | none => exact hrow
  | some net => exact hpatch net hgiven

theorem storedNet_of_served (hserved : DriftServed c w r w') (hc : c.WritesNoNet) (hw : w.storedNet v = none) :
    w'.storedNet v = none := by
  unfold DriftWorld.storedNet at hw ⊢
  obtain hsame | ⟨vmId, patch, rfl, hstate⟩ := vmState_of_served hserved
  · rw [hsame]
    exact hw
  · rw [hstate]
    by_cases hid : vmId = v
    · subst hid
      rw [VmStates.find?_upsert_self, Option.bind_some]
      refine VmStateRow.patched_netJson _ hc.1 ?_
      cases hrow : w.vmState.find? vmId with
      | none => rfl
      | some row =>
          rw [hrow] at hw
          exact hw
    · rw [VmStates.find?_upsert_of_ne _ _ hid]
      exact hw

theorem storedNet_of_stores (hserved : DriftServed c w r w') (hc : c.WritesNoNet)
    (hstores : c.storesHardware v r = true) : w'.storedNet v = none := by
  cases c with
  | upsertVmState vmId patch =>
      obtain ⟨e, rfl, -⟩ | ⟨rfl, hstate⟩ := served_upsertVmState hserved
      · cases hstores
      · obtain ⟨hid, hcores⟩ := Bool.and_eq_true_iff.mp hstores
        cases of_decide_eq_true hid
        have hnet : (((w.vmState.find? v).getD (.blank v)).patched patch).netJson = patch.netJson.getD _ := rfl
        unfold DriftWorld.storedNet
        rw [hstate, VmStates.find?_upsert_self, Option.bind_some, hnet, hc.2 hcores]
        rfl
  | _ => cases hstores

end served

/-! ## What a pass reports -/

section detector

variable {v : VmId} {vmName : String} {stored : Option HardwareSnapshot} {cores memory : Int} {d : Detected}

theorem detectHardwareDrift_net (hstored : stored.bind HardwareSnapshot.net = none)
    (hd : d ∈ detectHardwareDrift v vmName stored cores memory none) : d.fingerprint ≠ netFingerprint v := by
  rcases stored with _ | ⟨_ | baseCores, _ | baseMemory, net⟩
  · cases hd
  · cases hd
  · cases hd
  · cases hd
  · have hnet : net = none := hstored
    subst hnet
    simp only [detectHardwareDrift, hardwareFields, List.mem_map, List.mem_filter, decide_eq_true_eq] at hd
    obtain ⟨f, ⟨hf, hne⟩, rfl⟩ := hd
    intro heq
    have hsame : Fingerprint.hw v f.1 = Fingerprint.hw v "net" := Fingerprint.text_injective heq
    have hname : f.1 = "net" := (Fingerprint.hw.inj hsame).2
    simp only [List.mem_cons, List.not_mem_nil, or_false] at hf
    obtain rfl | rfl | rfl := hf
    · exact absurd hname (show ¬ ("cores" = "net") by decide)
    · exact absurd hname (show ¬ ("memoryMb" = "net") by decide)
    · exact hne rfl

theorem Supported.net_cases {log : PassLog} (h : Supported log d) (hd : d.fingerprint = netFingerprint v) :
    ∃ (vm : VmRow) (node : String) (cfg : HardwareConfig) (state : Option VmStateRow) (cores memory : Int),
      vm.id = v ∧ ⟨.qemuConfig node vm.vmid, .ok cfg⟩ ∈ log ∧ ⟨.getVmState vm.id, .ok state⟩ ∈ log ∧
      d ∈ detectHardwareDrift vm.id vm.name (state.map VmStateRow.snapshot) cores memory cfg.net := by
  obtain ⟨vm, dim, findings, hran, hmem⟩ := h
  obtain ⟨f, hf, hdim, -, howner⟩ := hran.shaped hmem
  have hsame : Fingerprint.hw v "net" = f := Fingerprint.text_injective (hd.symm.trans hf)
  subst hsame
  have hhw : dim = .hw := hdim.symm
  subst hhw
  obtain ⟨hguac, -⟩ | ⟨hid, -⟩ := howner
  · cases hguac
  · have hvm : v = vm.id := Option.some.inj hid
    cases hran with
    | hw hvm' hraw hlive hcfg hstate husable => exact ⟨vm, _, _, _, _, _, hvm.symm, hcfg, hstate, hmem⟩

end detector

structure Netless (v : VmId) (s : DriftWorld × PassLog) : Prop where
  stored : s.1.storedNet v = none
  read : ∀ state : Option VmStateRow, ⟨.getVmState v, .ok state⟩ ∈ s.2 → state.bind VmStateRow.netJson = none
  replied : ∀ node n (cfg : HardwareConfig), ⟨.qemuConfig node n, .ok cfg⟩ ∈ s.2 → cfg.net = none
  silent : ¬ ProducesNet v s.2

namespace Netless

variable {v : VmId} {s s' : DriftWorld × PassLog} {c : DriftCall} {r : Except Failure c.Reply}

theorem not_supported {d : Detected} (h : Netless v s) (hd : Supported s.2 d) : d.fingerprint ≠ netFingerprint v := by
  intro heq
  obtain ⟨vm, node, cfg, state, cores, memory, rfl, hcfg, hstate, hmem⟩ := hd.net_cases heq
  rw [h.replied _ _ _ hcfg] at hmem
  refine detectHardwareDrift_net ?_ hmem heq
  have hread := h.read state hstate
  cases state with
  | none => rfl
  | some row => exact hread

theorem step (h : Netless v s) (howes : PassOwes c s.2) (hc : c.WritesNoNet) (hhonest : c.RepliesNoNet r)
    (hserve : logging DriftServed c s r s') : Netless v s' := by
  obtain ⟨hserved, hlog⟩ := hserve
  refine ⟨storedNet_of_served hserved hc h.stored, ?_, ?_, ?_⟩
  · rw [hlog]
    intro state hmem
    obtain heq | hmem := List.mem_cons.mp hmem
    · cases heq
      obtain ⟨-, rfl⟩ := served_getVmState hserved
      exact h.stored
    · exact h.read state hmem
  · rw [hlog]
    intro node n cfg hmem
    obtain heq | hmem := List.mem_cons.mp hmem
    · cases heq
      exact hhonest cfg rfl
    · exact h.replied node n cfg hmem
  · rw [hlog]
    rintro ⟨entry, hmem, hproduces⟩
    obtain rfl | hmem := List.mem_cons.mp hmem
    · cases c with
      | insertFinding id d => exact h.not_supported howes.1 hproduces
      | refreshFinding d now => exact h.not_supported howes.1 hproduces
      | _ => cases hproduces
    · exact h.silent ⟨entry, hmem, hproduces⟩

end Netless

/-! ## Two passes -/

section passes

variable {number : ConfigValue → Option Int} {v : VmId} {vmid : Nat} {raw raw₁ raw₂ : FlatVmConfig}
  {now now₁ now₂ : Time} {w w₁ w₂ w' w₁' w₂' : DriftWorld} {log log₁ log₂ : PassLog}
  {r r₁ r₂ : Except Failure DriftPassResult}

theorem DriftCall.RepliesRaw.noNet {c : DriftCall} {r : Except Failure c.Reply} (h : c.RepliesRaw number vmid raw r) :
    c.RepliesNoNet r := by
  cases c with
  | qemuConfig node n =>
      intro cfg hcfg
      obtain ⟨raw', rfl, -⟩ := h cfg hcfg
      exact raw'.net_eq_none
  | _ => trivial

theorem storedNet_of_pass (hends : Ends (logging (servedRaw number vmid raw)) (runDriftPass now) (w, []) r (w', log))
    (hrebased : rebased v log = true) : w'.storedNet v = none := by
  refine hends.keeps_owing_both (I := fun s => rebased v s.2 = true → s.1.storedNet v = none) (pass_owes now)
    (netless_runDriftPass now) (fun c w r w' hserve => hserve.2.noNet) ?_ (fun h => by cases h) hrebased
  intro c s r s' howes hc hI hserve hrebased
  obtain ⟨hserved, hlog⟩ := hserve
  rw [hlog] at hrebased
  obtain hstores | hbefore := Bool.or_eq_true_iff.mp hrebased
  · exact storedNet_of_stores hserved.1 hc hstores
  · exact storedNet_of_served hserved.1 hc (hI hbefore)

theorem silent_of_pass (hends : Ends (logging (servedRaw number vmid raw)) (runDriftPass now) (w, []) r (w', log))
    (hstored : w.storedNet v = none) : ¬ ProducesNet v log := by
  have hnetless : Netless v (w', log) := by
    refine hends.keeps_owing_both (I := Netless v) (pass_owes now) (netless_runDriftPass now)
      (fun c w r w' hserve => hserve.2.noNet) ?_ ⟨hstored, ?_, ?_, ?_⟩
    · intro c s r s' howes hc hI hserve
      exact hI.step howes hc hserve.1.2.noNet ⟨hserve.1.1, hserve.2⟩
    · intro state hmem
      cases hmem
    · intro node n cfg hmem
      cases hmem
    · rintro ⟨entry, hmem, -⟩
      cases hmem
  exact hnetless.silent

/-- **Changed network devices go unseen.**  Where a pass has recorded the baseline of a VM, and the record is still
there, a pass that reads another configuration makes no finding about its network devices. -/
theorem network_drift_unseen
    (hfirst : Ends (logging (servedRaw number vmid raw₁)) (runDriftPass now₁) (w₁, []) r₁ (w₁', log₁))
    (hrecorded : rebased v log₁ = true) (hkept : w₂.vmState.find? v = w₁'.vmState.find? v)
    (hsecond : Ends (logging (servedRaw number vmid raw₂)) (runDriftPass now₂) (w₂, []) r₂ (w₂', log₂)) :
    ¬ ProducesNet v log₂ := by
  refine silent_of_pass hsecond ?_
  have hstored : w₁'.storedNet v = none := storedNet_of_pass hfirst hrecorded
  unfold DriftWorld.storedNet at hstored ⊢
  rw [hkept]
  exact hstored

end passes

/-! ## A guest that is moved to another bridge -/

/-- `Number` of a number. -/
def ConfigValue.plainNumber : ConfigValue → Option Int
  | .number n => some n
  | _ => none

def FlatVmConfig.bridged (bridge : String) : FlatVmConfig :=
  ⟨[("cores", .number 2), ("memory", .number 2048), ("net0", .text ("virtio=BC:24:11:00:00:01,bridge=" ++ bridge))],
    by simp⟩

theorem servedRaw_playLogged {vmid : Nat} {raw : FlatVmConfig} {c : DriftCall} {o o' : DriftWorld × PassLog}
    {r : Except Failure c.Reply}
    (hplay : DriftWorld.playLogged (.configured (raw.hardware ConfigValue.plainNumber)) c o = some (r, o')) :
    logging (servedRaw ConfigValue.plainNumber vmid raw) c o r o' := by
  refine ⟨⟨(logging_playLogged hplay).1, ?_⟩, (logging_playLogged hplay).2⟩
  cases c with
  | qemuConfig node n =>
      rintro cfg rfl
      obtain ⟨out, hout, heq⟩ := Option.map_eq_some_iff.mp hplay
      cases hout
      cases heq
      exact ⟨raw, rfl, fun _ => rfl⟩
  | _ => trivial

namespace FlatVmConfig

def drivenPass (raw : FlatVmConfig) (w : DriftWorld) (now : Time) :
    Prog driftCalls Failure DriftPassResult × DriftWorld × PassLog :=
  drive (DriftWorld.playLogged (.configured (raw.hardware ConfigValue.plainNumber))) 40 (runDriftPass now, (w, []))

theorem ends_drivenPass (raw : FlatVmConfig) (w : DriftWorld) (now : Time) (vmid : Nat)
    (hsucceeds : ((raw.drivenPass w now).1.result?.any fun r => r.toOption.isSome) = true) : ∃ result,
      Ends (logging (servedRaw ConfigValue.plainNumber vmid raw)) (runDriftPass now) (w, []) (.ok result)
        (raw.drivenPass w now).2 := by
  obtain ⟨r, hresult, hok⟩ := (Option.any_eq_true _ _).mp hsucceeds
  cases r with
  | error e => cases hok
  | ok result => exact ⟨result, ends_of_result (fun _ _ _ _ => servedRaw_playLogged) 40 hresult⟩

def sampleBridged : DriftWorld × PassLog := ((bridged "vmbr0").drivenPass .sample 1000).2

def sampleMoved : DriftWorld × PassLog := ((bridged "vmbr1").drivenPass sampleBridged.1 2000).2

theorem ends_sampleBridged : ∃ result,
    Ends (logging (servedRaw ConfigValue.plainNumber 500 (bridged "vmbr0"))) (runDriftPass 1000) (.sample, [])
      (.ok result) sampleBridged :=
  ends_drivenPass (bridged "vmbr0") .sample 1000 500 (by decide +kernel)

theorem ends_sampleMoved : ∃ result,
    Ends (logging (servedRaw ConfigValue.plainNumber 500 (bridged "vmbr1"))) (runDriftPass 2000)
      (sampleBridged.1, []) (.ok result) sampleMoved :=
  ends_drivenPass (bridged "vmbr1") sampleBridged.1 2000 500 (by decide +kernel)

end FlatVmConfig

open FlatVmConfig in
theorem network_drift_unseen_bridge : ¬ ProducesNet 30 sampleMoved.2 := by
  obtain ⟨result₁, hfirst⟩ := ends_sampleBridged
  obtain ⟨result₂, hsecond⟩ := ends_sampleMoved
  exact network_drift_unseen hfirst (by decide +kernel) rfl hsecond

open FlatVmConfig in
/-- The guest has moved to another bridge, and the second pass has read so. -/
theorem not_network_drift_seen :
    ¬ ∀ (number : ConfigValue → Option Int) (v : VmId) (vmid : Nat) (raw₁ raw₂ : FlatVmConfig)
      (counts : Int × Int) (w w₁ w₂ : DriftWorld) (now₁ now₂ : Time) (result₁ result₂ : DriftPassResult)
      (log₁ log₂ : PassLog),
      (raw₁.hardware number).usable = some counts → (raw₂.hardware number).usable = some counts →
      raw₁.nics ≠ raw₂.nics → NamesGuest v vmid w →
      Ends (logging (servedRaw number vmid raw₁)) (runDriftPass now₁) (w, []) (.ok result₁) (w₁, log₁) →
      rebased v log₁ = true →
      Ends (logging (servedRaw number vmid raw₂)) (runDriftPass now₂) (w₁, []) (.ok result₂) (w₂, log₂) →
      Compared v log₂ → ProducesNet v log₂ := by
  intro hclaim
  obtain ⟨result₁, hfirst⟩ := ends_sampleBridged
  obtain ⟨result₂, hsecond⟩ := ends_sampleMoved
  have hnamed : NamesGuest 30 500 .sample := HardwareState.sample_fresh.guest
  refine silent_of_pass hsecond (v := 30) (by decide +kernel) ?_
  exact hclaim ConfigValue.plainNumber 30 500 (bridged "vmbr0") (bridged "vmbr1") (2, 2048) .sample _ _ 1000 2000
    result₁ result₂ _ _ rfl rfl (by decide) hnamed hfirst (by decide +kernel) hsecond
    (compared_of_readsState (by decide +kernel))

end ProxVM
