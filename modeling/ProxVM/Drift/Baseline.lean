import ProxVM.Drift.Deletion

/-!
# The hardware baseline of one VM

What a drift pass makes of the hardware of one VM, when the configuration that Proxmox
reports for its guest does not change meanwhile (`servedOn`).
-/

namespace ProxVM

open Tables Interaction

/-! ## Fields -/

inductive HardwareField
  | cores
  | memoryMb
  deriving DecidableEq, Repr

namespace HardwareField

def name : HardwareField → String
  | cores => "cores"
  | memoryMb => "memoryMb"

def value : HardwareField → Int × Int → Int
  | cores, counts => counts.1
  | memoryMb, counts => counts.2

def fingerprint (field : HardwareField) (v : VmId) : String := (Fingerprint.hw v field.name).text

def Differs (field : HardwareField) (baseline : Option (Int × Int)) (live : Int × Int) : Prop :=
  ∃ base, baseline = some base ∧ field.value base ≠ field.value live

theorem not_differs_of_silent {field : HardwareField} {baseline : Option (Int × Int)}
    {live : Int × Int} (hsilent : baseline = none ∨ baseline = some live) :
    ¬ field.Differs baseline live := by
  rintro ⟨base, hbase, hne⟩
  obtain hnone | hsome := hsilent
  · rw [hnone] at hbase
    cases hbase
  · rw [hsome] at hbase
    cases hbase
    exact hne rfl

end HardwareField

def HardwareSnapshot.counts (snapshot : HardwareSnapshot) : Option (Int × Int) :=
  match snapshot.cores, snapshot.memoryMb with
  | some cores, some memoryMb => some (cores, memoryMb)
  | _, _ => none

def DriftWorld.baseline (w : DriftWorld) (v : VmId) : Option (Int × Int) :=
  (w.vmState.find? v).bind fun row => row.snapshot.counts

theorem DetailValue.toText_number_inj {m n : Int} :
    (DetailValue.number m).toText = (DetailValue.number n).toText ↔ m = n :=
  ⟨Text.intRepr_inj, fun h => by rw [h]⟩

section detector

variable {v : VmId} {vmName : String} {stored : Option HardwareSnapshot} {cores memory : Int}
  {net : Option (List String)}

theorem exists_hardwareFinding_iff {field : HardwareField} :
    (∃ d ∈ detectHardwareDrift v vmName stored cores memory net, d.fingerprint = field.fingerprint v) ↔
    field.Differs (stored.bind HardwareSnapshot.counts) (cores, memory) := by
  rcases stored with _ | ⟨_ | baseCores, _ | baseMemory, baseNet⟩
  · simp [detectHardwareDrift, HardwareField.Differs]
  · simp [detectHardwareDrift, HardwareField.Differs, HardwareSnapshot.counts]
  · simp [detectHardwareDrift, HardwareField.Differs, HardwareSnapshot.counts]
  · simp [detectHardwareDrift, HardwareField.Differs, HardwareSnapshot.counts]
  · have hname : ∀ {other : String} {before after : DetailValue},
        (hardwareFinding v vmName other before after).fingerprint = field.fingerprint v ↔
          other = field.name := by
      intro other before after
      constructor
      · intro heq
        have hsame : Fingerprint.hw v other = Fingerprint.hw v field.name :=
          Fingerprint.text_injective heq
        exact (Fingerprint.hw.inj hsame).2
      · rintro rfl
        rfl
    simp only [detectHardwareDrift, hardwareFields, List.mem_map, List.mem_filter,
      decide_eq_true_eq, HardwareField.Differs, HardwareSnapshot.counts, Option.bind_some]
    constructor
    · rintro ⟨_, ⟨f, ⟨hf, hne⟩, rfl⟩, hfp⟩
      rw [hname] at hfp
      refine ⟨_, rfl, fun hsame => hne ?_⟩
      simp only [List.mem_cons, List.not_mem_nil, or_false] at hf
      obtain rfl | rfl | rfl := hf
      · cases field with
        | cores => exact DetailValue.toText_number_inj.mpr hsame
        | memoryMb => exact absurd hfp (show ¬ ("cores" = "memoryMb") by decide)
      · cases field with
        | cores => exact absurd hfp (show ¬ ("memoryMb" = "cores") by decide)
        | memoryMb => exact DetailValue.toText_number_inj.mpr hsame
      · cases field with
        | cores => exact absurd hfp (show ¬ ("net" = "cores") by decide)
        | memoryMb => exact absurd hfp (show ¬ ("net" = "memoryMb") by decide)
    · rintro ⟨_, ⟨⟩, hne⟩
      cases field with
      | cores =>
          refine ⟨_, ⟨("cores", .number baseCores, .number cores), ⟨List.mem_cons_self, ?_⟩, rfl⟩,
            hname.mpr rfl⟩
          exact fun htext => hne (DetailValue.toText_number_inj.mp htext)
      | memoryMb =>
          refine ⟨_, ⟨("memoryMb", .number baseMemory, .number memory),
            ⟨List.mem_cons_of_mem _ List.mem_cons_self, ?_⟩, rfl⟩, hname.mpr rfl⟩
          exact fun htext => hne (DetailValue.toText_number_inj.mp htext)

theorem exists_hardwareFinding {field : HardwareField} (vmName : String) (net : Option (List String))
    (hdiffers : field.Differs (stored.bind HardwareSnapshot.counts) (cores, memory)) :
    ∃ d ∈ detectHardwareDrift v vmName stored cores memory net, d.fingerprint = field.fingerprint v :=
  exists_hardwareFinding_iff.mpr hdiffers

theorem silent_of_detectHardwareDrift (hnone : detectHardwareDrift v vmName stored cores memory net = []) :
    stored.bind HardwareSnapshot.counts = none ∨
      stored.bind HardwareSnapshot.counts = some (cores, memory) := by
  have hsame : ∀ field : HardwareField,
      ¬ field.Differs (stored.bind HardwareSnapshot.counts) (cores, memory) := by
    intro field hdiffers
    obtain ⟨d, hd, -⟩ := exists_hardwareFinding vmName net hdiffers
    rw [hnone] at hd
    exact absurd hd List.not_mem_nil
  cases hbase : stored.bind HardwareSnapshot.counts with
  | none => exact .inl rfl
  | some base =>
      rw [hbase] at hsame
      have hcores : base.1 = cores := not_not.mp fun hne => hsame .cores ⟨base, rfl, hne⟩
      have hmemory : base.2 = memory := not_not.mp fun hne => hsame .memoryMb ⟨base, rfl, hne⟩
      rw [← hcores, ← hmemory]
      exact .inr rfl

end detector

/-! ## The setting -/

structure UsableHardware where
  config : HardwareConfig
  counts : Int × Int
  usable : config.usable = some counts

def DriftCall.IsHonest (vmid : Nat) (config : HardwareConfig) :
    (c : DriftCall) → Except Failure c.Reply → Prop
  | .qemuConfig _ n, r => n = vmid → ∀ cfg, r = .ok cfg → cfg = config
  | _, _ => True

/-- Calls are served as ever while the guest `vmid` has the given hardware. -/
def servedOn (vmid : Nat) (hw : UsableHardware) : Service driftCalls Failure DriftWorld :=
  fun c w r w' => DriftServed c w r w' ∧ c.IsHonest vmid hw.config r

abbrev watching (vmid : Nat) (hw : UsableHardware) :
    Service driftCalls Failure (DriftWorld × PassLog) := logging (servedOn vmid hw)

/-! ## What the log says of the VM -/

/-- The pass has read the stored baseline of the VM, which it does right after the
configuration of its guest. -/
def Compared (v : VmId) (log : PassLog) : Prop := ∃ state, ⟨.getVmState v, .ok state⟩ ∈ log

def DriftCall.storesHardware (v : VmId) : (c : DriftCall) → Except Failure c.Reply → Bool
  | .upsertVmState vmId patch, .ok _ => decide (vmId = v) && patch.cores.isSome
  | _, _ => false

def rebased (v : VmId) (log : PassLog) : Bool := log.any fun entry => entry.1.storesHardware v entry.2

def DriftCall.concerns (v : VmId) (vmid : Nat) : DriftCall → Bool
  | .base .getProxmoxClient => true
  | .base (.proxmoxGuestIpAddresses _ n) => decide (n = vmid)
  | .qemuConfig _ n => decide (n = vmid)
  | .getVmState vmId => decide (vmId = v)
  | .upsertVmState vmId patch => decide (vmId = v) && patch.cores.isSome
  | .credsFindByVm vmId => decide (vmId = v)
  | _ => false

def Fails (v : VmId) (vmid : Nat) (log : PassLog) : Prop :=
  ∃ c e, ⟨c, .error e⟩ ∈ log ∧ c.concerns v vmid = true

def PartialView (log : PassLog) : Prop :=
  ∃ raw recorded exemptIds, ⟨.clusterResources, .ok raw⟩ ∈ log ∧ ⟨.vmsList, .ok recorded⟩ ∈ log ∧
    ⟨.jobsActiveJobVmIds, .ok exemptIds⟩ ∈ log ∧
    clusterViewLooksDegraded (activeVms recorded exemptIds).length
      (detectDeletedVms (activeVms recorded exemptIds) (allQemuResources raw)).length = true

def DriftCall.SparesBaseline (v : VmId) : DriftCall → Prop
  | .upsertVmState vmId patch => vmId = v → patch.SparesHardware
  | _ => True

def DriftCall.SkipsBaseline (v : VmId) : DriftCall → Prop
  | .upsertVmState vmId _ => vmId ≠ v
  | .getVmState vmId => vmId ≠ v
  | _ => True

theorem DriftCall.SkipsBaseline.spares {v : VmId} {c : DriftCall} (hc : c.SkipsBaseline v) :
    c.SparesBaseline v := by
  cases c with
  | upsertVmState vmId patch => exact fun heq => absurd heq hc
  | _ => trivial

section log

variable {v : VmId} {vmid : Nat} {hw : UsableHardware} {c : DriftCall}

variable {log log' : PassLog} {w w' : DriftWorld}

theorem compared_cons {r : Except Failure c.Reply} (hc : c.SkipsBaseline v)
    (h : Compared v (⟨c, r⟩ :: log)) : Compared v log := by
  obtain ⟨state, hmem⟩ := h
  obtain heq | hmem := List.mem_cons.mp hmem
  · cases heq
    exact absurd rfl hc
  · exact ⟨state, hmem⟩

theorem rebased_cons {r : Except Failure c.Reply} (hc : c.SparesBaseline v) :
    rebased v (⟨c, r⟩ :: log) = rebased v log := by
  have hnot : c.storesHardware v r = false := by
    cases c with
    | upsertVmState vmId patch =>
        cases r with
        | error e => rfl
        | ok a =>
            by_cases hid : vmId = v
            · have hcores : patch.cores = none := (hc hid).cores
              simp [DriftCall.storesHardware, hcores]
            · simp [DriftCall.storesHardware, hid]
    | _ => rfl
  unfold rebased
  rw [List.any_cons, hnot, Bool.false_or]

theorem Compared.mono (h : Compared v log) (hlog : log ⊆ log') : Compared v log' := by
  obtain ⟨state, hmem⟩ := h
  exact ⟨state, hlog hmem⟩

theorem Fails.mono (h : Fails v vmid log) (hlog : log ⊆ log') : Fails v vmid log' := by
  obtain ⟨c, e, hmem, hc⟩ := h
  exact ⟨c, e, hlog hmem, hc⟩

theorem PartialView.mono (h : PartialView log) (hlog : log ⊆ log') : PartialView log' := by
  obtain ⟨raw, recorded, exemptIds, hraw, hrecorded, hexempt, hdegraded⟩ := h
  exact ⟨raw, recorded, exemptIds, hlog hraw, hlog hrecorded, hlog hexempt, hdegraded⟩

theorem served_getVmState {state : Option VmStateRow}
    (hserved : DriftServed (.getVmState v) w (.ok state) w') : w' = w ∧ state = w.vmState.find? v := by
  obtain ⟨e, he, -⟩ | ⟨given, hanswer⟩ := hserved.cases rfl
  · cases he
  · cases hanswer
    exact ⟨rfl, rfl⟩

theorem served_upsertVmState {vmId : VmId} {patch : VmStatePatch}
    {r : Except Failure Unit} (hserved : DriftServed (.upsertVmState vmId patch) w r w') :
    (∃ e, r = .error e ∧ w' = w) ∨ r = .ok () ∧ w'.vmState = w.vmState.upsert vmId patch := by
  obtain ⟨e, rfl, rfl⟩ | ⟨given, hanswer⟩ := hserved.cases rfl
  · exact .inl ⟨e, rfl, rfl⟩
  · change DriftWorld.upsertVmState _ _ _ = _ at hanswer
    unfold DriftWorld.upsertVmState at hanswer
    split at hanswer
    · cases hanswer
      exact .inr ⟨rfl, rfl⟩
    · cases hanswer
      exact .inl ⟨_, rfl, rfl⟩

theorem DriftServed.baseline_eq {r : Except Failure c.Reply}
    (hserved : DriftServed c w r w') (hc : c.SparesBaseline v) : w'.baseline v = w.baseline v := by
  unfold DriftWorld.baseline
  cases hwrites : c.writesVmState with
  | false => rw [hserved.frame.vmState hwrites]
  | true =>
      cases c with
      | upsertVmState vmId patch =>
          obtain ⟨e, -, rfl⟩ | ⟨-, hstate⟩ := served_upsertVmState hserved
          · rfl
          · rw [hstate]
            by_cases hid : vmId = v
            · subst hid
              obtain ⟨hcores, hmemory⟩ := hc rfl
              rw [VmStates.find?_upsert_self]
              cases w.vmState.find? vmId with
              | none =>
                  simp [VmStateRow.patched, VmStateRow.blank, VmStateRow.snapshot,
                    HardwareSnapshot.counts, hcores, hmemory]
              | some row =>
                  simp [VmStateRow.patched, VmStateRow.snapshot, HardwareSnapshot.counts, hcores,
                    hmemory]
            · rw [VmStates.find?_upsert_of_ne _ _ hid]
      | _ => cases hwrites

/-! ### Programs that leave the baseline alone -/

variable {α : Type} {p : DriftTask α} {s s' : DriftWorld × PassLog} {r : Except Failure α}

theorem baseline_of_ends (hends : Ends (watching vmid hw) p s r s')
    (hp : Only (DriftCall.SparesBaseline v) p) :
    s'.1.baseline v = s.1.baseline v ∧ rebased v s'.2 = rebased v s.2 := by
  refine hends.keeps (I := fun s' => s'.1.baseline v = s.1.baseline v ∧
    rebased v s'.2 = rebased v s.2) hp ?_ ⟨rfl, rfl⟩
  rintro c s₁ r₁ s₂ hc ⟨hbase, hlog⟩ hserve
  rw [hserve.1.1.baseline_eq hc, hserve.2, rebased_cons hc]
  exact ⟨hbase, hlog⟩

theorem compared_of_ends (hends : Ends (watching vmid hw) p s r s')
    (hp : Only (DriftCall.SkipsBaseline v) p) (h : Compared v s'.2) : Compared v s.2 := by
  refine hends.keeps (I := fun s' => Compared v s'.2 → Compared v s.2) hp ?_ (fun h => h) h
  intro c s₁ r₁ s₂ hc hback hserve h₂
  rw [hserve.2] at h₂
  exact hback (compared_cons hc h₂)

theorem findings_of_ends (hends : Ends (watching vmid hw) p s r s')
    (hp : Only (fun c : DriftCall => c.writesFindings = false) p) : s'.1.findings = s.1.findings := by
  refine hends.keeps (I := fun s' => s'.1.findings = s.1.findings) hp ?_ rfl
  intro c s₁ r₁ s₂ hc hsame hserve
  rw [hserve.1.1.frame.findings hc, hsame]

theorem fails_of_ask {e : Failure} {c : DriftCall}
    (hends : Ends (watching vmid hw) (askDrift c) s (.error e) s') (hc : c.concerns v vmid = true) :
    Fails v vmid s'.2 := by
  have hserve := ends_perform.mp hends
  refine ⟨c, e, ?_, hc⟩
  rw [hserve.2]
  exact List.mem_cons_self

end log

/-! ## What the other checks gather -/

structure Beside (v : VmId) (st st' : PassState) : Prop where
  subset : st.detected ⊆ st'.detected
  new : ∀ d ∈ st'.detected,
    d ∈ st.detected ∨ ∀ field : HardwareField, d.fingerprint ≠ field.fingerprint v
  marks : .hw ∈ st'.unrefined v → .hw ∈ st.unrefined v

section beside

variable {v : VmId} {st st' st'' : PassState}

theorem Beside.refl (st : PassState) : Beside v st st where
  subset := fun _ hd => hd
  new := fun _ hd => .inl hd
  marks := fun h => h

theorem Beside.trans (h : Beside v st st') (h' : Beside v st' st'') : Beside v st st'' where
  subset := fun _ hd => h'.subset (h.subset hd)
  new := fun d hd => (h'.new d hd).elim (h.new d) .inr
  marks := fun hmark => h.marks (h'.marks hmark)

theorem Beside.push (h : Beside v st st') {findings : List Detected}
    (hother : ∀ d ∈ findings, ∀ field : HardwareField, d.fingerprint ≠ field.fingerprint v) :
    Beside v st (st'.push findings) where
  subset := fun _ hd => List.mem_append_left _ (h.subset hd)
  new := fun d hd => (List.mem_append.mp hd).elim (h.new d) fun hnew => .inr (hother d hnew)
  marks := h.marks

theorem Beside.mark (h : Beside v st st') {vmId : VmId} {dimensions : List DriftDimension}
    (hother : vmId = v → .hw ∉ dimensions) : Beside v st (st'.mark vmId dimensions) where
  subset := h.subset
  new := h.new
  marks := by
    intro hmark
    obtain hold | ⟨rfl, hnew⟩ := mem_markUnrefined.mp hmark
    · exact h.marks hold
    · exact absurd hnew (hother rfl)

theorem fingerprint_ne_of_ne {f : Fingerprint} {field : HardwareField}
    (hne : f ≠ .hw v field.name) : f.text ≠ field.fingerprint v :=
  fun heq => hne (Fingerprint.text_injective heq)

variable {vmid : Nat} {hw : UsableHardware} {vm : VmRow} {lr : DriftLiveResource} {now : Time}
  {s s' : DriftWorld × PassLog}

theorem beside_checkIp (hends : Ends (watching vmid hw) (checkIp vm lr st) s (.ok st') s') :
    Beside v st st' := by
  have hmark : Beside v st (st.mark vm.id [.ip]) := (Beside.refl st).mark fun _ => by decide
  unfold checkIp at hends
  split at hends
  · obtain ⟨_, s₁, -, hends⟩ := hends.of_bind_ok
    obtain ⟨agent, s₂, -, hends⟩ := hends.of_bind_ok
    cases hip : presentText (agent.bind fun info => selectUsableIpv4 info.ipv4s) with
    | none =>
        simp only [hip] at hends
        obtain ⟨rfl, -⟩ := hends.of_pure_ok
        exact hmark
    | some liveIp =>
        simp only [hip] at hends
        obtain ⟨rfl, -⟩ := hends.of_pure_ok
        refine (Beside.refl st).push fun d hd field => ?_
        obtain ⟨old, new, rfl⟩ := mem_detectIpDrift hd
        exact fingerprint_ne_of_ne (f := .ip vm.id) nofun
  · obtain ⟨rfl, -⟩ := hends.of_pure_ok
    exact hmark

theorem beside_admitProbe (hends : Ends (watching vmid hw) (admitProbe now vm lr st) s (.ok st') s') :
    Beside v st st' := by
  have hmark : Beside v st (st.mark vm.id [.credential]) := (Beside.refl st).mark fun _ => by decide
  unfold admitProbe at hends
  split at hends
  · obtain ⟨rfl, -⟩ := hends.of_pure_ok
    exact hmark
  · obtain ⟨state, s₁, -, hends⟩ := hends.of_bind_ok
    split at hends
    · obtain ⟨rfl, -⟩ := hends.of_pure_ok
      exact ⟨fun _ hd => hd, fun _ hd => .inl hd, fun h => h⟩
    · obtain ⟨rfl, -⟩ := hends.of_pure_ok
      exact hmark

variable {ip : String} {outcome : ProbeOutcome} {e : Failure}

theorem findings_of_probeWith {cred : CredentialRow}
    (hends : Ends (watching vmid hw) (probeWith vm ip now cred) s (.ok outcome) s') :
    ∀ d ∈ outcome.findings, d.fingerprint = (Fingerprint.credential vm.id).text := by
  obtain ⟨password, s₁, -, hends⟩ := hends.of_bind_ok
  obtain ⟨_, s₂, -, hends⟩ := hends.of_bind_ok
  obtain ⟨result, s₃, -, hends⟩ := hends.of_bind_ok
  cases hstatus : result.status with
  | authenticated =>
      simp only [hstatus] at hends
      obtain ⟨_, s₄, -, hends⟩ := hends.of_bind_ok
      obtain ⟨_, s₅, -, hends⟩ := hends.of_bind_ok
      obtain ⟨rfl, -⟩ := hends.of_pure_ok
      exact fun d hd => absurd hd List.not_mem_nil
  | authFailed =>
      simp only [hstatus] at hends
      obtain ⟨_, s₄, -, hends⟩ := hends.of_bind_ok
      obtain ⟨rfl, -⟩ := hends.of_pure_ok
      intro d hd
      rw [List.mem_singleton.mp hd]
      exact credentialFinding_fingerprint _ _ _ _
  | connectionFailed =>
      simp only [hstatus] at hends
      obtain ⟨_, s₄, -, hends⟩ := hends.of_bind_ok
      obtain ⟨rfl, -⟩ := hends.of_pure_ok
      exact fun d hd => absurd hd List.not_mem_nil

theorem findings_of_probeCredential
    (hends : Ends (watching vmid hw) (probeCredential vm ip now) s (.ok outcome) s') :
    ∀ d ∈ outcome.findings, d.fingerprint = (Fingerprint.credential vm.id).text := by
  obtain ⟨cred, s₁, -, hends⟩ := hends.of_bind_ok
  cases cred with
  | none =>
      obtain ⟨rfl, -⟩ := hends.of_pure_ok
      exact fun d hd => absurd hd List.not_mem_nil
  | some cred =>
      obtain ⟨a, ha, hends⟩ | ⟨e, s₂, -, hends⟩ := Ends.of_tryCatch hends
      · cases ha
        exact findings_of_probeWith hends
      · obtain ⟨_, s₃, -, hends⟩ := hends.of_bind_ok
        obtain ⟨rfl, -⟩ := hends.of_pure_ok
        exact fun d hd => absurd hd List.not_mem_nil

theorem beside_checkCredential
    (hends : Ends (watching vmid hw) (checkCredential now vm lr st) s (.ok st') s') : Beside v st st' := by
  unfold checkCredential at hends
  split at hends
  · obtain ⟨rfl, -⟩ := hends.of_pure_ok
    exact .refl _
  · split at hends
    · obtain ⟨outcome, s₁, hprobe, hends⟩ := hends.of_bind_ok
      have hpush : Beside v st (st.push outcome.findings) := by
        refine (Beside.refl st).push fun d hd field => ?_
        rw [findings_of_probeCredential hprobe d hd]
        exact fingerprint_ne_of_ne nofun
      split at hends
      · obtain ⟨rfl, -⟩ := hends.of_pure_ok
        exact hpush
      · obtain ⟨rfl, -⟩ := hends.of_pure_ok
        exact hpush.mark fun _ => by decide
    · obtain ⟨rfl, -⟩ := hends.of_pure_ok
      exact .refl _

/-! ### Failures -/

theorem not_ends_pure_error {α : Type} {a : α} :
    ¬ Ends (watching vmid hw) (pure a : DriftTask α) s (.error e) s' := by
  intro hends
  obtain ⟨he, -⟩ := ends_pure.mp hends
  cases he

theorem fails_of_checkIp (hvmid : vm.vmid = vmid)
    (hends : Ends (watching vmid hw) (checkIp vm lr st) s (.error e) s') : Fails v vmid s'.2 := by
  unfold checkIp at hends
  split at hends
  · obtain ⟨_, s₁, -, hends⟩ | ⟨e', -, hclient⟩ := hends.of_bind
    · obtain ⟨agent, s₂, -, hends⟩ | ⟨e', -, hagent⟩ := hends.of_bind
      · split at hends
        · exact (not_ends_pure_error hends).elim
        · exact (not_ends_pure_error hends).elim
      · exact fails_of_ask hagent (decide_eq_true hvmid)
    · exact fails_of_ask hclient rfl
  · exact (not_ends_pure_error hends).elim

theorem fails_of_admitProbe (hid : vm.id = v)
    (hends : Ends (watching vmid hw) (admitProbe now vm lr st) s (.error e) s') : Fails v vmid s'.2 := by
  unfold admitProbe at hends
  split at hends
  · exact (not_ends_pure_error hends).elim
  · obtain ⟨state, s₁, -, hends⟩ | ⟨e', -, hstate⟩ := hends.of_bind
    · split at hends
      · exact (not_ends_pure_error hends).elim
      · exact (not_ends_pure_error hends).elim
    · exact fails_of_ask hstate (decide_eq_true hid)

theorem fails_of_probeCredential (hid : vm.id = v)
    (hends : Ends (watching vmid hw) (probeCredential vm ip now) s (.error e) s') : Fails v vmid s'.2 := by
  obtain ⟨cred, s₁, -, hends⟩ | ⟨e', -, hcred⟩ := hends.of_bind
  · cases cred with
    | none => exact (not_ends_pure_error hends).elim
    | some cred =>
        obtain ⟨a, ha, -⟩ | ⟨e', s₂, -, hends⟩ := Ends.of_tryCatch hends
        · cases ha
        · obtain ⟨_, s₃, -, hends⟩ | ⟨e'', -, hcaught⟩ := hends.of_bind
          · exact (not_ends_pure_error hends).elim
          · obtain ⟨a, ha, -⟩ | ⟨e₃, s₃, -, hends⟩ := hcaught.of_tryCatch
            · cases ha
            · exact (not_ends_pure_error hends).elim
  · exact fails_of_ask hcred (decide_eq_true hid)

theorem fails_of_checkCredential (hid : vm.id = v)
    (hends : Ends (watching vmid hw) (checkCredential now vm lr st) s (.error e) s') : Fails v vmid s'.2 := by
  unfold checkCredential at hends
  split at hends
  · exact (not_ends_pure_error hends).elim
  · split at hends
    · obtain ⟨outcome, s₁, -, hends⟩ | ⟨e', -, hprobe⟩ := hends.of_bind
      · split at hends
        · exact (not_ends_pure_error hends).elim
        · exact (not_ends_pure_error hends).elim
      · exact fails_of_probeCredential hid hprobe
    · exact (not_ends_pure_error hends).elim

end beside

/-! ## The hardware check -/

def Advanced (v : VmId) (base : Option (Int × Int)) (live : Int × Int)
    (s : DriftWorld × PassLog) : Prop :=
  (s.1.baseline v = base ∧ rebased v s.2 = false) ∨
    (base = none ∨ base = some live) ∧ s.1.baseline v = some live ∧ rebased v s.2 = true

structure Reports (v : VmId) (base : Option (Int × Int)) (live : Int × Int) (st st' : PassState) :
    Prop where
  reported : ∀ field : HardwareField, field.Differs base live →
    ∃ d ∈ st'.detected, d.fingerprint = field.fingerprint v
  new : ∀ d ∈ st'.detected, d ∈ st.detected ∨
    ∀ field : HardwareField, d.fingerprint = field.fingerprint v → field.Differs base live
  marks : .hw ∈ st'.unrefined v → .hw ∈ st.unrefined v

def HardwareJudged (v : VmId) (vmid : Nat) (base : Option (Int × Int)) (live : Int × Int)
    (st : PassState) : Except Failure PassState → DriftWorld × PassLog → Prop
  | .ok st', s' => Compared v s'.2 ∧ Reports v base live st st'
  | .error _, s' => Fails v vmid s'.2 ∧
      (Compared v s'.2 → ∀ field : HardwareField, ¬ field.Differs base live)

section hardware

variable {v : VmId} {vmid : Nat} {hw : UsableHardware} {vm : VmRow} {lr : DriftLiveResource}
  {now : Time} {st st' : PassState} {s s' : DriftWorld × PassLog}

variable {live : Int × Int}

theorem reports_of_silent {base : Option (Int × Int)}
    (hsilent : base = none ∨ base = some live) : Reports v base live st st where
  reported := fun _ hdiffers => absurd hdiffers (HardwareField.not_differs_of_silent hsilent)
  new := fun _ hd => .inl hd
  marks := fun h => h

theorem reports_of_push {vmName : String} {stored : Option HardwareSnapshot}
    {net : Option (List String)} : Reports v (stored.bind HardwareSnapshot.counts) live st
      (st.push (detectHardwareDrift v vmName stored live.1 live.2 net)) where
  reported := by
    intro field hdiffers
    obtain ⟨d, hd, hfp⟩ := exists_hardwareFinding vmName net hdiffers
    exact ⟨d, List.mem_append_right _ hd, hfp⟩
  new := fun d hd => (List.mem_append.mp hd).imp_right fun hnew _ hfp =>
    exists_hardwareFinding_iff.mp ⟨d, hnew, hfp⟩
  marks := fun h => h

theorem baseline_of_upsert {cores memory : Int} {net : Option String} {time : Time} {w w' : DriftWorld}
    (hserved : DriftServed (.upsertVmState v (.hardware cores memory net time)) w (.ok ()) w') :
    w'.baseline v = some (cores, memory) := by
  obtain ⟨e, he, -⟩ | ⟨-, hstate⟩ := served_upsertVmState hserved
  · cases he
  · unfold DriftWorld.baseline
    rw [hstate, VmStates.find?_upsert_self]
    rfl

structure Unread (v : VmId) (base : Option (Int × Int)) (s : DriftWorld × PassLog) : Prop where
  baseline : s.1.baseline v = base
  unwritten : rebased v s.2 = false
  unread : ¬ Compared v s.2

theorem Unread.after {base : Option (Int × Int)} {α : Type} {p : DriftTask α}
    {r : Except Failure α} (h : Unread v base s) (hends : Ends (watching vmid hw) p s r s')
    (hp : Only (DriftCall.SkipsBaseline v) p) : Unread v base s' := by
  obtain ⟨hbase, hlog⟩ := baseline_of_ends hends (hp.mono fun _ hc => hc.spares)
  refine ⟨hbase.trans h.baseline, hlog.trans h.unwritten, fun hread => h.unread ?_⟩
  exact compared_of_ends hends hp hread

theorem Unread.advanced {base : Option (Int × Int)} (h : Unread v base s) : Advanced v base live s :=
  .inl ⟨h.baseline, h.unwritten⟩

theorem Unread.failed {base : Option (Int × Int)} {e : Failure}
    (h : Unread v base s) (hfails : Fails v vmid s.2) : HardwareJudged v vmid base live st (.error e) s :=
  ⟨hfails, fun hread => absurd hread h.unread⟩

theorem judged_of_compare {base : Option (Int × Int)} {state : Option VmStateRow}
    {r : Except Failure PassState} (hstored : s.1.baseline v = base)
    (hstate : (state.map VmStateRow.snapshot).bind HardwareSnapshot.counts = base)
    (hread : Compared v s.2) (hunwritten : rebased v s.2 = false) (hends : Ends (watching vmid hw)
      (if detectHardwareDrift v vm.name (state.map VmStateRow.snapshot) hw.counts.1 hw.counts.2
          hw.config.net = [] then do
        askDrift (.upsertVmState v
          (.hardware hw.counts.1 hw.counts.2 (canonNet hw.config.net) now))
        pure st
      else
        pure (st.push (detectHardwareDrift v vm.name (state.map VmStateRow.snapshot) hw.counts.1
          hw.counts.2 hw.config.net))) s r s') :
    Advanced v base hw.counts s' ∧ HardwareJudged v vmid base hw.counts st r s' := by
  split at hends
  · next hnone =>
      have hsilent := silent_of_detectHardwareDrift hnone
      rw [hstate] at hsilent
      obtain ⟨_, s₁, hwrite, hends⟩ | ⟨e, rfl, hwrite⟩ := hends.of_bind
      · obtain ⟨⟨hserved, -⟩, hlog⟩ := ends_perform.mp hwrite
        obtain ⟨rfl, rfl⟩ := ends_pure.mp hends
        have hrebased : rebased v s'.2 = true := by
          rw [hlog]
          simp [rebased, DriftCall.storesHardware, VmStatePatch.hardware]
        refine ⟨.inr ⟨hsilent, baseline_of_upsert hserved, hrebased⟩, ?_, reports_of_silent hsilent⟩
        exact hread.mono hwrite.subset_log
      · obtain ⟨⟨hserved, -⟩, hlog⟩ := ends_perform.mp hwrite
        have hsame : s'.1 = s.1 := by
          obtain ⟨_, -, hsame⟩ | ⟨hr, -⟩ := served_upsertVmState hserved
          · exact hsame
          · cases hr
        have hunwritten' : rebased v s'.2 = false := by
          rw [hlog]
          exact hunwritten
        refine ⟨.inl ⟨by rw [hsame, hstored], hunwritten'⟩, fails_of_ask hwrite ?_,
          fun _ _ => HardwareField.not_differs_of_silent hsilent⟩
        simp [DriftCall.concerns, VmStatePatch.hardware]
  · obtain ⟨rfl, rfl⟩ := ends_pure.mp hends
    refine ⟨.inl ⟨hstored, hunwritten⟩, hread, ?_⟩
    rw [← hstate]
    exact reports_of_push

theorem judged_of_checkHardware {base : Option (Int × Int)} {r : Except Failure PassState}
    (hid : vm.id = v) (hvmid : vm.vmid = vmid) (hunread : Unread v base s)
    (hends : Ends (watching vmid hw) (checkHardware now vm lr st) s r s') :
    Advanced v base hw.counts s' ∧ HardwareJudged v vmid base hw.counts st r s' := by
  subst hid
  obtain ⟨_, s₁, hclient, hends⟩ | ⟨e, rfl, hclient⟩ := hends.of_bind
  · have hunread₁ := hunread.after hclient (only_perform.mpr trivial)
    obtain ⟨cfg, s₂, hcfg, hends⟩ | ⟨e, rfl, hcfg⟩ := hends.of_bind
    · have hunread₂ := hunread₁.after hcfg (only_perform.mpr trivial)
      have hlive : cfg = hw.config := (ends_perform.mp hcfg).1.2 hvmid cfg rfl
      subst hlive
      obtain ⟨state, s₃, hstate, hends⟩ | ⟨e, rfl, hstate⟩ := hends.of_bind
      · obtain ⟨⟨hserved, -⟩, hlog⟩ := ends_perform.mp hstate
        obtain ⟨hworld, rfl⟩ := served_getVmState hserved
        have hstored : s₃.1.baseline vm.id = base := by rw [hworld, hunread₂.baseline]
        have hrow : ((s₂.1.vmState.find? vm.id).map VmStateRow.snapshot).bind
            HardwareSnapshot.counts = base := by
          rw [← hunread₂.baseline, DriftWorld.baseline, Option.bind_map]
          rfl
        have hread : Compared vm.id s₃.2 := by
          rw [hlog]
          exact ⟨_, List.mem_cons_self⟩
        have hunwritten : rebased vm.id s₃.2 = false := by
          rw [hlog]
          exact hunread₂.unwritten
        simp only [hw.usable] at hends
        exact judged_of_compare hstored hrow hread hunwritten hends
      · have hunread₃ : Unread vm.id base s' := by
          obtain ⟨hbase, hlog⟩ := baseline_of_ends (v := vm.id) hstate (only_perform.mpr trivial)
          refine ⟨hbase.trans hunread₂.baseline, hlog.trans hunread₂.unwritten, ?_⟩
          rintro ⟨state, hmem⟩
          rw [(ends_perform.mp hstate).2] at hmem
          obtain heq | hmem := List.mem_cons.mp hmem
          · cases heq
          · exact hunread₂.unread ⟨state, hmem⟩
        exact ⟨hunread₃.advanced, hunread₃.failed (fails_of_ask hstate (decide_eq_true rfl))⟩
    · have hunread₂ := hunread₁.after hcfg (only_perform.mpr trivial)
      exact ⟨hunread₂.advanced, hunread₂.failed (fails_of_ask hcfg (decide_eq_true hvmid))⟩
  · have hunread₁ := hunread.after hclient (only_perform.mpr trivial)
    exact ⟨hunread₁.advanced, hunread₁.failed (fails_of_ask hclient rfl)⟩

end hardware

/-! ## The checks of a VM -/

section checks

variable {v : VmId} {vmid : Nat} {hw : UsableHardware} {vm : VmRow} {lr : DriftLiveResource}
  {now : Time} {st st' : PassState} {ck ck' : Check} {s s' : DriftWorld × PassLog}
  {p : PassState → DriftTask PassState}

theorem ends_checkStep {vmId : VmId} (hends : Ends (watching vmid hw) (Check.step vmId p ck) s (.ok ck') s') :
    (ck.stopped = true ∧ ck' = ck ∧ s' = s) ∨ ck.stopped = false ∧
      ((∃ st', Ends (watching vmid hw) (p ck.state) s (.ok st') s' ∧ ck' = ⟨st', false⟩) ∨
        ∃ e, Ends (watching vmid hw) (p ck.state) s (.error e) s' ∧
          ck' = ⟨ck.state.mark vmId perVmDimensions, true⟩) := by
  unfold Check.step at hends
  split at hends
  · next hstopped =>
      obtain ⟨rfl, rfl⟩ := hends.of_pure_ok
      exact .inl ⟨hstopped, rfl, rfl⟩
  · next hgoes =>
      refine .inr ⟨by simpa using hgoes, ?_⟩
      obtain ⟨ck₁, hck, hends⟩ | ⟨e, s₁, herror, hends⟩ := hends.of_tryCatch
      · cases hck
        obtain ⟨st', s₁, hp, hends⟩ := hends.of_bind_ok
        obtain ⟨rfl, rfl⟩ := hends.of_pure_ok
        exact .inl ⟨st', hp, rfl⟩
      · obtain ⟨rfl, rfl⟩ := hends.of_pure_ok
        obtain ⟨st', s₂, -, hpure⟩ | ⟨e', -, hp⟩ := herror.of_bind
        · exact (not_ends_pure_error hpure).elim
        · exact .inr ⟨e', hp, rfl⟩

theorem not_ends_checkStep_error {vmId : VmId} {e : Failure} :
    ¬ Ends (watching vmid hw) (Check.step vmId p ck) s (.error e) s' := by
  intro hends
  unfold Check.step at hends
  split at hends
  · exact not_ends_pure_error hends
  · obtain ⟨ck', hck, -⟩ | ⟨e', s₁, -, hends⟩ := hends.of_tryCatch
    · cases hck
    · exact not_ends_pure_error hends

theorem not_ends_checkVm_error {resources : List DriftLiveResource} {e : Failure} :
    ¬ Ends (watching vmid hw) (checkVm now resources st vm) s (.error e) s' := by
  intro hends
  unfold checkVm at hends
  split at hends
  · exact not_ends_pure_error hends
  · obtain ⟨ck₁, s₁, -, hends⟩ | ⟨e', -, hstep⟩ := hends.of_bind
    · obtain ⟨ck₂, s₂, -, hends⟩ | ⟨e', -, hstep⟩ := hends.of_bind
      · obtain ⟨ck₃, s₃, -, hends⟩ | ⟨e', -, hstep⟩ := hends.of_bind
        · obtain ⟨ck₄, s₄, -, hends⟩ | ⟨e', -, hstep⟩ := hends.of_bind
          · exact not_ends_pure_error hends
          · exact not_ends_checkStep_error hstep
        · exact not_ends_checkStep_error hstep
      · exact not_ends_checkStep_error hstep
    · exact not_ends_checkStep_error hstep

theorem ends_checkVm {resources : List DriftLiveResource} (hlive : findLive resources vm.vmid = some lr)
    (hends : Ends (watching vmid hw) (checkVm now resources st vm) s (.ok st') s') :
    ∃ ck₁ s₁ ck₂ s₂ ck₃ s₃ ck₄,
      Ends (watching vmid hw) (Check.step vm.id (checkHardware now vm lr) ⟨st, false⟩) s (.ok ck₁) s₁ ∧
      Ends (watching vmid hw) (Check.step vm.id (checkIp vm lr) ck₁) s₁ (.ok ck₂) s₂ ∧
      Ends (watching vmid hw) (Check.step vm.id (admitProbe now vm lr) ck₂) s₂ (.ok ck₃) s₃ ∧
      Ends (watching vmid hw) (Check.step vm.id (checkCredential now vm lr) ck₃) s₃ (.ok ck₄) s' ∧
      st' = ck₄.state := by
  unfold checkVm at hends
  rw [hlive] at hends
  obtain ⟨ck₁, s₁, h₁, hends⟩ := hends.of_bind_ok
  obtain ⟨ck₂, s₂, h₂, hends⟩ := hends.of_bind_ok
  obtain ⟨ck₃, s₃, h₃, hends⟩ := hends.of_bind_ok
  obtain ⟨ck₄, s₄, h₄, hends⟩ := hends.of_bind_ok
  obtain ⟨rfl, rfl⟩ := hends.of_pure_ok
  exact ⟨ck₁, s₁, ck₂, s₂, ck₃, s₃, ck₄, h₁, h₂, h₃, h₄, rfl⟩

/-! ### Another VM -/

theorem CheckCall.skips {c : DriftCall} (hc : CheckCall vm c) (hne : vm.id ≠ v) : c.SkipsBaseline v := by
  cases c with
  | upsertVmState vmId patch =>
      obtain ⟨rfl, -⟩ := hc
      exact hne
  | getVmState vmId =>
      have hid : vmId = vm.id := hc
      rw [DriftCall.SkipsBaseline, hid]
      exact hne
  | _ => trivial

theorem beside_checkHardware (hne : vm.id ≠ v)
    (hends : Ends (watching vmid hw) (checkHardware now vm lr st) s (.ok st') s') : Beside v st st' := by
  obtain ⟨_, s₁, -, hends⟩ := hends.of_bind_ok
  obtain ⟨cfg, s₂, -, hends⟩ := hends.of_bind_ok
  obtain ⟨state, s₃, -, hends⟩ := hends.of_bind_ok
  split at hends
  · obtain ⟨rfl, -⟩ := hends.of_pure_ok
    exact (Beside.refl st).mark fun hid => absurd hid hne
  · dsimp only at hends
    split at hends
    · obtain ⟨_, s₄, -, hends⟩ := hends.of_bind_ok
      obtain ⟨rfl, -⟩ := hends.of_pure_ok
      exact .refl _
    · obtain ⟨rfl, -⟩ := hends.of_pure_ok
      refine (Beside.refl st).push fun d hd field => ?_
      obtain ⟨other, old, new, rfl⟩ := mem_detectHardwareDrift hd
      refine fingerprint_ne_of_ne (f := .hw vm.id other) fun heq => ?_
      exact hne (Fingerprint.hw.inj heq).1

theorem beside_checkStep (hne : vm.id ≠ v)
    (hp : ∀ st', Ends (watching vmid hw) (p ck.state) s (.ok st') s' → Beside v ck.state st')
    (hends : Ends (watching vmid hw) (Check.step vm.id p ck) s (.ok ck') s') :
    Beside v ck.state ck'.state := by
  obtain ⟨-, rfl, -⟩ | ⟨-, ⟨st', hst, rfl⟩ | ⟨e, -, rfl⟩⟩ := ends_checkStep hends
  · exact .refl _
  · exact hp st' hst
  · exact (Beside.refl _).mark fun hid => absurd hid hne

theorem beside_checkVm {resources : List DriftLiveResource} (hne : vm.id ≠ v)
    (hends : Ends (watching vmid hw) (checkVm now resources st vm) s (.ok st') s') : Beside v st st' := by
  cases hlive : findLive resources vm.vmid with
  | none =>
      unfold checkVm at hends
      rw [hlive] at hends
      obtain ⟨rfl, -⟩ := hends.of_pure_ok
      exact (Beside.refl st).mark fun hid => absurd hid hne
  | some lr =>
      obtain ⟨ck₁, s₁, ck₂, s₂, ck₃, s₃, ck₄, h₁, h₂, h₃, h₄, rfl⟩ := ends_checkVm hlive hends
      have hhw : Beside v st ck₁.state := beside_checkStep hne (fun _ => beside_checkHardware hne) h₁
      have hip := beside_checkStep hne (fun _ => beside_checkIp) h₂
      have hadmit := beside_checkStep hne (fun _ => beside_admitProbe) h₃
      have hcredential := beside_checkStep hne (fun _ => beside_checkCredential) h₄
      exact ((hhw.trans hip).trans hadmit).trans hcredential

/-! ### The VM itself -/

structure BlockJudged (v : VmId) (vmid : Nat) (base : Option (Int × Int)) (live : Int × Int)
    (st : PassState) (ck : Check) (s : DriftWorld × PassLog) : Prop where
  advanced : Advanced v base live s
  reported : Compared v s.2 → ∀ field : HardwareField, field.Differs base live →
    ∃ d ∈ ck.state.detected, d.fingerprint = field.fingerprint v
  new : ∀ d ∈ ck.state.detected, d ∈ st.detected ∨
    ∀ field : HardwareField, d.fingerprint = field.fingerprint v → field.Differs base live
  marks : ck.stopped = false → .hw ∈ ck.state.unrefined v → .hw ∈ st.unrefined v
  running : ck.stopped = false → Compared v s.2
  stopped : ck.stopped = true → Fails v vmid s.2

variable {base : Option (Int × Int)}

theorem blockJudged_of_checkHardware (hid : vm.id = v) (hvmid : vm.vmid = vmid) (hunread : Unread v base s)
    (hends : Ends (watching vmid hw) (Check.step vm.id (checkHardware now vm lr) ⟨st, false⟩) s
      (.ok ck') s') : BlockJudged v vmid base hw.counts st ck' s' := by
  obtain ⟨hstopped, -, -⟩ | ⟨-, ⟨st', hst, rfl⟩ | ⟨e, he, rfl⟩⟩ := ends_checkStep hends
  · cases hstopped
  · obtain ⟨hadvanced, hread, hreports⟩ := judged_of_checkHardware hid hvmid hunread hst
    exact ⟨hadvanced, fun _ => hreports.reported, hreports.new, fun _ => hreports.marks,
      fun _ => hread, nofun⟩
  · obtain ⟨hadvanced, hfails, hsilent⟩ := judged_of_checkHardware hid hvmid hunread he
    exact ⟨hadvanced, fun hread field hdiffers => absurd hdiffers (hsilent hread field),
      fun _ hd => .inl hd, nofun, nofun, fun _ => hfails⟩

theorem ProbeCall.spares {c : DriftCall} (hc : ProbeCall vm c) : c.SparesBaseline v := by
  cases c with
  | upsertVmState vmId patch => exact fun _ => hc.2
  | _ => trivial

theorem BlockJudged.step (h : BlockJudged v vmid base hw.counts st ck s)
    (hprobe : ∀ st, Only (ProbeCall vm) (p st))
    (hok : ∀ st', Ends (watching vmid hw) (p ck.state) s (.ok st') s' → Beside v ck.state st')
    (herror : ∀ e, Ends (watching vmid hw) (p ck.state) s (.error e) s' → Fails v vmid s'.2)
    (hends : Ends (watching vmid hw) (Check.step vm.id p ck) s (.ok ck') s') :
    BlockJudged v vmid base hw.counts st ck' s' := by
  have hlog : s.2 ⊆ s'.2 := hends.subset_log
  have hadvanced : Advanced v base hw.counts s' := by
    obtain ⟨hbase, hrebased⟩ := baseline_of_ends (v := v) hends
      (only_checkStep ck fun st => (hprobe st).mono fun _ hc => hc.spares)
    rw [Advanced, hbase, hrebased]
    exact h.advanced
  obtain ⟨-, rfl, rfl⟩ | ⟨hgoes, ⟨st', hst, rfl⟩ | ⟨e, he, rfl⟩⟩ := ends_checkStep hends
  · exact h
  · have hbeside := hok st' hst
    refine ⟨hadvanced, fun _ field hdiffers => ?_, fun d hd => ?_,
      fun _ hmark => h.marks hgoes (hbeside.marks hmark), fun _ => (h.running hgoes).mono hlog, nofun⟩
    · obtain ⟨d, hd, hfp⟩ := h.reported (h.running hgoes) field hdiffers
      exact ⟨d, hbeside.subset hd, hfp⟩
    · obtain hold | hother := hbeside.new d hd
      · exact h.new d hold
      · exact .inr fun field hfp => absurd hfp (hother field)
  · exact ⟨hadvanced, fun _ => h.reported (h.running hgoes), h.new, nofun, nofun, fun _ => herror e he⟩

theorem blockJudged_of_checkVm {resources : List DriftLiveResource} (hid : vm.id = v)
    (hvmid : vm.vmid = vmid) (hunread : Unread v base s) (hlive : findLive resources vm.vmid = some lr)
    (hends : Ends (watching vmid hw) (checkVm now resources st vm) s (.ok st') s') :
    ∃ ck, st' = ck.state ∧ BlockJudged v vmid base hw.counts st ck s' := by
  obtain ⟨ck₁, s₁, ck₂, s₂, ck₃, s₃, ck₄, h₁, h₂, h₃, h₄, rfl⟩ := ends_checkVm hlive hends
  have hhw := blockJudged_of_checkHardware hid hvmid hunread h₁
  have hip := hhw.step (fun st => only_checkIp st) (fun _ => beside_checkIp)
    (fun _ => fails_of_checkIp hvmid) h₂
  have hadmit := hip.step (fun st => only_admitProbe st) (fun _ => beside_admitProbe)
    (fun _ => fails_of_admitProbe hid) h₃
  exact ⟨ck₄, rfl, hadmit.step (fun st => only_checkCredential st) (fun _ => beside_checkCredential)
    (fun _ => fails_of_checkCredential hid) h₄⟩

end checks

/-! ## All checks -/

structure LoopJudged (v : VmId) (vmid : Nat) (base : Option (Int × Int)) (live : Int × Int)
    (exemptIds : List VmId) (rest : List VmRow) (st : PassState) (s : DriftWorld × PassLog) :
    Prop where
  advanced : Advanced v base live s
  reported : Compared v s.2 → ∀ field : HardwareField, field.Differs base live →
    ∃ d ∈ st.detected, d.fingerprint = field.fingerprint v
  found : ∀ d ∈ st.detected, ∀ field : HardwareField, d.fingerprint = field.fingerprint v →
    field.Differs base live
  marks : .hw ∈ st.unrefined v → PartialView s.2 ∨ Fails v vmid s.2 ∨ ¬ Compared v s.2
  checked : Compared v s.2 → v ∉ exemptIds
  unread : ∀ vm ∈ rest, vm.id = v →
    Unread v base s ∧ (.hw ∈ st.unrefined v → PartialView s.2)

section loop

variable {v : VmId} {vmid : Nat} {hw : UsableHardware} {vm : VmRow} {now : Time}
  {resources : List DriftLiveResource} {base : Option (Int × Int)} {exemptIds : List VmId}
  {rest : List VmRow} {st st' : PassState} {s s' : DriftWorld × PassLog}

theorem LoopJudged.other (h : LoopJudged v vmid base hw.counts exemptIds (vm :: rest) st s) (hne : vm.id ≠ v)
    (hends : Ends (watching vmid hw) (checkVm now resources st vm) s (.ok st') s') :
    LoopJudged v vmid base hw.counts exemptIds rest st' s' := by
  have hlog : s.2 ⊆ s'.2 := hends.subset_log
  have hskips : Only (DriftCall.SkipsBaseline v) (checkVm now resources st vm) :=
    (only_checkVm resources st).mono fun _ hc => hc.skips hne
  have hback : Compared v s'.2 → Compared v s.2 := compared_of_ends hends hskips
  have hbeside : Beside v st st' := beside_checkVm hne hends
  refine ⟨?_, fun hread field hdiffers => ?_, fun d hd field hfp => ?_, fun hmark => ?_,
    fun hread => h.checked (hback hread), fun vm' hvm' hid => ?_⟩
  · obtain ⟨hbase, hrebased⟩ := baseline_of_ends (v := v) hends (hskips.mono fun _ hc => hc.spares)
    rw [Advanced, hbase, hrebased]
    exact h.advanced
  · obtain ⟨d, hd, hfp⟩ := h.reported (hback hread) field hdiffers
    exact ⟨d, hbeside.subset hd, hfp⟩
  · obtain hold | hother := hbeside.new d hd
    · exact h.found d hold field hfp
    · exact absurd hfp (hother field)
  · obtain hview | hfails | hunread := h.marks (hbeside.marks hmark)
    · exact .inl (hview.mono hlog)
    · exact .inr (.inl (hfails.mono hlog))
    · exact .inr (.inr fun hread => hunread (hback hread))
  · obtain ⟨hunread, hview⟩ := h.unread vm' (List.mem_cons_of_mem vm hvm') hid
    exact ⟨hunread.after hends hskips, fun hmark => (hview (hbeside.marks hmark)).mono hlog⟩

theorem LoopJudged.own (h : LoopJudged v vmid base hw.counts exemptIds (vm :: rest) st s)
    (hid : vm.id = v) (hvmid : vm.vmid = vmid) (hactive : v ∉ exemptIds) (honce : ∀ vm' ∈ rest, vm'.id ≠ v)
    (hends : Ends (watching vmid hw) (checkVm now resources st vm) s (.ok st') s') :
    LoopJudged v vmid base hw.counts exemptIds rest st' s' := by
  obtain ⟨hunread, hview⟩ := h.unread vm List.mem_cons_self hid
  have hdone : ∀ vm' ∈ rest, vm'.id = v →
      Unread v base s' ∧ (.hw ∈ st'.unrefined v → PartialView s'.2) :=
    fun vm' hvm' hid' => absurd hid' (honce vm' hvm')
  cases hlive : findLive resources vm.vmid with
  | none =>
      unfold checkVm at hends
      rw [hlive] at hends
      obtain ⟨rfl, rfl⟩ := hends.of_pure_ok
      exact ⟨h.advanced, fun hread => absurd hread hunread.unread, h.found,
        fun _ => .inr (.inr hunread.unread), fun _ => hactive, hdone⟩
  | some lr =>
      have hlog : s.2 ⊆ s'.2 := hends.subset_log
      obtain ⟨ck, rfl, hck⟩ := blockJudged_of_checkVm hid hvmid hunread hlive hends
      refine ⟨hck.advanced, hck.reported, fun d hd field hfp => ?_, fun hmark => ?_,
        fun _ => hactive, hdone⟩
      · obtain hold | hnew := hck.new d hd
        · exact h.found d hold field hfp
        · exact hnew field hfp
      · cases hstopped : ck.stopped with
        | true => exact .inr (.inl (hck.stopped hstopped))
        | false => exact .inl ((hview (hck.marks hstopped hmark)).mono hlog)

/-- **The loop over the VMs.** -/
theorem checkVms_judged {r : Except Failure PassState}
    (h : LoopJudged v vmid base hw.counts exemptIds rest st s) (honce : (rest.map VmRow.id).Nodup)
    (hown : ∀ vm ∈ rest, vm.id = v → vm.vmid = vmid ∧ v ∉ exemptIds)
    (hends : Ends (watching vmid hw) (rest.foldlM (checkVm now resources) st) s r s') :
    ∃ st', r = .ok st' ∧ LoopJudged v vmid base hw.counts exemptIds [] st' s' := by
  induction rest generalizing st s with
  | nil =>
      obtain ⟨rfl, rfl⟩ := ends_pure.mp hends
      exact ⟨st, rfl, h⟩
  | cons vm rest ih =>
      rw [List.foldlM_cons] at hends
      rw [List.map_cons, List.nodup_cons] at honce
      obtain ⟨st₁, s₁, hround, hends⟩ | ⟨e, -, hround⟩ := hends.of_bind
      · have hrest : ∀ vm' ∈ rest, vm'.id = v → vm'.vmid = vmid ∧ v ∉ exemptIds :=
          fun vm' hvm' => hown vm' (List.mem_cons_of_mem vm hvm')
        by_cases hid : vm.id = v
        · obtain ⟨hvmid, hactive⟩ := hown vm List.mem_cons_self hid
          have hothers : ∀ vm' ∈ rest, vm'.id ≠ v := fun vm' hvm' hid' =>
            honce.1 (List.mem_map.mpr ⟨vm', hvm', hid'.trans hid.symm⟩)
          exact ih (h.own hid hvmid hactive hothers hround) honce.2 hrest hends
        · exact ih (h.other hid hround) honce.2 hrest hends
      · exact (not_ends_checkVm_error hround).elim

end loop

end ProxVM
