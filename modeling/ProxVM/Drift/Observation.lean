import ProxVM.Drift.Fingerprints
import ProxVM.Drift.Pass

/-!
# What a pass has observed

A pass reads for a long time and writes at the end.  This module relates what it
writes to what it has read, in the setting of `Interaction.record`: the log of the
calls and their outcomes is all there is, so the results hold whatever else goes on
meanwhile.
-/

namespace ProxVM

open Interaction

abbrev PassLog : Type := Log driftCalls Failure

/-! ## The three reads a pass starts with -/

def listing (log : PassLog) : Option (List ProxmoxQemuResource) :=
  log.findSome? fun
    | ⟨.clusterResources, r⟩ => r.toOption
    | _ => none

def records (log : PassLog) : Option (List VmRow) :=
  log.findSome? fun
    | ⟨.vmsList, r⟩ => r.toOption
    | _ => none

def exempt (log : PassLog) : Option (List VmId) :=
  log.findSome? fun
    | ⟨.jobsActiveJobVmIds, r⟩ => r.toOption
    | _ => none

def tracked (log : PassLog) : Option (List VmRow) :=
  match records log, exempt log with
  | some recorded, some exemptIds => some (activeVms recorded exemptIds)
  | _, _ => none

def Tracked (log : PassLog) (vm : VmRow) : Prop := ∃ vms, tracked log = some vms ∧ vm ∈ vms

def activeRows (log : PassLog) : Option (List DriftFindingRow) :=
  log.findSome? fun
    | ⟨.listActiveFindings, r⟩ => r.toOption
    | _ => none

def DriftCall.isView : DriftCall → Bool
  | .clusterResources => true
  | .vmsList => true
  | .jobsActiveJobVmIds => true
  | .listActiveFindings => true
  | _ => false

structure SeesView (log log' : PassLog) : Prop where
  listing : listing log' = listing log
  records : records log' = records log
  exempt : exempt log' = exempt log
  subset : log ⊆ log'

structure SeesMore (log log' : PassLog) : Prop extends SeesView log log' where
  active : activeRows log' = activeRows log

theorem SeesMore.refl (log : PassLog) : SeesMore log log := ⟨⟨rfl, rfl, rfl, fun _ h => h⟩, rfl⟩

theorem SeesMore.trans {log log' log'' : PassLog} (h : SeesMore log log')
    (h' : SeesMore log' log'') : SeesMore log log'' :=
  ⟨⟨h'.listing.trans h.listing, h'.records.trans h.records, h'.exempt.trans h.exempt,
    fun _ hmem => h'.subset (h.subset hmem)⟩, h'.active.trans h.active⟩

theorem SeesView.tracked {log log' : PassLog} (h : SeesView log log') :
    ProxVM.tracked log' = ProxVM.tracked log := by
  unfold ProxVM.tracked
  rw [h.records, h.exempt]

theorem seesMore_cons {c : DriftCall} (r : Except Failure c.Reply) (log : PassLog)
    (hc : c.isView = false) : SeesMore log (⟨c, r⟩ :: log) := by
  refine ⟨⟨?_, ?_, ?_, List.subset_cons_self _ _⟩, ?_⟩
  · cases c <;> first | rfl | cases hc
  · cases c <;> first | rfl | cases hc
  · cases c <;> first | rfl | cases hc
  · cases c <;> first | rfl | cases hc

theorem seesView_listActive (r : Except Failure (List DriftFindingRow)) (log : PassLog) :
    SeesView log (⟨.listActiveFindings, r⟩ :: log) :=
  ⟨rfl, rfl, rfl, List.subset_cons_self _ _⟩

/-! ## What the checks have found -/

inductive Ran (log : PassLog) : VmRow → DriftDimension → List Detected → Prop
  | listed {vm : VmRow} {raw : List ProxmoxQemuResource} (hvm : Tracked log vm)
      (hraw : listing log = some raw) (hlisted : hasVmid (allQemuResources raw) vm.vmid = true) :
      Ran log vm .deleted []
  | missing {vm : VmRow} {raw : List ProxmoxQemuResource} {vms : List VmRow}
      (hvms : tracked log = some vms) (hvm : vm ∈ vms) (hraw : listing log = some raw)
      (hwhole : clusterViewLooksDegraded vms.length
        (detectDeletedVms vms (allQemuResources raw)).length = false)
      (habsent : hasVmid (allQemuResources raw) vm.vmid = false) :
      Ran log vm .deleted [deletedFinding vm]
  | config {vm : VmRow} {raw : List ProxmoxQemuResource} (hvm : Tracked log vm)
      (hraw : listing log = some raw) (hlive : hasVmid (findableResources raw) vm.vmid = true) :
      Ran log vm .config (configDriftOf (findableResources raw) vm)
  | hw {vm : VmRow} {raw : List ProxmoxQemuResource} {lr : DriftLiveResource}
      {cfg : HardwareConfig} {state : Option VmStateRow} {cores memory : Int}
      (hvm : Tracked log vm) (hraw : listing log = some raw)
      (hlive : findLive (findableResources raw) vm.vmid = some lr)
      (hcfg : ⟨.qemuConfig lr.node vm.vmid, .ok cfg⟩ ∈ log)
      (hstate : ⟨.getVmState vm.id, .ok state⟩ ∈ log)
      (husable : cfg.usable = some (cores, memory)) :
      Ran log vm .hw (detectHardwareDrift vm.id vm.name (state.map VmStateRow.snapshot) cores memory
        cfg.net)
  | ip {vm : VmRow} {raw : List ProxmoxQemuResource} {lr : DriftLiveResource} {info : AgentInfo}
      {ip : String} (hvm : Tracked log vm) (hraw : listing log = some raw)
      (hlive : findLive (findableResources raw) vm.vmid = some lr)
      (hagent : ⟨.base (.proxmoxGuestIpAddresses lr.node vm.vmid), .ok (some info)⟩ ∈ log)
      (husable : presentText (selectUsableIpv4 info.ipv4s) = some ip) :
      Ran log vm .ip (detectIpDrift vm (some ip))
  | noCredential {vm : VmRow} {raw : List ProxmoxQemuResource} {lr : DriftLiveResource}
      (hvm : Tracked log vm) (hraw : listing log = some raw)
      (hlive : findLive (findableResources raw) vm.vmid = some lr) (hrunning : lr.status = "running")
      (hcred : ⟨.credsFindByVm vm.id, .ok none⟩ ∈ log) : Ran log vm .credential []
  | accepted {vm : VmRow} {ip username password : String} {probe : SshProbe}
      (hvm : Tracked log vm) (hip : presentText vm.ipAddress = some ip)
      (hprobe : ⟨.probeSsh (probeTarget ip username password), .ok probe⟩ ∈ log)
      (hstatus : probe.status = .authenticated) : Ran log vm .credential []
  | rejected {vm : VmRow} {ip username password : String} {probe : SshProbe}
      (hvm : Tracked log vm) (hip : presentText vm.ipAddress = some ip)
      (hprobe : ⟨.probeSsh (probeTarget ip username password), .ok probe⟩ ∈ log)
      (hstatus : probe.status = .authFailed) :
      Ran log vm .credential [credentialFinding vm ip username probe.detail]
  | guac {vm : VmRow} {recorded : List VmRow} {connections : List GuacConnectionRow}
      (hrecords : records log = some recorded)
      (hconnections : ⟨.guacListAllConnectionRecords, .ok connections⟩ ∈ log) :
      Ran log vm .guac (detectOrphanGuac connections (recorded.map VmRow.id))

theorem Tracked.keep {log log' : PassLog} {vm : VmRow} (hvm : Tracked log vm)
    (hmore : SeesView log log') : Tracked log' vm := by
  obtain ⟨vms, hvms, hmem⟩ := hvm
  exact ⟨vms, hmore.tracked.trans hvms, hmem⟩

variable {dim : DriftDimension} {findings : List Detected} {dimensions : List DriftDimension}

theorem Ran.keep {log log' : PassLog} {vm : VmRow} (hran : Ran log vm dim findings) (hmore : SeesView log log') :
    Ran log' vm dim findings := by
  cases hran with
  | listed hvm hraw hlisted => exact .listed (hvm.keep hmore) (hmore.listing.trans hraw) hlisted
  | missing hvms hvm hraw hwhole habsent =>
      exact .missing (hmore.tracked.trans hvms) hvm (hmore.listing.trans hraw) hwhole habsent
  | config hvm hraw hlive => exact .config (hvm.keep hmore) (hmore.listing.trans hraw) hlive
  | hw hvm hraw hlive hcfg hstate husable =>
      exact .hw (hvm.keep hmore) (hmore.listing.trans hraw) hlive (hmore.subset hcfg)
        (hmore.subset hstate) husable
  | ip hvm hraw hlive hagent husable =>
      exact .ip (hvm.keep hmore) (hmore.listing.trans hraw) hlive (hmore.subset hagent) husable
  | noCredential hvm hraw hlive hrunning hcred =>
      exact .noCredential (hvm.keep hmore) (hmore.listing.trans hraw) hlive hrunning
        (hmore.subset hcred)
  | accepted hvm hip hprobe hstatus =>
      exact .accepted (hvm.keep hmore) hip (hmore.subset hprobe) hstatus
  | rejected hvm hip hprobe hstatus =>
      exact .rejected (hvm.keep hmore) hip (hmore.subset hprobe) hstatus
  | guac hrecords hconnections =>
      exact .guac (hmore.records.trans hrecords) (hmore.subset hconnections)

theorem Tracked.mono {log log' : PassLog} {vm : VmRow} (hvm : Tracked log vm)
    (hmore : SeesMore log log') : Tracked log' vm :=
  hvm.keep hmore.toSeesView

theorem Ran.mono {log log' : PassLog} {vm : VmRow} (hran : Ran log vm dim findings) (hmore : SeesMore log log') :
    Ran log' vm dim findings :=
  hran.keep hmore.toSeesView

def Supported (log : PassLog) (d : Detected) : Prop :=
  ∃ vm dim findings, Ran log vm dim findings ∧ d ∈ findings

theorem Supported.mono {log log' : PassLog} {d : Detected} (hsupported : Supported log d)
    (hmore : SeesMore log log') : Supported log' d := by
  obtain ⟨vm, dim, findings, hran, hmem⟩ := hsupported
  exact ⟨vm, dim, findings, hran.mono hmore, hmem⟩

/-! ## The state of the pass against its log -/

structure Grounded (log : PassLog) (st : PassState) : Prop where
  supported : ∀ d ∈ st.detected, Supported log d
  marks : ∀ v, ∀ dim ∈ st.unrefined v, dim ∈ perVmDimensions

def Covered (log : PassLog) (st : PassState) (vm : VmRow) (dim : DriftDimension) : Prop :=
  dim ∈ st.unrefined vm.id ∨ ∃ findings ⊆ st.detected, Ran log vm dim findings

structure PassState.Extends (st st' : PassState) : Prop where
  detected : st.detected ⊆ st'.detected
  unrefined : ∀ v, st.unrefined v ⊆ st'.unrefined v

theorem PassState.Extends.refl (st : PassState) : st.Extends st :=
  ⟨fun _ h => h, fun _ _ h => h⟩

theorem PassState.Extends.trans {st st' st'' : PassState} (h : st.Extends st')
    (h' : st'.Extends st'') : st.Extends st'' :=
  ⟨fun _ hmem => h'.detected (h.detected hmem), fun v _ hmem => h'.unrefined v (h.unrefined v hmem)⟩

theorem PassState.extends_push (st : PassState) (findings : List Detected) : st.Extends (st.push findings) :=
  ⟨List.subset_append_left _ _, fun _ _ h => h⟩

theorem PassState.extends_mark (st : PassState) (vmId : VmId) (dimensions : List DriftDimension) :
    st.Extends (st.mark vmId dimensions) :=
  ⟨fun _ h => h, fun _ _ h => mem_markUnrefined.mpr (.inl h)⟩

theorem Covered.mono {log log' : PassLog} {st st' : PassState} {vm : VmRow}
    (hcovered : Covered log st vm dim) (hmore : SeesMore log log') (hst : st.Extends st') :
    Covered log' st' vm dim := by
  obtain hmarked | ⟨findings, hsubset, hran⟩ := hcovered
  · exact .inl (hst.unrefined vm.id hmarked)
  · exact .inr ⟨findings, fun _ h => hst.detected (hsubset h), hran.mono hmore⟩

theorem Grounded.mono {log log' : PassLog} {st : PassState} (h : Grounded log st)
    (hmore : SeesMore log log') : Grounded log' st :=
  ⟨fun d hd => (h.supported d hd).mono hmore, h.marks⟩

theorem Grounded.push {log : PassLog} {st : PassState} {vm : VmRow} (h : Grounded log st) (hran : Ran log vm dim findings) :
    Grounded log (st.push findings) := by
  refine ⟨fun d hd => ?_, h.marks⟩
  obtain hold | hnew := List.mem_append.mp hd
  · exact h.supported d hold
  · exact ⟨vm, dim, findings, hran, hnew⟩

theorem Grounded.mark {log : PassLog} {st : PassState} {vmId : VmId} (h : Grounded log st)
    (hdimensions : ∀ dim ∈ dimensions, dim ∈ perVmDimensions) : Grounded log (st.mark vmId dimensions) := by
  refine ⟨h.supported, fun v dim hdim => ?_⟩
  obtain hold | ⟨-, hnew⟩ := mem_markUnrefined.mp hdim
  · exact h.marks v dim hold
  · exact hdimensions dim hnew

theorem Covered.of_mark {log : PassLog} {st : PassState} {vm : VmRow} (hdim : dim ∈ dimensions) :
    Covered log (st.mark vm.id dimensions) vm dim :=
  .inl (mem_markUnrefined.mpr (.inr ⟨rfl, hdim⟩))

theorem Covered.of_push {log : PassLog} {st : PassState} {vm : VmRow} (hran : Ran log vm dim findings) :
    Covered log (st.push findings) vm dim :=
  .inr ⟨findings, List.subset_append_right _ _, hran⟩

/-! ## What a pass owes to its log -/

/-- A reason to resolve a finding about the VM `v`: its record is gone, or the check of its
dimension ran to its end and did not reproduce it. -/
inductive Evidence (log : PassLog) (v : VmId) (row : DriftFindingRow) : Prop
  | recordGone {recorded : List VmRow} (hrecords : records log = some recorded)
      (hgone : v ∉ recorded.map VmRow.id)
  | notReproduced {vm : VmRow} {findings : List Detected} (hvm : Tracked log vm) (hid : vm.id = v)
      (hran : Ran log vm row.dimension findings)
      (hnot : row.fingerprint ∉ findings.map Detected.fingerprint)

/-- The two checks that are skipped without a mark: the comparison of name and node of a
tracked VM that the cluster does not list among the running VMs, and the deletion check of
a missing one when the cluster view looks partial. -/
def Unchecked (log : PassLog) (v : VmId) (row : DriftFindingRow) : Prop :=
  ∃ raw vms, listing log = some raw ∧ tracked log = some vms ∧ (∃ vm ∈ vms, vm.id = v) ∧
    ((row.dimension = .config ∧ ∀ vm ∈ vms, vm.id = v →
        hasVmid (findableResources raw) vm.vmid = false) ∨
      (row.dimension = .deleted ∧ clusterViewLooksDegraded vms.length
          (detectDeletedVms vms (allQemuResources raw)).length = true ∧
        ∀ vm ∈ vms, vm.id = v → hasVmid (allQemuResources raw) vm.vmid = false))

theorem Evidence.keep {log log' : PassLog} {v : VmId} {row : DriftFindingRow}
    (h : Evidence log v row) (hmore : SeesView log log') : Evidence log' v row := by
  cases h with
  | recordGone hrecords hgone => exact .recordGone (hmore.records.trans hrecords) hgone
  | notReproduced hvm hid hran hnot =>
      exact .notReproduced (hvm.keep hmore) hid (hran.keep hmore) hnot

theorem unchecked_keep {log log' : PassLog} {v : VmId} {row : DriftFindingRow}
    (hmore : SeesView log log') : Unchecked log' v row ↔ Unchecked log v row := by
  unfold Unchecked
  rw [hmore.listing, hmore.tracked]

def Fingerprint.owner : Fingerprint → Option VmId
  | .deleted vmId => some vmId
  | .config vmId _ => some vmId
  | .hw vmId _ => some vmId
  | .ip vmId => some vmId
  | .guac _ => none
  | .credential vmId => some vmId

def ShapedAs (fingerprint : String) (dimension : DriftDimension) (vmId : Option VmId) : Prop :=
  ∃ f : Fingerprint, fingerprint = f.text ∧ dimension = f.dimension ∧
    ∀ v, f.owner = some v → vmId = some v

def ResolvedFor (log : PassLog) (fingerprints : List String) : Prop :=
  ∃ (stale : DriftFindingRow → Bool) (active : List DriftFindingRow),
    activeRows log = some active ∧
    fingerprints = (active.filter stale).map DriftFindingRow.fingerprint ∧
    ∀ row ∈ active, ∀ v, row.vmId = some v →
      (stale row = true → Evidence log v row ∨ Unchecked log v row) ∧
      (ShapedAs row.fingerprint row.dimension row.vmId → Unchecked log v row → stale row = true)

def PassOwes : DriftCall → PassLog → Prop
  | .clusterResources, log => listing log = none
  | .vmsList, log => listing log ≠ none ∧ records log = none
  | .jobsActiveJobVmIds, log => exempt log = none
  | .guacListAllConnectionRecords, log => records log ≠ none
  | .insertFinding _ d, log => Supported log d ∧ activeRows log = none
  | .refreshFinding d _, log => Supported log d ∧ activeRows log = none
  | .autoResolveFindings fingerprints _, log => ResolvedFor log fingerprints
  | .resolveFinding _ _ _, _ => False
  | .acknowledgeFinding _ _ _, _ => False
  | _, _ => True

abbrev observing : Context driftCalls Failure PassLog := aloneOwing record PassOwes

section programs

variable {log : PassLog} {vm : VmRow} {raw : List ProxmoxQemuResource} {lr : DriftLiveResource}
  {st : PassState} {now : Time}

theorem holds_observe {α : Type} {c : DriftCall} {f : c.Reply → DriftTask α}
    {Q : Except Failure α → PassLog → Prop} (hview : c.isView = false) (howes : PassOwes c log)
    (hok : ∀ a, SeesMore log (⟨c, .ok a⟩ :: log) → observing.holds (f a) Q (⟨c, .ok a⟩ :: log))
    (herror : ∀ e, SeesMore log (⟨c, .error e⟩ :: log) → Q (.error e) (⟨c, .error e⟩ :: log)) :
    observing.holds (askDrift c >>= f) Q log :=
  holds_record_bind howes (fun a => hok a (seesMore_cons _ log hview))
    fun e => herror e (seesMore_cons _ log hview)

def Gathers (log : PassLog) (st : PassState) (φ : PassLog → PassState → Prop) :
    Except Failure PassState → PassLog → Prop
  | .ok st', log' => SeesMore log log' ∧ st.Extends st' ∧ Grounded log' st' ∧ φ log' st'
  | .error _, log' => SeesMore log log'

theorem holds_checkHardware (hst : Grounded log st) (hvm : Tracked log vm)
    (hraw : listing log = some raw) (hlive : findLive (findableResources raw) vm.vmid = some lr) :
    observing.holds (checkHardware now vm lr st)
      (Gathers log st fun log' st' => Covered log' st' vm .hw) log := by
  refine holds_observe rfl trivial (fun _ h₁ => ?_) fun _ h₁ => h₁
  refine holds_observe rfl trivial (fun cfg h₂ => ?_) fun _ h₂ => h₁.trans h₂
  refine holds_observe rfl trivial (fun state h₃ => ?_) fun _ h₃ => (h₁.trans h₂).trans h₃
  have hmore := (h₁.trans h₂).trans h₃
  cases husable : cfg.usable with
  | none =>
      exact ⟨hmore, st.extends_mark _ _, (hst.mono hmore).mark (by decide),
        Covered.of_mark List.mem_cons_self⟩
  | some values =>
      obtain ⟨cores, memory⟩ := values
      have hran : Ran _ vm .hw _ := .hw (hvm.mono hmore) (hmore.listing.trans hraw) hlive
        (h₃.subset List.mem_cons_self) List.mem_cons_self husable
      refine Context.holds_ite.mpr ⟨fun hnone => ?_, fun _ => ?_⟩
      · rw [hnone] at hran
        have hcovered : ∀ log', SeesMore log log' → SeesMore _ log' → Gathers log st
            (fun log' st' => Covered log' st' vm .hw) (.ok st) log' := fun log' h h' =>
          ⟨h, .refl st, hst.mono h, .inr ⟨[], List.nil_subset _, hran.mono h'⟩⟩
        exact holds_observe rfl trivial (fun _ h₄ => hcovered _ (hmore.trans h₄) h₄)
          fun _ h₄ => hmore.trans h₄
      · exact ⟨hmore, st.extends_push _, (hst.mono hmore).push hran, Covered.of_push hran⟩

theorem holds_checkIp (hst : Grounded log st) (hvm : Tracked log vm)
    (hraw : listing log = some raw) (hlive : findLive (findableResources raw) vm.vmid = some lr) :
    observing.holds (checkIp vm lr st) (Gathers log st fun log' st' => Covered log' st' vm .ip) log := by
  have hmark : ∀ log', SeesMore log log' → Gathers log st
      (fun log' st' => Covered log' st' vm .ip) (.ok (st.mark vm.id [.ip])) log' := fun log' h =>
    ⟨h, st.extends_mark _ _, (hst.mono h).mark (by decide), Covered.of_mark List.mem_cons_self⟩
  refine Context.holds_ite.mpr ⟨fun _ => ?_, fun _ => hmark log (.refl log)⟩
  refine holds_observe rfl trivial (fun _ h₁ => ?_) fun _ h₁ => h₁
  refine holds_observe rfl trivial (fun agent h₂ => ?_) fun _ h₂ => h₁.trans h₂
  have hmore := h₁.trans h₂
  cases agent with
  | none => exact hmark _ hmore
  | some info =>
      cases husable : presentText (selectUsableIpv4 info.ipv4s) with
      | none =>
          simp only [Option.bind_some, husable]
          exact hmark _ hmore
      | some ip =>
          have hran : Ran _ vm .ip _ := .ip (hvm.mono hmore) (hmore.listing.trans hraw) hlive
            List.mem_cons_self husable
          simp only [Option.bind_some, husable]
          exact ⟨hmore, st.extends_push _, (hst.mono hmore).push hran, Covered.of_push hran⟩

def Admitted (vm : VmRow) (lr : DriftLiveResource) (log : PassLog) (st : PassState) : Prop :=
  Covered log st vm .credential ∨ (vm.id ∈ st.probed ∧ probeAddress vm lr ≠ none)

theorem holds_admitProbe (hst : Grounded log st) :
    observing.holds (admitProbe now vm lr st) (Gathers log st (Admitted vm lr)) log := by
  have hmark : ∀ log', SeesMore log log' →
      Gathers log st (Admitted vm lr) (.ok (st.mark vm.id [.credential])) log' := fun log' h =>
    ⟨h, st.extends_mark _ _, (hst.mono h).mark (by decide),
      .inl (Covered.of_mark List.mem_cons_self)⟩
  unfold admitProbe
  cases haddress : probeAddress vm lr with
  | none => exact hmark log (.refl log)
  | some ip =>
      refine holds_observe rfl trivial (fun state h => ?_) fun _ h => h
      refine Context.holds_ite.mpr ⟨fun _ => ?_, fun _ => hmark _ h⟩
      refine ⟨h, ⟨fun _ hmem => hmem, fun _ _ hmem => hmem⟩,
        ⟨fun d hd => (hst.supported d hd).mono h, hst.marks⟩, .inr ⟨List.mem_cons_self, ?_⟩⟩
      rw [haddress]
      exact Option.some_ne_none ip

def ProbeEnd (log : PassLog) (vm : VmRow) : Except Failure ProbeOutcome → PassLog → Prop
  | .ok outcome, log' => SeesMore log log' ∧
      (outcome.conclusive = true → Ran log' vm .credential outcome.findings) ∧
      (outcome.conclusive = false → outcome.findings = [])
  | .error _, log' => SeesMore log log'

variable {ip : String}

theorem holds_probeWith {cred : CredentialRow} (hvm : Tracked log vm)
    (hip : presentText vm.ipAddress = some ip) :
    observing.holds (probeWith vm ip now cred) (ProbeEnd log vm) log := by
  refine holds_observe rfl trivial (fun password h₁ => ?_) fun _ h₁ => h₁
  refine holds_observe rfl trivial (fun _ h₂ => ?_) fun _ h₂ => h₁.trans h₂
  refine holds_observe rfl trivial (fun probe h₃ => ?_) fun _ h₃ => (h₁.trans h₂).trans h₃
  have hmore := (h₁.trans h₂).trans h₃
  cases hstatus : probe.status with
  | authenticated =>
      have hran : Ran _ vm .credential [] :=
        .accepted (hvm.mono hmore) hip List.mem_cons_self hstatus
      refine holds_observe rfl trivial (fun _ h₄ => ?_) fun _ h₄ => hmore.trans h₄
      refine holds_observe rfl trivial (fun _ h₅ => ?_) fun _ h₅ => (hmore.trans h₄).trans h₅
      exact ⟨(hmore.trans h₄).trans h₅, fun _ => hran.mono (h₄.trans h₅), nofun⟩
  | authFailed =>
      have hran : Ran _ vm .credential [credentialFinding vm ip cred.username probe.detail] :=
        .rejected (hvm.mono hmore) hip List.mem_cons_self hstatus
      refine holds_observe rfl trivial (fun _ h₄ => ?_) fun _ h₄ => hmore.trans h₄
      exact ⟨hmore.trans h₄, fun _ => hran.mono h₄, nofun⟩
  | connectionFailed =>
      refine holds_observe rfl trivial (fun _ h₄ => ?_) fun _ h₄ => hmore.trans h₄
      exact ⟨hmore.trans h₄, nofun, fun _ => rfl⟩

theorem holds_probeFailed : observing.holds (probeFailed vm now) (ProbeEnd log vm) log := by
  unfold probeFailed
  rw [Context.holds_bind, Context.holds_tryCatch]
  refine holds_aloneOwing_perform.mpr ⟨trivial, ?_⟩
  rintro r _ rfl
  have hmore := seesMore_cons (c := .upsertVmState vm.id (.probe now none)) r log rfl
  cases r with
  | ok a => exact ⟨hmore, nofun, fun _ => rfl⟩
  | error e => exact ⟨hmore, nofun, fun _ => rfl⟩

theorem holds_probeCredential (hvm : Tracked log vm)
    (hraw : listing log = some raw) (hlive : findLive (findableResources raw) vm.vmid = some lr)
    (hrunning : lr.status = "running") (hip : presentText vm.ipAddress = some ip) :
    observing.holds (probeCredential vm ip now) (ProbeEnd log vm) log := by
  refine holds_observe rfl trivial (fun cred h₁ => ?_) fun _ h₁ => h₁
  cases cred with
  | none =>
      exact ⟨h₁, fun _ => .noCredential (hvm.mono h₁) (h₁.listing.trans hraw) hlive hrunning
        List.mem_cons_self, nofun⟩
  | some cred =>
      change observing.holds ((probeWith vm ip now cred).tryCatch fun _ => probeFailed vm now) _ _
      rw [Context.holds_tryCatch]
      refine Context.holds_mono (holds_probeWith (hvm.mono h₁) hip) fun r log' hend => ?_
      cases r with
      | ok outcome => exact ⟨h₁.trans hend.1, hend.2⟩
      | error e =>
          have h₂ : SeesMore _ log' := hend
          refine Context.holds_mono holds_probeFailed fun r log'' hend' => ?_
          cases r with
          | ok outcome => exact ⟨(h₁.trans h₂).trans hend'.1, hend'.2⟩
          | error e => exact (h₁.trans h₂).trans hend'

theorem probeAddress_eq_some (haddress : probeAddress vm lr = some ip) :
    lr.status = "running" ∧ presentText vm.ipAddress = some ip := by
  unfold probeAddress at haddress
  split at haddress
  · rename_i hprobable
    have hboth : vm.status = .running ∧ lr.status = "running" := by
      simpa [bothRunning] using hprobable.1
    exact ⟨hboth.2, haddress⟩
  · cases haddress

theorem holds_checkCredential (hst : Grounded log st) (hvm : Tracked log vm)
    (hraw : listing log = some raw) (hlive : findLive (findableResources raw) vm.vmid = some lr)
    (hadmitted : Admitted vm lr log st) : observing.holds (checkCredential now vm lr st)
      (Gathers log st fun log' st' => Covered log' st' vm .credential) log := by
  unfold checkCredential
  cases haddress : probeAddress vm lr with
  | none =>
      have hcovered := hadmitted.resolve_right fun h => h.2 haddress
      exact ⟨.refl log, .refl st, hst, hcovered⟩
  | some ip =>
      obtain ⟨hrunning, hip⟩ := probeAddress_eq_some haddress
      refine Context.holds_ite.mpr ⟨fun _ => ?_, fun hprobed => ?_⟩
      · rw [Context.holds_bind]
        refine Context.holds_mono (holds_probeCredential hvm hraw hlive hrunning hip)
          fun r log' hend => ?_
        cases r with
        | error e => exact hend
        | ok outcome =>
            obtain ⟨hmore, hconclusive, hinconclusive⟩ := hend
            refine Context.holds_ite.mpr ⟨fun h => ?_, fun h => ?_⟩
            · have hran := hconclusive h
              exact ⟨hmore, st.extends_push _, (hst.mono hmore).push hran, Covered.of_push hran⟩
            · have hnone : outcome.findings = [] := hinconclusive (by simpa using h)
              have hgrounded : Grounded log' (st.push outcome.findings) := by
                refine ⟨fun d hd => ?_, (hst.mono hmore).marks⟩
                rw [PassState.push_detected, hnone, List.append_nil] at hd
                exact (hst.mono hmore).supported d hd
              exact ⟨hmore, (st.extends_push _).trans (PassState.extends_mark _ _ _),
                hgrounded.mark (by decide), Covered.of_mark List.mem_cons_self⟩
      · exact ⟨.refl log, .refl st, hst, hadmitted.resolve_right fun h => hprobed h.1⟩

/-! ### The `try` block of one VM -/

structure Standing (log : PassLog) (st : PassState) (vm : VmRow)
    (φ : PassLog → PassState → Prop) (log' : PassLog) (ck : Check) : Prop where
  more : SeesMore log log'
  extended : st.Extends ck.state
  grounded : Grounded log' ck.state
  stopped : ck.stopped = true → ∀ dim ∈ perVmDimensions, Covered log' ck.state vm dim
  running : ck.stopped = false → φ log' ck.state

theorem holds_checkStep {log' : PassLog} {φ ψ φ' : PassLog → PassState → Prop} {ck : Check}
    {p : PassState → DriftTask PassState} (hck : Standing log st vm φ log' ck)
    (hp : φ log' ck.state → observing.holds (p ck.state) (Gathers log' ck.state ψ) log')
    (himp : ∀ log'' st'', SeesMore log' log'' → ck.state.Extends st'' → φ log' ck.state →
      ψ log'' st'' → φ' log'' st'') : observing.holds (Check.step vm.id p ck)
      (fun r log'' => ∃ ck', r = .ok ck' ∧ Standing log st vm φ' log'' ck') log' := by
  refine Context.holds_ite.mpr ⟨fun hstopped => ?_, fun hgoes => ?_⟩
  · exact ⟨ck, rfl, hck.more, hck.extended, hck.grounded, hck.stopped,
      fun h => absurd hstopped (by rw [h]; exact Bool.false_ne_true)⟩
  · have hφ := hck.running (by simpa using hgoes)
    rw [Context.holds_tryCatch, Context.holds_bind]
    refine Context.holds_mono (hp hφ) fun r log'' hr => ?_
    cases r with
    | ok st' =>
        obtain ⟨hmore, hextends, hgrounded, hψ⟩ := hr
        exact ⟨_, rfl, hck.more.trans hmore, hck.extended.trans hextends, hgrounded, nofun,
          fun _ => himp log'' st' hmore hextends hφ hψ⟩
    | error e =>
        -- the throw keeps what was gathered and marks the three dimensions
        have hmore : SeesMore log' log'' := hr
        exact ⟨_, rfl, hck.more.trans hmore, hck.extended.trans (PassState.extends_mark _ _ _),
          (hck.grounded.mono hmore).mark fun _ h => h, fun _ dim hdim => Covered.of_mark hdim, nofun⟩

theorem holds_checkStep_bind {α : Type} {log' : PassLog} {φ ψ F : PassLog → PassState → Prop}
    {ck : Check} {p : PassState → DriftTask PassState} {f : Check → DriftTask α}
    {Q : Except Failure α → PassLog → Prop} (hck : Standing log st vm φ log' ck)
    (hp : φ log' ck.state → observing.holds (p ck.state) (Gathers log' ck.state ψ) log')
    (himp : ∀ log'' st'', SeesMore log' log'' → ck.state.Extends st'' → φ log' ck.state →
      ψ log'' st'' → F log'' st'')
    (hf : ∀ ck' log'', Standing log st vm F log'' ck' → observing.holds (f ck') Q log'') :
    observing.holds (Check.step vm.id p ck >>= f) Q log' := by
  rw [Context.holds_bind]
  refine Context.holds_mono (holds_checkStep hck hp himp) fun r log'' hr => ?_
  obtain ⟨ck', rfl, hck'⟩ := hr
  exact hf ck' log'' hck'

theorem holds_checkVm (hst : Grounded log st) (hvm : Tracked log vm) (hraw : listing log = some raw) :
    observing.holds (checkVm now (findableResources raw) st vm)
      (Gathers log st fun log' st' => ∀ dim ∈ perVmDimensions, Covered log' st' vm dim) log := by
  unfold checkVm
  cases hlive : findLive (findableResources raw) vm.vmid with
  | none =>
      exact ⟨.refl log, st.extends_mark _ _, hst.mark fun _ h => h,
        fun dim hdim => Covered.of_mark hdim⟩
  | some lr =>
      have hstart : Standing log st vm (fun _ _ => True) log ⟨st, false⟩ :=
        ⟨.refl log, .refl st, hst, nofun, fun _ => trivial⟩
      refine holds_checkStep_bind (F := fun log' st' => Covered log' st' vm .hw) hstart
        (fun _ => holds_checkHardware hst hvm hraw hlive) (fun _ _ _ _ _ hhw => hhw) ?_
      intro ck log₁ hck
      refine holds_checkStep_bind
        (F := fun log' st' => Covered log' st' vm .hw ∧ Covered log' st' vm .ip) hck
        (fun _ => holds_checkIp hck.grounded (hvm.mono hck.more) (hck.more.listing.trans hraw) hlive)
        (fun _ _ hmore hextends hhw hip => ⟨hhw.mono hmore hextends, hip⟩) ?_
      intro ck log₂ hck
      refine holds_checkStep_bind (F := fun log' st' => (Covered log' st' vm .hw ∧
          Covered log' st' vm .ip) ∧ Admitted vm lr log' st') hck
        (fun _ => holds_admitProbe hck.grounded)
        (fun _ _ hmore hextends h hadmitted =>
          ⟨⟨h.1.mono hmore hextends, h.2.mono hmore hextends⟩, hadmitted⟩) ?_
      intro ck log₃ hck
      refine holds_checkStep_bind
        (F := fun log' st' => ∀ dim ∈ perVmDimensions, Covered log' st' vm dim) hck
        (fun h => holds_checkCredential hck.grounded (hvm.mono hck.more)
          (hck.more.listing.trans hraw) hlive h.2)
        (fun _ _ hmore hextends h hcredential => ?_) ?_
      · intro dim hdim
        have hhw := h.1.1.mono hmore hextends
        have hip := h.1.2.mono hmore hextends
        simp only [perVmDimensions, List.mem_cons, List.not_mem_nil, or_false] at hdim
        obtain rfl | rfl | rfl := hdim
        · exact hhw
        · exact hip
        · exact hcredential
      · intro ck log₄ hck
        refine ⟨hck.more, hck.extended, hck.grounded, ?_⟩
        cases hstopped : ck.stopped with
        | true => exact hck.stopped hstopped
        | false => exact hck.running hstopped

end programs

/-! ## The whole pass -/

section pass

variable {log : PassLog} {recorded : List VmRow} {exemptIds : List VmId}
  {raw : List ProxmoxQemuResource} {st : PassState} {now : Time}

structure Viewed (log : PassLog) (recorded : List VmRow) (exemptIds : List VmId)
    (raw : List ProxmoxQemuResource) : Prop where
  listing : listing log = some raw
  records : records log = some recorded
  exempt : exempt log = some exemptIds
  active : activeRows log = none

theorem Viewed.tracked (h : Viewed log recorded exemptIds raw) :
    ProxVM.tracked log = some (activeVms recorded exemptIds) := by
  unfold ProxVM.tracked
  rw [h.records, h.exempt]

variable {log' : PassLog} {findings : List Detected} {d : Detected}

theorem Viewed.mono (h : Viewed log recorded exemptIds raw)
    (hmore : SeesMore log log') : Viewed log' recorded exemptIds raw :=
  ⟨hmore.listing.trans h.listing, hmore.records.trans h.records, hmore.exempt.trans h.exempt,
    hmore.active.trans h.active⟩

theorem Viewed.isTracked {vm : VmRow} (h : Viewed log recorded exemptIds raw)
    (hvm : vm ∈ activeVms recorded exemptIds) : Tracked log vm :=
  ⟨_, h.tracked, hvm⟩

theorem config_subset_initialPass (active : List VmRow) (raw : List ProxmoxQemuResource) :
    detectConfigDrift active (findableResources raw) ⊆ (initialPass active raw).detected := by
  simp only [initialPass]
  split
  · exact fun _ h => h
  · exact List.subset_append_left _ _

theorem grounded_initialPass (h : Viewed log recorded exemptIds raw) :
    Grounded log (initialPass (activeVms recorded exemptIds) raw) := by
  have hconfig : ∀ d ∈ detectConfigDrift (activeVms recorded exemptIds) (findableResources raw),
      Supported log d := by
    intro d hd
    obtain ⟨vm, hvm, hd⟩ := List.mem_flatMap.mp hd
    refine ⟨vm, .config, _, .config (h.isTracked hvm) h.listing ?_, hd⟩
    cases hlive : hasVmid (findableResources raw) vm.vmid with
    | true => rfl
    | false =>
        have hnone : findLive (findableResources raw).reverse vm.vmid = none := by
          rw [← Option.not_isSome_iff_eq_none, findLive_isSome]
          simpa [hasVmid] using hlive
        simp [configDriftOf, hnone] at hd
  simp only [initialPass]
  split
  · refine ⟨hconfig, fun v dim hdim => ?_⟩
    -- the marks of a partial view
    have hmarks : ∀ (vms : List VmRow) (map : UnrefinedMap),
        (∀ dim ∈ map v, dim ∈ perVmDimensions) →
        ∀ dim ∈ vms.foldl (fun map vm => markUnrefined map vm.id perVmDimensions) map v,
          dim ∈ perVmDimensions := by
      intro vms
      induction vms with
      | nil => exact fun _ h => h
      | cons vm vms ih =>
          intro map hmap
          refine ih _ fun dim hdim => ?_
          exact (mem_markUnrefined.mp hdim).elim (hmap dim) fun h => h.2
    exact hmarks _ _ (fun _ h => absurd h List.not_mem_nil) dim hdim
  · rename_i hwhole
    refine ⟨fun d hd => ?_, fun _ _ h => absurd h List.not_mem_nil⟩
    obtain hd | hd := List.mem_append.mp hd
    · exact hconfig d hd
    · obtain ⟨vm, hvm, habsent, rfl⟩ := mem_detectDeletedVms.mp hd
      exact ⟨vm, .deleted, _, .missing h.tracked hvm h.listing (by simpa using hwhole) habsent,
        List.mem_singleton.mpr rfl⟩

structure Checked (log : PassLog) (recorded : List VmRow) (exemptIds : List VmId)
    (raw : List ProxmoxQemuResource) (st : PassState) : Prop where
  viewed : Viewed log recorded exemptIds raw
  initial : (initialPass (activeVms recorded exemptIds) raw).Extends st
  grounded : Grounded log st
  covered : ∀ vm ∈ activeVms recorded exemptIds, ∀ dim ∈ perVmDimensions, Covered log st vm dim

theorem Checked.mono (h : Checked log recorded exemptIds raw st)
    (hmore : SeesMore log log') : Checked log' recorded exemptIds raw st :=
  ⟨h.viewed.mono hmore, h.initial, h.grounded.mono hmore,
    fun vm hvm dim hdim => (h.covered vm hvm dim hdim).mono hmore (.refl st)⟩

theorem holds_checkVms (hview : Viewed log recorded exemptIds raw) :
    observing.holds ((activeVms recorded exemptIds).foldlM (checkVm now (findableResources raw))
      (initialPass (activeVms recorded exemptIds) raw)) (fun r log' => match r with
        | .ok st => Checked log' recorded exemptIds raw st
        | .error _ => True) log := by
  refine Context.holds_foldlM_inv (I := fun rest st log' => SeesMore log log' ∧
      (initialPass (activeVms recorded exemptIds) raw).Extends st ∧ Grounded log' st ∧
      (∀ vm ∈ rest, vm ∈ activeVms recorded exemptIds) ∧
      ∀ vm ∈ activeVms recorded exemptIds,
        vm ∈ rest ∨ ∀ dim ∈ perVmDimensions, Covered log' st vm dim) ?_ ?_ ?_
  · rintro st vm rest log' ⟨hmore, hextends, hgrounded, hrest, hcovered⟩
    have hview' := hview.mono hmore
    refine Context.holds_mono (holds_checkVm hgrounded
      (hview'.isTracked (hrest vm List.mem_cons_self)) hview'.listing) fun r log'' hr => ?_
    cases r with
    | error e => trivial
    | ok st' =>
        obtain ⟨hmore', hextends', hgrounded', hcovers⟩ := hr
        refine ⟨hmore.trans hmore', hextends.trans hextends', hgrounded',
          fun vm' h => hrest vm' (List.mem_cons_of_mem vm h), fun vm' hvm' => ?_⟩
        obtain hin | hdone := hcovered vm' hvm'
        · obtain rfl | hin := List.mem_cons.mp hin
          · exact .inr hcovers
          · exact .inl hin
        · exact .inr fun dim hdim => (hdone dim hdim).mono hmore' hextends'
  · rintro st log' ⟨hmore, hextends, hgrounded, -, hcovered⟩
    exact ⟨hview.mono hmore, hextends, hgrounded, fun vm hvm =>
      (hcovered vm hvm).resolve_left List.not_mem_nil⟩
  · exact ⟨.refl log, .refl _, grounded_initialPass hview, fun _ h => h, fun _ h => .inl h⟩

/-! ### What is resolved and what is not -/

theorem Ran.shaped {vm : VmRow} {dim : DriftDimension} (hran : Ran log vm dim findings) (hd : d ∈ findings) :
    ∃ f : Fingerprint, d.fingerprint = f.text ∧ f.dimension = dim ∧ d.dimension = dim ∧
      (dim = .guac ∧ f.owner = none ∨ f.owner = some vm.id ∧ d.vmId = some vm.id) := by
  cases hran with
  | listed hvm hraw hlisted => cases hd
  | missing hvms hvm hraw hwhole habsent =>
      cases List.mem_singleton.mp hd
      exact ⟨.deleted vm.id, rfl, rfl, rfl, .inr ⟨rfl, rfl⟩⟩
  | config hvm hraw hlive =>
      obtain ⟨lr, rfl | rfl⟩ := mem_configDriftOf hd
      · exact ⟨.config vm.id "name", nameFinding_fingerprint vm lr, rfl, rfl, .inr ⟨rfl, rfl⟩⟩
      · exact ⟨.config vm.id "node", nodeFinding_fingerprint vm lr, rfl, rfl, .inr ⟨rfl, rfl⟩⟩
  | hw hvm hraw hlive hcfg hstate husable =>
      obtain ⟨field, old, new, rfl⟩ := mem_detectHardwareDrift hd
      exact ⟨.hw vm.id field, rfl, rfl, rfl, .inr ⟨rfl, rfl⟩⟩
  | ip hvm hraw hlive hagent husable =>
      obtain ⟨old, new, rfl⟩ := mem_detectIpDrift hd
      exact ⟨.ip vm.id, rfl, rfl, rfl, .inr ⟨rfl, rfl⟩⟩
  | noCredential hvm hraw hlive hrunning hcred => cases hd
  | accepted hvm hip hprobe hstatus => cases hd
  | rejected hvm hip hprobe hstatus =>
      cases List.mem_singleton.mp hd
      exact ⟨.credential vm.id, rfl, rfl, rfl, .inr ⟨rfl, rfl⟩⟩
  | guac hrecords hconnections =>
      obtain ⟨conn, -, -, rfl⟩ := mem_detectOrphanGuac.mp hd
      exact ⟨.guac conn.id, rfl, rfl, rfl, .inl ⟨rfl, rfl⟩⟩

theorem Supported.shaped (h : Supported log d) : ShapedAs d.fingerprint d.dimension d.vmId := by
  obtain ⟨vm, dim, findings, hran, hd⟩ := h
  obtain ⟨f, hf, hfdim, hdim, howner⟩ := hran.shaped hd
  refine ⟨f, hf, hdim.trans hfdim.symm, fun v hv => ?_⟩
  obtain ⟨-, hnone⟩ | ⟨hsome, hvm⟩ := howner
  · rw [hnone] at hv
    cases hv
  · rw [hsome] at hv
    exact hvm.trans hv

def passOpts (now : Time) (exemptIds : List VmId) (st : PassState) : ApplyOpts :=
  { now, exemptVmIds := exemptIds, unrefined := st.unrefined, resolveStale := true }

structure Complete (log : PassLog) (recorded : List VmRow) (exemptIds : List VmId)
    (raw : List ProxmoxQemuResource) (st : PassState) (detected : List Detected) : Prop where
  checked : Checked log recorded exemptIds raw st
  guac : ∃ connections, ⟨.guacListAllConnectionRecords, .ok connections⟩ ∈ log ∧
    detected = st.detected ++ detectOrphanGuac connections (recorded.map VmRow.id)

variable {detected : List Detected} {row : DriftFindingRow} {v : VmId}

theorem Complete.mono (h : Complete log recorded exemptIds raw st detected)
    (hmore : SeesMore log log') : Complete log' recorded exemptIds raw st detected := by
  obtain ⟨connections, hconnections, hdetected⟩ := h.guac
  exact ⟨h.checked.mono hmore, connections, hmore.subset hconnections, hdetected⟩

theorem Complete.supported (h : Complete log recorded exemptIds raw st detected)
    (hd : d ∈ detected) : Supported log d := by
  obtain ⟨connections, hconnections, rfl⟩ := h.guac
  obtain hd | hd := List.mem_append.mp hd
  · exact h.checked.grounded.supported d hd
  · obtain ⟨conn, hconn, horphan, rfl⟩ := mem_detectOrphanGuac.mp hd
    exact ⟨default, .guac, _, .guac h.checked.viewed.records hconnections,
      mem_detectOrphanGuac.mpr ⟨conn, hconn, horphan, rfl⟩⟩

theorem Evidence.of_ran {vm : VmRow} (hvm : Tracked log vm)
    (hid : vm.id = v) (hran : Ran log vm row.dimension findings) (hsubset : findings ⊆ detected)
    (hnot : row.fingerprint ∉ detected.map Detected.fingerprint) : Evidence log v row := by
  refine .notReproduced hvm hid hran fun hmem => hnot ?_
  obtain ⟨d, hd, heq⟩ := List.mem_map.mp hmem
  exact List.mem_map.mpr ⟨d, hsubset hd, heq⟩

theorem Complete.evidence_or_unchecked (h : Complete log recorded exemptIds raw st detected)
    (hv : row.vmId = some v) (hstale : isStale detected (passOpts now exemptIds st) row = true) :
    Evidence log v row ∨ Unchecked log v row := by
  obtain ⟨hnot, hfree⟩ := isStale_eq_true.mp hstale
  obtain ⟨hexempt, hmarked⟩ := hfree v hv
  have hview := h.checked.viewed
  obtain ⟨connections, hconnections, hdetected⟩ := h.guac
  have hgathered : st.detected ⊆ detected := by
    rw [hdetected]
    exact List.subset_append_left _ _
  by_cases hknown : v ∈ recorded.map VmRow.id
  · obtain ⟨vm, hmem, hid⟩ := List.mem_map.mp hknown
    have hactive : vm ∈ activeVms recorded exemptIds :=
      List.mem_filter.mpr ⟨hmem, decide_eq_true (by rw [hid]; exact hexempt)⟩
    have hvm : Tracked log vm := hview.isTracked hactive
    have hperVm : row.dimension ∈ perVmDimensions → Evidence log v row := fun hdim => by
      obtain hmark | ⟨findings, hsubset, hran⟩ := h.checked.covered vm hactive _ hdim
      · exact absurd (by rw [← hid]; exact hmark) hmarked
      · exact .of_ran hvm hid hran (fun _ hd => hgathered (hsubset hd)) hnot
    cases hdim : row.dimension with
    | hw => exact .inl (hperVm (by rw [hdim]; decide))
    | ip => exact .inl (hperVm (by rw [hdim]; decide))
    | credential => exact .inl (hperVm (by rw [hdim]; decide))
    | guac =>
        have hran : Ran log vm row.dimension
            (detectOrphanGuac connections (recorded.map VmRow.id)) := by
          rw [hdim]
          exact .guac hview.records hconnections
        refine .inl (.of_ran hvm hid hran ?_ hnot)
        rw [hdetected]
        exact List.subset_append_right _ _
    | config =>
        -- compared only if the cluster lists a guest for one of the records of this id
        by_cases hlive : ∃ vm ∈ activeVms recorded exemptIds, vm.id = v ∧
            hasVmid (findableResources raw) vm.vmid = true
        · obtain ⟨vm', hactive', hid', hlive⟩ := hlive
          have hran : Ran log vm' row.dimension
              (configDriftOf (findableResources raw) vm') := by
            rw [hdim]
            exact .config (hview.isTracked hactive') hview.listing hlive
          refine .inl (.of_ran (hview.isTracked hactive') hid' hran (fun d hd => ?_) hnot)
          exact hgathered (h.checked.initial.detected (config_subset_initialPass _ _
            (List.mem_flatMap.mpr ⟨vm', hactive', hd⟩)))
        · refine .inr ⟨raw, _, hview.listing, hview.tracked, ⟨vm, hactive, hid⟩, .inl ⟨hdim, ?_⟩⟩
          intro vm' hvm' hid'
          exact Bool.eq_false_iff.mpr fun hlisted => hlive ⟨vm', hvm', hid', hlisted⟩
    | deleted =>
        by_cases hlisted : ∃ vm ∈ activeVms recorded exemptIds, vm.id = v ∧
            hasVmid (allQemuResources raw) vm.vmid = true
        · obtain ⟨vm', hactive', hid', hlisted⟩ := hlisted
          have hran : Ran log vm' row.dimension [] := by
            rw [hdim]
            exact .listed (hview.isTracked hactive') hview.listing hlisted
          exact .inl (.of_ran (hview.isTracked hactive') hid' hran (List.nil_subset _) hnot)
        · have habsent : ∀ vm' ∈ activeVms recorded exemptIds, vm'.id = v →
              hasVmid (allQemuResources raw) vm'.vmid = false := fun vm' hvm' hid' =>
            Bool.eq_false_iff.mpr fun hlisted' => hlisted ⟨vm', hvm', hid', hlisted'⟩
          cases hwhole : clusterViewLooksDegraded (activeVms recorded exemptIds).length
              (detectDeletedVms (activeVms recorded exemptIds) (allQemuResources raw)).length with
          | true =>
              exact .inr ⟨raw, _, hview.listing, hview.tracked, ⟨vm, hactive, hid⟩,
                .inr ⟨hdim, hwhole, habsent⟩⟩
          | false =>
              have hran : Ran log vm row.dimension [deletedFinding vm] := by
                rw [hdim]
                exact .missing hview.tracked hactive hview.listing hwhole (habsent vm hactive hid)
              refine .inl (.of_ran hvm hid hran (fun d hd => ?_) hnot)
              rw [List.mem_singleton.mp hd]
              refine hgathered (h.checked.initial.detected ?_)
              simp only [initialPass, hwhole, Bool.false_eq_true, ↓reduceIte]
              exact List.mem_append_right _
                (mem_detectDeletedVms.mpr ⟨vm, hactive, habsent vm hactive hid, rfl⟩)
  · exact .inl (.recordGone hview.records hknown)

theorem Complete.stale_of_unchecked (h : Complete log recorded exemptIds raw st detected)
    (hshaped : ShapedAs row.fingerprint row.dimension row.vmId) (hv : row.vmId = some v)
    (hunchecked : Unchecked log v row) : isStale detected (passOpts now exemptIds st) row = true := by
  have hview := h.checked.viewed
  obtain ⟨raw', vms, hraw, hvms, ⟨vm, hvm, hid⟩, hskipped⟩ := hunchecked
  cases hraw.symm.trans hview.listing
  cases hvms.symm.trans hview.tracked
  have hexempt : v ∉ exemptIds := by
    rw [← hid]
    exact of_decide_eq_true (List.mem_filter.mp hvm).2
  refine isStale_eq_true.mpr ⟨fun hmem => ?_, fun v' hv' => ?_⟩
  · obtain ⟨d, hd, heq⟩ := List.mem_map.mp hmem
    obtain ⟨vm', dim, findings, hran, hd⟩ := h.supported hd
    obtain ⟨f, hf, hfdim, -, howner⟩ := hran.shaped hd
    obtain ⟨f', hf', hfdim', howner'⟩ := hshaped
    have hsame : f = f' := Fingerprint.text_injective (by rw [← hf, heq, hf'])
    subst hsame
    obtain ⟨rfl, -⟩ | ⟨howns, -⟩ := howner
    · rw [hfdim] at hfdim'
      obtain ⟨hdim, -⟩ | ⟨hdim, -⟩ := hskipped
      · cases hfdim'.symm.trans hdim
      · cases hfdim'.symm.trans hdim
    · -- the finding of the check is about the same VM
      have hid' : vm'.id = v := by
        have := (howner' vm'.id howns).symm.trans hv
        exact Option.some_inj.mp this
      rw [hfdim] at hfdim'
      obtain ⟨hdim, hnone⟩ | ⟨hdim, hdegraded, hnone⟩ := hskipped
      · cases hfdim'.symm.trans hdim
        cases hran with
        | config hvm' hraw' hlive' =>
            cases hraw'.symm.trans hview.listing
            obtain ⟨vms', hvms', hmem'⟩ := hvm'
            cases hvms'.symm.trans hview.tracked
            exact absurd hlive' (by rw [hnone vm' hmem' hid']; exact Bool.false_ne_true)
      · cases hfdim'.symm.trans hdim
        cases hran with
        | listed _ _ _ => cases hd
        | missing hvms' hvm' hraw' hwhole _ =>
            cases hraw'.symm.trans hview.listing
            cases hvms'.symm.trans hview.tracked
            exact absurd hdegraded (by rw [hwhole]; exact Bool.false_ne_true)
  · cases hv.symm.trans hv'
    refine ⟨hexempt, fun hmarked => ?_⟩
    have hperVm := h.checked.grounded.marks v _ hmarked
    obtain ⟨hdim, -⟩ | ⟨hdim, -⟩ := hskipped
    · rw [hdim] at hperVm
      exact absurd hperVm (by decide)
    · rw [hdim] at hperVm
      exact absurd hperVm (by decide)

/-! ### What a pass owes -/

theorem holds_upsertFinding {counts : ApplyCounts} (hd : Supported log d) (hactive : activeRows log = none) :
    observing.holds (upsertFinding now counts d) (fun _ log' => SeesMore log log') log := by
  refine holds_observe rfl trivial (fun prior h₁ => ?_) fun _ h₁ => h₁
  cases prior with
  | none =>
      refine holds_observe rfl trivial (fun id h₂ => ?_) fun _ h₂ => h₁.trans h₂
      have hmore := h₁.trans h₂
      refine holds_observe rfl ⟨hd.mono hmore, hmore.active.trans hactive⟩ (fun _ h₃ => ?_)
        fun _ h₃ => hmore.trans h₃
      exact hmore.trans h₃
  | some prior =>
      refine holds_observe rfl ⟨hd.mono h₁, h₁.active.trans hactive⟩ (fun _ h₂ => ?_)
        fun _ h₂ => h₁.trans h₂
      exact h₁.trans h₂

theorem holds_resolveStale (h : Complete log recorded exemptIds raw st detected) :
    observing.holds (resolveStaleFindings detected (passOpts now exemptIds st)) (fun _ _ => True) log := by
  refine holds_record_bind trivial (fun active => ?_) fun _ => trivial
  refine Context.holds_ite.mpr ⟨fun _ => trivial, fun _ => ?_⟩
  refine holds_aloneOwing_perform.mpr ⟨⟨_, active, rfl, rfl, fun row _ v hv => ?_⟩,
    fun _ _ _ => trivial⟩
  -- the last read adds nothing to what the checks have seen
  have hview := seesView_listActive (.ok active) log
  exact ⟨fun hstale => (h.evidence_or_unchecked hv hstale).imp (·.keep hview)
      (unchecked_keep hview).mpr,
    fun hshaped hunchecked => h.stale_of_unchecked hshaped hv ((unchecked_keep hview).mp hunchecked)⟩

theorem holds_applyFindings (h : Complete log recorded exemptIds raw st detected) :
    observing.holds (applyFindings detected (passOpts now exemptIds st)) (fun _ _ => True) log := by
  unfold applyFindings
  rw [Context.holds_bind]
  refine Context.holds_foldlM (I := fun _ log' => SeesMore log log') ?_ ?_ (.refl log)
  · intro counts d hd log' hmore
    refine Context.holds_mono (holds_upsertFinding ((h.supported hd).mono hmore)
      (hmore.active.trans h.checked.viewed.active)) fun r log'' hr => ?_
    cases r with
    | ok counts => exact hmore.trans hr
    | error e => trivial
  · intro counts log' hmore
    refine Context.holds_ite.mpr ⟨fun _ => ?_, fun hnot => absurd rfl hnot⟩
    rw [Context.holds_bind]
    refine Context.holds_mono (holds_resolveStale (h.mono hmore)) fun r log'' _ => ?_
    cases r with
    | ok resolved => trivial
    | error e => trivial

theorem holds_finishPass (h : Checked log recorded exemptIds raw st) :
    observing.holds (finishPass now recorded exemptIds st) (fun _ _ => True) log := by
  have hrecords : records log ≠ none := by
    rw [h.viewed.records]
    exact Option.some_ne_none recorded
  refine holds_observe rfl hrecords (fun connections h₁ => ?_) fun _ _ => trivial
  have hcomplete : Complete _ recorded exemptIds raw st _ :=
    ⟨h.mono h₁, connections, List.mem_cons_self, rfl⟩
  rw [Context.holds_bind]
  refine Context.holds_mono (holds_applyFindings hcomplete) fun r log' _ => ?_
  cases r with
  | error e => trivial
  | ok counts => exact holds_observe rfl trivial (fun _ _ => trivial) fun _ _ => trivial

theorem holds_checkFleet (hraw : listing log = some raw) (hrecords : records log = none)
    (hexempt : exempt log = none) (hactive : activeRows log = none) :
    observing.holds (checkFleet now raw) (fun _ _ => True) log := by
  have hlisted : listing log ≠ none := by
    rw [hraw]
    exact Option.some_ne_none raw
  refine holds_record_bind ⟨hlisted, hrecords⟩ (fun recorded => ?_) fun _ => trivial
  refine holds_record_bind hexempt (fun exemptIds => ?_) fun _ => trivial
  rw [Context.holds_bind]
  refine Context.holds_mono (holds_checkVms ⟨hraw, rfl, rfl, hactive⟩) fun r log' hr => ?_
  cases r with
  | error e => trivial
  | ok st => exact holds_finishPass hr

theorem pass_owes (now : Time) : observing.holds (runDriftPass now) (fun _ _ => True) [] := by
  have hskip : ∀ reason log, observing.holds (skipPass now reason) (fun _ _ => True) log :=
    fun reason log => Context.holds_ite.mpr ⟨fun _ => trivial, fun _ =>
      holds_observe rfl trivial (fun _ _ => trivial) fun _ _ => trivial⟩
  refine holds_observe rfl trivial (fun setting _ => ?_) fun _ _ => trivial
  refine Context.holds_ite.mpr ⟨fun _ => ?_, fun _ => hskip _ _⟩
  rw [Context.holds_bind]
  unfold attempt
  rw [Context.holds_tryCatch, Context.holds_bind]
  refine holds_observe rfl trivial (fun _ _ => ?_) fun e _ => hskip _ _
  refine holds_aloneOwing_perform.mpr ⟨rfl, ?_⟩
  rintro (e | raw) _ rfl
  · exact hskip _ _
  · exact holds_checkFleet rfl rfl rfl rfl

end pass

end ProxVM
