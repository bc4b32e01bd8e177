import ProxVM.Drift.Lifecycle

/-!
# Remediation acts on verified drift only

Each remediation reads before it writes.  `Verified` lists, for each of them, what it
must have seen in the database and in the replies of the live systems; the main
result **`remediation_verified`** says that every call of a remediation is a lookup or
comes after all of that.
-/

namespace ProxVM

open Tables Interaction

/-! ## Lookups -/

def Call.isLookup : Call → Bool
  | .vmsFindById _ => true
  | .getProxmoxClient => true
  | .getGuacDb => true
  | .proxmoxGuestIpAddresses _ _ => true
  | .guacListConnectionRecords _ => true
  | _ => false

def DriftCall.isLookup : DriftCall → Bool
  | .base c => c.isLookup
  | .clusterResources => true
  | .qemuConfig _ _ => true
  | .vmsList => true
  | .jobsActiveJobsForVm _ => true
  | .findingById _ => true
  | _ => false

theorem Served.eq_of_answer {c : Call} {w w' : World} {r : Except Failure c.Reply}
    (hserved : Served c w r w') (hlocal : c.isRemote = false)
    (hanswer : ∀ given, (w.answer c given).2 = w) : w' = w := by
  obtain ⟨given, heq⟩ | ⟨e, heq⟩ := hserved.cases hlocal
  · have hsame := hanswer given
    rw [heq] at hsame
    exact hsame
  · have hsame := World.failed_snd (w := w) (c := c) e
    rw [heq] at hsame
    exact hsame

theorem Served.eq_of_isLookup {c : Call} {w w' : World} {r : Except Failure c.Reply}
    (hserved : Served c w r w') (hlookup : c.isLookup = true) : w' = w := by
  cases c with
  | vmsFindById id => exact hserved.eq_of_answer rfl fun _ => rfl
  | getProxmoxClient => exact hserved.eq_of_answer rfl fun _ => rfl
  | getGuacDb => exact hserved.eq_of_answer rfl fun _ => rfl
  | proxmoxGuestIpAddresses node vmid => exact hserved.eq_of_answer rfl fun _ => rfl
  | guacListConnectionRecords vmId => exact hserved.eq_of_answer rfl fun _ => rfl
  | _ => cases hlookup

theorem DriftServed.eq_of_isLookup {c : DriftCall} {w w' : DriftWorld}
    {r : Except Failure c.Reply} (hserved : DriftServed c w r w') (hlookup : c.isLookup = true) : w' = w := by
  cases c with
  | base b =>
      obtain ⟨hbase, hfindings, hvmState⟩ := hserved.base
      obtain ⟨base, findings, vmState⟩ := w'
      cases hbase.eq_of_isLookup hlookup
      cases hfindings
      cases hvmState
      rfl
  | clusterResources =>
      obtain ⟨e, -, rfl⟩ | ⟨given, hanswer⟩ := hserved.cases rfl
      · rfl
      · cases hanswer
        rfl
  | qemuConfig node vmid =>
      obtain ⟨e, -, rfl⟩ | ⟨given, hanswer⟩ := hserved.cases rfl
      · rfl
      · cases hanswer
        rfl
  | vmsList =>
      obtain ⟨e, -, rfl⟩ | ⟨given, hanswer⟩ := hserved.cases rfl
      · rfl
      · cases hanswer
        rfl
  | jobsActiveJobsForVm vmId =>
      obtain ⟨e, -, rfl⟩ | ⟨given, hanswer⟩ := hserved.cases rfl
      · rfl
      · cases hanswer
        rfl
  | findingById id =>
      obtain ⟨e, -, rfl⟩ | ⟨given, hanswer⟩ := hserved.cases rfl
      · rfl
      · cases hanswer
        rfl
  | _ => cases hlookup

/-! ## What a remediation has verified -/

abbrev DriftLog : Type := Log driftCalls Failure

structure Actionable (w : DriftWorld) (id : FindingId) (finding : DriftFindingRow) : Prop where
  found : w.findings.findById id = some finding
  active : finding.status ≠ .resolved

structure IdleTarget (w : DriftWorld) (finding : DriftFindingRow) (vm : VmRow) : Prop where
  target : ∃ id, finding.vmId = some id ∧ findVmById w.base.db id = some vm
  idle : w.base.db.activeJobsForVm vm.id = []

def AdoptChecked (log : DriftLog) (finding : DriftFindingRow) (vm : VmRow)
    (lr : DriftLiveResource) : Prop :=
  (finding.dimension = .config ∧ ((detailField finding.detail = "name" ∧
      (presentText lr.name).isSome) ∨ detailField finding.detail = "node")) ∨
    (finding.dimension = .hw ∧ ∃ cfg : HardwareConfig,
      ⟨.qemuConfig lr.node vm.vmid, .ok cfg⟩ ∈ log ∧ cfg.usable.isSome)

/-- What each remediation of the finding `id` has seen before it writes. -/
inductive Verified (w : DriftWorld) (id : FindingId) (log : DriftLog) : Remediation → Prop
  | decommission {finding : DriftFindingRow} {vm : VmRow} {raw : List ProxmoxQemuResource}
      (hfinding : Actionable w id finding) (hdimension : finding.dimension = .deleted)
      (hvm : IdleTarget w finding vm) (hread : ⟨.clusterResources, .ok raw⟩ ∈ log)
      (habsent : hasVmid (allQemuResources raw) vm.vmid = false)
      (hwhole : clusterViewLooksDegraded w.base.db.listVms.length
        (vanishedCount w.base.db.listVms (allQemuResources raw)) = false) :
      Verified w id log .decommission
  | adopt {finding : DriftFindingRow} {vm : VmRow} {raw : List ProxmoxQemuResource}
      {lr : DriftLiveResource} (hfinding : Actionable w id finding) (hvm : IdleTarget w finding vm)
      (hread : ⟨.clusterResources, .ok raw⟩ ∈ log)
      (hlive : findLive (findableResources raw) vm.vmid = some lr)
      (hchecked : AdoptChecked log finding vm lr) : Verified w id log .adopt
  | resyncIp {finding : DriftFindingRow} {vm : VmRow} {node : String} {info : AgentInfo}
      {ip : String} (hfinding : Actionable w id finding) (hdimension : finding.dimension = .ip)
      (hvm : IdleTarget w finding vm) (hdynamic : vm.ipStatic = false)
      (hread : ⟨.base (.proxmoxGuestIpAddresses node vm.vmid), .ok (some info)⟩ ∈ log)
      (husable : presentText (selectUsableIpv4 info.ipv4s) = some ip) : Verified w id log .resyncIp
  | deleteOrphan {finding : DriftFindingRow} {connectionId : ConnectionId}
      (hfinding : Actionable w id finding) (hdimension : finding.dimension = .guac)
      (hconnection : finding.connectionId = some connectionId)
      (hgone : ∀ vmId, finding.vmId = some vmId → findVmById w.base.db vmId = none) :
      Verified w id log .deleteOrphan

theorem Verified.mono {w : DriftWorld} {id : FindingId} {log log' : DriftLog} {kind : Remediation}
    (hverified : Verified w id log kind) (hlog : log ⊆ log') : Verified w id log' kind := by
  cases hverified with
  | decommission hfinding hdimension hvm hread habsent hwhole =>
      exact .decommission hfinding hdimension hvm (hlog hread) habsent hwhole
  | adopt hfinding hvm hread hlive hchecked =>
      refine .adopt hfinding hvm (hlog hread) hlive (hchecked.imp (fun h => h) ?_)
      rintro ⟨hdimension, cfg, hcfg, husable⟩
      exact ⟨hdimension, cfg, hlog hcfg, husable⟩
  | resyncIp hfinding hdimension hvm hdynamic hread husable =>
      exact .resyncIp hfinding hdimension hvm hdynamic (hlog hread) husable
  | deleteOrphan hfinding hdimension hconnection hgone =>
      exact .deleteOrphan hfinding hdimension hconnection hgone

/-! ## The programs, symbolically -/

/-- The context of a remediation of `id` that starts in `w`: every call is a lookup or
comes after the verification. -/
abbrev verifying (w : DriftWorld) (id : FindingId) (kind : Remediation) :
    Context driftCalls Failure (DriftWorld × DriftLog) :=
  aloneOwing (logging DriftServed) fun c s => c.isLookup = true ∨ Verified w id s.2 kind

section programs

variable {w : DriftWorld} {id : FindingId} {kind : Remediation} {log : DriftLog} {α : Type}

abbrev AnyEnd : Except Failure α → DriftWorld × DriftLog → Prop := fun _ _ => True

theorem holds_verified {p : DriftTask α} {s : DriftWorld × DriftLog}
    (hverified : Verified w id s.2 kind) : (verifying w id kind).holds p AnyEnd s := by
  refine Context.holds_mono (holds_aloneOwing_of_stable (I := fun s => Verified w id s.2 kind)
    (fun _ _ h => .inr h) (fun c s r s' h hserve => ?_) hverified) fun _ _ _ => trivial
  rw [hserve.2]
  exact h.mono (List.subset_cons_self _ _)

theorem holds_lookup {c : DriftCall} {f : c.Reply → DriftTask α}
    {Q : Except Failure α → DriftWorld × DriftLog → Prop} (hlookup : c.isLookup = true)
    (hok : ∀ a, DriftServed c w (.ok a) w → (verifying w id kind).holds (f a) Q (w, ⟨c, .ok a⟩ :: log))
    (herror : ∀ e, Q (.error e) (w, ⟨c, .error e⟩ :: log)) :
    (verifying w id kind).holds (askDrift c >>= f) Q (w, log) := by
  refine holds_askDrift_bind.mpr ⟨.inl hlookup, ?_, ?_⟩
  · rintro a ⟨w', log'⟩ ⟨hserved, hlog⟩
    have hsame : w' = w := hserved.eq_of_isLookup hlookup
    cases hlog
    cases hsame
    exact hok a hserved
  · rintro e ⟨w', log'⟩ ⟨hserved, hlog⟩
    have hsame : w' = w := hserved.eq_of_isLookup hlookup
    cases hlog
    cases hsame
    exact herror e

/-- A success of a program that only reads: the world is the same and `φ` holds of the value
and the log. -/
def Reads (w : DriftWorld) (φ : α → DriftLog → Prop) :
    Except Failure α → DriftWorld × DriftLog → Prop
  | .ok a, s => s.1 = w ∧ φ a s.2
  | .error _, _ => True

theorem holds_reads_bind {β : Type} {p : DriftTask α} {f : α → DriftTask β}
    {φ : α → DriftLog → Prop} {Q : Except Failure β → DriftWorld × DriftLog → Prop}
    (hp : (verifying w id kind).holds p (Reads w φ) (w, log))
    (hf : ∀ a log', φ a log' → (verifying w id kind).holds (f a) Q (w, log'))
    (herror : ∀ e s, Q (.error e) s) : (verifying w id kind).holds (p >>= f) Q (w, log) := by
  rw [Context.holds_bind]
  refine Context.holds_mono hp fun r s' hr => ?_
  cases r with
  | error e => exact herror e s'
  | ok a =>
      obtain ⟨w', log'⟩ := s'
      obtain ⟨rfl, hφ⟩ := hr
      exact hf a log' hφ

variable {vmId : VmId} {finding : DriftFindingRow} {refusal : String} {vm : VmRow} {actor : DriftActor} {now : Time}

theorem served_vmsFindById {found : Option VmRow}
    (hserved : DriftServed (.base (.vmsFindById vmId)) w (.ok found) w) :
    found = findVmById w.base.db vmId := by
  obtain ⟨given, heq⟩ | ⟨e, heq⟩ := hserved.base.1.cases rfl
  · cases heq
    rfl
  · cases heq

theorem served_activeJobsForVm {jobs : List JobRow}
    (hserved : DriftServed (.jobsActiveJobsForVm vmId) w (.ok jobs) w) :
    jobs = w.base.db.activeJobsForVm vmId := by
  obtain ⟨e, he, -⟩ | ⟨given, hanswer⟩ := hserved.cases rfl
  · cases he
  · cases hanswer
    rfl

theorem served_vmsList {vms : List VmRow} {w' : DriftWorld}
    (hserved : DriftServed .vmsList w (.ok vms) w') : vms = w.base.db.listVms := by
  obtain ⟨e, he, -⟩ | ⟨given, hanswer⟩ := hserved.cases rfl
  · cases he
  · cases hanswer
    rfl

theorem holds_activeFinding : (verifying w id kind).holds (activeFinding id)
    (Reads w fun finding _ => Actionable w id finding) (w, log) := by
  refine holds_lookup rfl (fun found hserved => ?_) fun _ => trivial
  cases found with
  | none => trivial
  | some row =>
      refine Context.holds_ite.mpr ⟨fun _ => trivial, fun hactive => ⟨rfl, ?_, hactive⟩⟩
      exact (served_findingById hserved).2.symm

theorem holds_findingTarget {dimension : DriftDimension} : (verifying w id kind).holds (findingTarget finding dimension refusal)
      (Reads w fun vmId _ => finding.dimension = dimension ∧ finding.vmId = some vmId) (w, log) :=
  Context.holds_ite.mpr ⟨fun hdimension => Context.holds_orRaise.mpr
    ⟨fun _ hvmId => ⟨rfl, hdimension, hvmId⟩, fun _ => trivial⟩, fun _ => trivial⟩

theorem holds_requireVm : (verifying w id kind).holds (requireVm vmId refusal)
      (Reads w fun vm _ => findVmById w.base.db vmId = some vm) (w, log) := by
  refine holds_lookup rfl (fun found hserved => ?_) fun _ => trivial
  exact Context.holds_orRaise.mpr
    ⟨fun vm hvm => ⟨rfl, (served_vmsFindById hserved).symm.trans hvm⟩, fun _ => trivial⟩

theorem holds_assertNoActiveJob : (verifying w id kind).holds (assertNoActiveJob vmId)
      (Reads w fun _ _ => w.base.db.activeJobsForVm vmId = []) (w, log) := by
  refine holds_lookup rfl (fun jobs hserved => ?_) fun _ => trivial
  refine Context.holds_ite.mpr ⟨fun hnone => ⟨rfl, ?_⟩, fun _ => trivial⟩
  rw [← hnone]
  exact (served_activeJobsForVm hserved).symm

theorem holds_verifyAbsent : (verifying w id kind).holds (verifyAbsent vm)
    (Reads w fun _ log' => ∃ raw, ⟨.clusterResources, .ok raw⟩ ∈ log' ∧
      hasVmid (allQemuResources raw) vm.vmid = false ∧ clusterViewLooksDegraded w.base.db.listVms.length
        (vanishedCount w.base.db.listVms (allQemuResources raw)) = false) (w, log) := by
  refine holds_lookup rfl (fun _ _ => ?_) fun _ => trivial
  refine holds_lookup rfl (fun raw _ => ?_) fun _ => trivial
  refine Context.holds_ite.mpr ⟨fun _ => trivial, fun habsent => ?_⟩
  refine holds_lookup rfl (fun tracked hserved => ?_) fun _ => trivial
  have htracked : tracked = w.base.db.listVms := served_vmsList hserved
  subst htracked
  refine Context.holds_ite.mpr ⟨fun _ => trivial, fun hwhole => ⟨rfl, raw, ?_, ?_, ?_⟩⟩
  · exact List.mem_cons_of_mem _ List.mem_cons_self
  · exact Bool.eq_false_iff.mpr habsent
  · exact Bool.eq_false_iff.mpr hwhole

theorem holds_requireLive : (verifying w id kind).holds (requireLive vm)
    (Reads w fun lr log' => ∃ raw, ⟨.clusterResources, .ok raw⟩ ∈ log' ∧
      findLive (findableResources raw) vm.vmid = some lr) (w, log) := by
  refine holds_lookup rfl (fun _ _ => ?_) fun _ => trivial
  refine holds_lookup rfl (fun raw _ => ?_) fun _ => trivial
  exact Context.holds_orRaise.mpr
    ⟨fun lr hlive => ⟨rfl, raw, List.mem_cons_self, hlive⟩, fun _ => trivial⟩

theorem holds_liveNode : (verifying w id kind).holds (liveNode vm) (Reads w fun _ _ => True) (w, log) := by
  unfold liveNode
  rw [Context.holds_tryCatch]
  exact holds_lookup rfl (fun _ _ => ⟨rfl, trivial⟩) fun _ => ⟨rfl, trivial⟩

theorem holds_agentIp : (verifying w id kind).holds (agentIp vm) (Reads w fun ip log' => ∃ node info,
      ⟨.base (.proxmoxGuestIpAddresses node vm.vmid), .ok (some info)⟩ ∈ log' ∧
      presentText (selectUsableIpv4 info.ipv4s) = some ip) (w, log) := by
  refine holds_lookup rfl (fun _ _ => ?_) fun _ => trivial
  refine holds_reads_bind holds_liveNode (fun node log _ => ?_) fun _ _ => trivial
  refine holds_lookup rfl (fun agent _ => ?_) fun _ => trivial
  cases agent with
  | none => trivial
  | some info =>
      exact Context.holds_orRaise.mpr
        ⟨fun ip husable => ⟨rfl, node, info, List.mem_cons_self, husable⟩, fun _ => trivial⟩

/-! ## The remediations -/

theorem holds_decommission :
    (verifying w id .decommission).holds (decommissionDriftVm id actor now) AnyEnd (w, log) := by
  refine holds_reads_bind holds_activeFinding (fun finding _ hfinding => ?_) fun _ _ => trivial
  refine holds_reads_bind holds_findingTarget (fun vmId _ htarget => ?_) fun _ _ => trivial
  refine holds_reads_bind holds_requireVm (fun vm _ hvm => ?_) fun _ _ => trivial
  refine holds_reads_bind holds_assertNoActiveJob (fun _ _ hidle => ?_) fun _ _ => trivial
  refine holds_reads_bind holds_verifyAbsent (fun _ _ hverified => ?_) fun _ _ => trivial
  obtain ⟨raw, hread, habsent, hwhole⟩ := hverified
  have htarget' : IdleTarget w finding vm := ⟨⟨vmId, htarget.2, hvm⟩, hidle⟩
  exact holds_verified (.decommission hfinding htarget.1 htarget' hread habsent hwhole)

theorem holds_resyncIp : (verifying w id .resyncIp).holds (resyncDriftIp id actor now) AnyEnd (w, log) := by
  refine holds_reads_bind holds_activeFinding (fun finding _ hfinding => ?_) fun _ _ => trivial
  refine holds_reads_bind holds_findingTarget (fun vmId _ htarget => ?_) fun _ _ => trivial
  refine holds_reads_bind holds_requireVm (fun vm _ hvm => ?_) fun _ _ => trivial
  refine holds_reads_bind holds_assertNoActiveJob (fun _ _ hidle => ?_) fun _ _ => trivial
  refine Context.holds_ite.mpr ⟨fun _ => trivial, fun hdynamic => ?_⟩
  refine holds_reads_bind holds_agentIp (fun ip _ hread => ?_) fun _ _ => trivial
  obtain ⟨node, info, hread, husable⟩ := hread
  have htarget' : IdleTarget w finding vm := ⟨⟨vmId, htarget.2, hvm⟩, hidle⟩
  exact holds_verified (.resyncIp hfinding htarget.1 htarget' (Bool.eq_false_iff.mpr hdynamic) hread
    husable)

theorem holds_adoptLive {lr : DriftLiveResource} {raw : List ProxmoxQemuResource}
    (hfinding : Actionable w id finding) (hvm : IdleTarget w finding vm)
    (hdimension : finding.dimension = .config ∨ finding.dimension = .hw)
    (hread : ⟨.clusterResources, .ok raw⟩ ∈ log)
    (hlive : findLive (findableResources raw) vm.vmid = some lr) : (verifying w id .adopt).holds (do
      adoptLive finding vm lr now
      settleFinding finding actor now) AnyEnd (w, log) := by
  by_cases hconfig : finding.dimension = .config
  · by_cases hname : detailField finding.detail = "name"
    · cases hlabel : presentText lr.name with
      | none =>
          unfold adoptLive adoptName
          simp only [hconfig, hname, hlabel, if_true]
          trivial
      | some label =>
          have hchecked : AdoptChecked log finding vm lr :=
            .inl ⟨hconfig, .inl ⟨hname, by rw [hlabel]; rfl⟩⟩
          exact holds_verified (.adopt hfinding hvm hread hlive hchecked)
    · by_cases hnode : detailField finding.detail = "node"
      · have hchecked : AdoptChecked log finding vm lr := .inl ⟨hconfig, .inr hnode⟩
        exact holds_verified (.adopt hfinding hvm hread hlive hchecked)
      · unfold adoptLive
        simp only [hconfig, hname, hnode, if_true, if_false]
        trivial
  · have hhw : finding.dimension = .hw := hdimension.resolve_left hconfig
    unfold adoptLive adoptHardware
    simp only [hconfig, if_false]
    rw [Context.holds_bind]
    refine holds_lookup rfl (fun cfg _ => ?_) fun _ => trivial
    unfold bumpHardwareSnapshot
    cases husable : cfg.usable with
    | none => trivial
    | some values =>
        have hchecked : AdoptChecked
            (⟨.qemuConfig lr.node vm.vmid, .ok cfg⟩ :: log) finding vm lr :=
          .inr ⟨hhw, cfg, List.mem_cons_self, by rw [husable]; rfl⟩
        have hverified : Verified w id (⟨.qemuConfig lr.node vm.vmid, .ok cfg⟩ :: log) .adopt :=
          .adopt hfinding hvm (List.mem_cons_of_mem _ hread) hlive hchecked
        rw [← Context.holds_bind]
        exact holds_verified hverified

theorem holds_adopt : (verifying w id .adopt).holds (adoptDriftFinding id actor now) AnyEnd (w, log) := by
  refine holds_reads_bind holds_activeFinding (fun finding log hfinding => ?_) fun _ _ => trivial
  have htarget : (verifying w id .adopt).holds
      (Prog.orRaise finding.vmId (.app (AppError.conflict "Finding has no VM target")))
      (Reads w fun vmId _ => finding.vmId = some vmId) (w, log) :=
    Context.holds_orRaise.mpr ⟨fun _ hvmId => ⟨rfl, hvmId⟩, fun _ => trivial⟩
  refine holds_reads_bind htarget (fun vmId _ hvmId => ?_) fun _ _ => trivial
  refine Context.holds_ite.mpr ⟨fun _ => trivial, fun hdimension => ?_⟩
  refine holds_reads_bind holds_requireVm (fun vm _ hvm => ?_) fun _ _ => trivial
  refine holds_reads_bind holds_assertNoActiveJob (fun _ _ hidle => ?_) fun _ _ => trivial
  refine holds_reads_bind holds_requireLive (fun lr _ hread => ?_) fun _ _ => trivial
  obtain ⟨raw, hread, hlive⟩ := hread
  have hdimension' : finding.dimension = .config ∨ finding.dimension = .hw := by
    rcases not_and_or.mp hdimension with hconfig | hhw
    · exact .inl (not_not.mp hconfig)
    · exact .inr (not_not.mp hhw)
  exact holds_adoptLive hfinding ⟨⟨vmId, hvmId, hvm⟩, hidle⟩ hdimension' hread hlive

theorem holds_assertVmGone {vmId : Option VmId} : (verifying w id kind).holds (assertVmGone vmId)
    (Reads w fun _ _ => ∀ v, vmId = some v → findVmById w.base.db v = none) (w, log) := by
  cases vmId with
  | none => exact ⟨rfl, fun v hv => by cases hv⟩
  | some v =>
      refine holds_lookup rfl (fun found hserved => ?_) fun _ => trivial
      refine Context.holds_ite.mpr ⟨fun _ => trivial, fun hnone => ⟨rfl, ?_⟩⟩
      rintro v' hv'
      cases hv'
      rw [← served_vmsFindById hserved]
      exact Option.not_isSome_iff_eq_none.mp hnone

theorem holds_deleteOrphan :
    (verifying w id .deleteOrphan).holds (deleteOrphanDriftConnection id actor now) AnyEnd (w, log) := by
  refine holds_reads_bind holds_activeFinding (fun finding log hfinding => ?_) fun _ _ => trivial
  have htarget : (verifying w id .deleteOrphan).holds (orphanTarget finding)
      (Reads w fun connectionId _ => finding.dimension = .guac ∧
        finding.connectionId = some connectionId) (w, log) :=
    Context.holds_ite.mpr ⟨fun hdimension => Context.holds_orRaise.mpr
      ⟨fun _ hconnection => ⟨rfl, hdimension, hconnection⟩, fun _ => trivial⟩, fun _ => trivial⟩
  refine holds_reads_bind htarget (fun connectionId _ hconnection => ?_) fun _ _ => trivial
  refine holds_reads_bind holds_assertVmGone (fun _ _ hgone => ?_) fun _ _ => trivial
  exact holds_verified (.deleteOrphan hfinding hconnection.1 hconnection.2 hgone)

end programs

/-- **A remediation acts on verified drift only.**  Whatever the live systems reply, each of
its calls is a lookup, which changes nothing, or comes after everything that `Verified` asks
of the state it started in and of the replies it got. -/
theorem remediation_verified {w : DriftWorld} {id : FindingId} {kind : Remediation}
    {actor : DriftActor} {now : Time} {c : DriftCall} {w' : DriftWorld} {log : DriftLog}
    (hmakes : Makes (logging DriftServed) (kind.prog id actor now) (w, []) c (w', log)) :
    (c.isLookup = true ∧ ∀ r w'', DriftServed c w' r w'' → w'' = w') ∨ Verified w id log kind := by
  have hprog : (verifying w id kind).holds (kind.prog id actor now) AnyEnd (w, []) := by
    cases kind with
    | decommission => exact holds_decommission
    | adopt => exact holds_adopt
    | resyncIp => exact holds_resyncIp
    | deleteOrphan => exact holds_deleteOrphan
  refine (hmakes.owes hprog).imp_left fun hlookup => ⟨hlookup, fun r w'' hserved => ?_⟩
  exact hserved.eq_of_isLookup hlookup

def DriftWorld.sampleDecommission : DriftWorld × DriftLog :=
  (drive (DriftWorld.playLogged (.listing [])) 7
    (decommissionDriftVm 1 .root 2000, (DriftWorld.sampleMissing, []))).2

theorem remediation_verified_sample :
    Verified .sampleMissing 1 DriftWorld.sampleDecommission.2 .decommission := by
  have hmakes : Makes (logging DriftServed) (Remediation.prog .decommission 1 .root 2000)
      (DriftWorld.sampleMissing, []) (.base (.guacDeleteVmResources 30)) DriftWorld.sampleDecommission :=
    makes_of_pending (fun _ _ _ _ => logging_playLogged) 7 rfl
  exact (remediation_verified hmakes).resolve_left fun hlookup => by cases hlookup.1

end ProxVM
