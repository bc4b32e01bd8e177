import ProxVM.Drift.Verification
import ProxVM.Guacamole.ConnectionDeletion
import ProxVM.Guacamole.Upserts
import ProxVM.Lib.Interrupted
import ProxVM.Services.Credentials

/-!
# Remediations that stop

A remediation writes to two databases, one statement after another, and there is no transaction around them.  Here each
call may fail, and so may every statement of the functions of `GuacamoleService` that it calls.
-/

namespace ProxVM

open Tables Interaction Fallible

/-! ## The update of the endpoints -/

/-- The calls of `updateConnectionHostname` that may fail. -/
inductive RedirectionPoint
  | listConnectionRecords
  | setHostname (id : Nat)
  | updateConnectionParams (id : Nat)
  deriving DecidableEq, Repr

def reachRedirection (fails : RedirectionPoint → Bool) (point : RedirectionPoint) : EndpointProgram Unit :=
  ensure (!fails point) (AppError.external "Guacamole" "Failed to update Guacamole connection parameters")

namespace GuacamoleServiceDeps

variable (deps : GuacamoleServiceDeps)

/-- One round of `updateConnectionHostname`. -/
def tryRedirectConnection (fails : RedirectionPoint → Bool) (hostname : String) (record : EndpointRow) :
    EndpointProgram PUnit := do
  reachRedirection fails (.setHostname record.id)
  write fun s => s.setHostname record.id hostname
  reachRedirection fails (.updateConnectionParams record.id)
  onGuac (deps.guacDb.updateConnectionParams record.guacConnectionName (hostnameParams hostname))

/-- `updateConnectionHostname`, the calls of which may fail. -/
def tryUpdateConnectionHostname (fails : RedirectionPoint → Bool) (vmId : VmId) (hostname : String) :
    EndpointProgram Nat := do
  reachRedirection fails .listConnectionRecords
  let records ← query fun s => s.listConnectionRecords vmId
  forM records (deps.tryRedirectConnection fails hostname)
  pure records.length

end GuacamoleServiceDeps

theorem after_deleteConnectionRecord_false {fails : DeletionPoint → Bool} {id : Nat} {s : Endpoints} :
    after (deleteConnectionRecord fails id) (fun r s' => r = .ok false → s' = s) s := by
  simp only [deleteConnectionRecord, after_bind, after_reachDeletion, after_query]
  refine ⟨fun _ => ?_, by simp⟩
  cases s.connections.find? id with
  | none => exact fun _ => rfl
  | some record =>
      simp only [after_bind, after_ite, after_reachDeletion, after_query, after_pure, after_write]
      simp

/-! ## The installation -/

structure RemediationWorld where
  drift : DriftWorld
  endpoints : Endpoints
  vault : Vault

/-- What `listConnectionRecords` tells of a row. -/
def EndpointRow.record (row : EndpointRow) : ConnectionRecord := ⟨row.id, row.protocol.text⟩

/-- The call ends as the function of `GuacamoleService` does. -/
def RemediationWorld.Runs {α : Type} (m : EndpointProgram α) (s : RemediationWorld) (r : Except Failure α)
    (s' : RemediationWorld) : Prop :=
  r = (exec m s.endpoints).1.mapError .app ∧ s' = { s with endpoints := (exec m s.endpoints).2 }

/-- In `s`, the call may end with `r` and leave `s'`. -/
def RemediationServed (deps : GuacamoleServiceDeps) : Service driftCalls Failure RemediationWorld
  | .base (.credsDelete vmId), s, r, s' =>
      (∃ e, r = .error e ∧ s' = s) ∨ r = .ok () ∧ s' = { s with vault := s.vault.delete vmId }
  | .base (.guacListConnectionRecords vmId), s, r, s' =>
      s' = s ∧ ∀ records, r = .ok records → records = (s.endpoints.listConnectionRecords vmId).map EndpointRow.record
  | .base (.guacDeleteVmResources vmId), s, r, s' => ∃ fails, s.Runs (deleteVmResources fails vmId) r s'
  | .guacUpdateConnectionHostname vmId hostname, s, r, s' =>
      ∃ fails, s.Runs (deps.tryUpdateConnectionHostname fails vmId hostname) r s'
  | .guacDeleteConnectionRecord id, s, r, s' => ∃ fails, s.Runs (deleteConnectionRecord fails id) r s'
  | c, s, r, s' => DriftServed c s.drift r s'.drift ∧ s'.endpoints = s.endpoints ∧ s'.vault = s.vault

section served

variable {deps : GuacamoleServiceDeps} {c : DriftCall} {s s' : RemediationWorld} {r : Except Failure c.Reply}

theorem RemediationWorld.eq_of_drift (hdrift : s'.drift = s.drift) (hendpoints : s'.endpoints = s.endpoints)
    (hvault : s'.vault = s.vault) : s' = s := by
  obtain ⟨drift, endpoints, vault⟩ := s
  obtain ⟨drift', endpoints', vault'⟩ := s'
  cases hdrift
  cases hendpoints
  cases hvault
  rfl

theorem RemediationServed.eq_of_isLookup (hserved : RemediationServed deps c s r s') (hlookup : c.isLookup = true) :
    s' = s := by
  have hlocal : DriftServed c s.drift r s'.drift ∧ s'.endpoints = s.endpoints ∧ s'.vault = s.vault → s' = s := by
    rintro ⟨hdrift, hendpoints, hvault⟩
    exact RemediationWorld.eq_of_drift (hdrift.eq_of_isLookup hlookup) hendpoints hvault
  cases c with
  | base b =>
      cases b with
      | vmsFindById id => exact hlocal hserved
      | getProxmoxClient => exact hlocal hserved
      | getGuacDb => exact hlocal hserved
      | proxmoxGuestIpAddresses node vmid => exact hlocal hserved
      | guacListConnectionRecords vmId => exact hserved.1
      | _ => cases hlookup
  | clusterResources => exact hlocal hserved
  | qemuConfig node vmid => exact hlocal hserved
  | vmsList => exact hlocal hserved
  | jobsActiveJobsForVm vmId => exact hlocal hserved
  | findingById id => exact hlocal hserved
  | _ => cases hlookup

theorem RemediationServed.eq_of_audit {entry : AuditEntry} {r : Except Failure Unit}
    (hserved : RemediationServed deps (.base (.auditRecord entry)) s r s') : s' = s := by
  obtain ⟨hdrift, hendpoints, hvault⟩ := hserved
  obtain ⟨hbase, hfindings, hvmState⟩ := hdrift.base
  refine RemediationWorld.eq_of_drift ?_ hendpoints hvault
  obtain ⟨⟨base, findings, vmState⟩, endpoints, vault⟩ := s'
  cases hbase.eq_of_answer rfl fun _ => rfl
  cases hfindings
  cases hvmState
  rfl

theorem RemediationServed.findings_eq (hserved : RemediationServed deps c s r s') (hc : c.writesFindings = false) :
    s'.drift.findings = s.drift.findings := by
  have hlocal : DriftServed c s.drift r s'.drift ∧ s'.endpoints = s.endpoints ∧ s'.vault = s.vault →
      s'.drift.findings = s.drift.findings := fun h => h.1.frame.findings hc
  cases c with
  | base b =>
      cases b with
      | credsDelete vmId =>
          obtain ⟨e, -, rfl⟩ | ⟨-, rfl⟩ := hserved
          · rfl
          · rfl
      | guacListConnectionRecords vmId =>
          obtain ⟨rfl, -⟩ := hserved
          rfl
      | guacDeleteVmResources vmId =>
          obtain ⟨fails, -, rfl⟩ := hserved
          rfl
      | _ => exact hlocal hserved
  | guacUpdateConnectionHostname vmId hostname =>
      obtain ⟨fails, -, rfl⟩ := hserved
      rfl
  | guacDeleteConnectionRecord id =>
      obtain ⟨fails, -, rfl⟩ := hserved
      rfl
  | _ => exact hlocal hserved

def DriftCall.isStatement : DriftCall → Bool
  | .base (.credsDelete _) => true
  | .base (.vmsSoftDelete _) => true
  | .base (.vmsUpdateIp _ _ _) => true
  | .closePowerPeriod _ => true
  | .vmsDeleteDirectAccess _ => true
  | .vmsDeleteGroupAccess _ => true
  | .vmsUpdateName _ _ => true
  | .vmsUpdateNode _ _ => true
  | .upsertVmState _ _ => true
  | .resolveFinding _ _ _ => true
  | _ => false

variable {b : Call} {e : Failure} {w w' : DriftWorld}

theorem Served.eq_of_error {w w' : World} (hserved : Served b w (.error e) w')
    (hlocal : b.isRemote = false) (hanswer : ∀ given e, w.answer b given = (.error e, w') → w' = w) : w' = w := by
  obtain ⟨given, heq⟩ | ⟨e', heq⟩ := hserved.cases hlocal
  · exact hanswer given e heq
  · have hsame := World.failed_snd (w := w) (c := b) e'
    rw [heq] at hsame
    exact hsame

theorem DriftWorld.eq_of_answer_error {given : c.Reply}
    (hanswer : w.answer c given = (.error e, w')) (hbase : c.isBase = false) : w' = w := by
  cases c with
  | base b => cases hbase
  | vmsUpdateNode id node =>
      change DriftWorld.updateVmNode _ _ _ = _ at hanswer
      unfold DriftWorld.updateVmNode at hanswer
      split at hanswer
      · cases hanswer
      · exact (Prod.mk.inj hanswer).2.symm
  | insertFinding id d =>
      change DriftWorld.insertFinding _ _ _ = _ at hanswer
      unfold DriftWorld.insertFinding at hanswer
      split at hanswer
      · split at hanswer
        · cases hanswer
        · exact (Prod.mk.inj hanswer).2.symm
      · exact (Prod.mk.inj hanswer).2.symm
  | upsertVmState vmId patch =>
      change DriftWorld.upsertVmState _ _ _ = _ at hanswer
      unfold DriftWorld.upsertVmState at hanswer
      split at hanswer
      · cases hanswer
      · exact (Prod.mk.inj hanswer).2.symm
  | _ => cases hanswer

theorem DriftServed.eq_of_error (hserved : DriftServed c w (.error e) w')
    (hbase : c.isBase = false) : w' = w := by
  obtain ⟨e', -, heq⟩ | ⟨given, hanswer⟩ := hserved.cases hbase
  · exact heq
  · exact DriftWorld.eq_of_answer_error hanswer hbase

theorem DriftServed.eq_of_base_error
    (hserved : DriftServed (.base b) w (.error e) w') (hlocal : b.isRemote = false)
    (hanswer : ∀ given e, w.base.answer b given = (.error e, w'.base) → w'.base = w.base) : w' = w := by
  obtain ⟨hbase, hfindings, hvmState⟩ := hserved.base
  obtain ⟨base, findings, vmState⟩ := w'
  cases hbase.eq_of_error hlocal hanswer
  cases hfindings
  cases hvmState
  rfl

theorem RemediationServed.eq_of_error (hserved : RemediationServed deps c s (.error e) s')
    (hc : c.isStatement = true) : s' = s := by
  have hlocal : c.isBase = false →
      DriftServed c s.drift (.error e) s'.drift ∧ s'.endpoints = s.endpoints ∧ s'.vault = s.vault → s' = s := by
    rintro hbase ⟨hdrift, hendpoints, hvault⟩
    exact RemediationWorld.eq_of_drift (hdrift.eq_of_error hbase) hendpoints hvault
  cases c with
  | base b =>
      cases b with
      | credsDelete vmId =>
          obtain ⟨e', -, rfl⟩ | ⟨hok, -⟩ := hserved
          · rfl
          · cases hok
      | vmsSoftDelete id =>
          obtain ⟨hdrift, hendpoints, hvault⟩ := hserved
          refine RemediationWorld.eq_of_drift (hdrift.eq_of_base_error rfl ?_) hendpoints hvault
          intro given e heq
          cases heq
      | vmsUpdateIp id ip ipStatic =>
          obtain ⟨hdrift, hendpoints, hvault⟩ := hserved
          refine RemediationWorld.eq_of_drift (hdrift.eq_of_base_error rfl ?_) hendpoints hvault
          intro given e heq
          change World.statement _ _ _ = _ at heq
          unfold World.statement at heq
          split at heq
          · cases heq
          · exact (Prod.mk.inj heq).2.symm
      | _ => cases hc
  | closePowerPeriod vmId => exact hlocal rfl hserved
  | vmsDeleteDirectAccess id => exact hlocal rfl hserved
  | vmsDeleteGroupAccess id => exact hlocal rfl hserved
  | vmsUpdateName id name => exact hlocal rfl hserved
  | vmsUpdateNode id node => exact hlocal rfl hserved
  | upsertVmState vmId patch => exact hlocal rfl hserved
  | resolveFinding fingerprint actor now => exact hlocal rfl hserved
  | _ => cases hc

end served

/-! ## The writes of a remediation -/

/-- The call, as a write.  Only a function of `GuacamoleService` can fail with an effect. -/
def DriftCall.write (deps : GuacamoleServiceDeps) (c : DriftCall) : Write RemediationWorld where
  made s s' := ∃ a, RemediationServed deps c s (.ok a) s'
  torn s s' := (∃ e, RemediationServed deps c s (.error e) s') ∧ (c.isStatement = true → s' = s)

def DriftCall.attempted (deps : GuacamoleServiceDeps) (c : DriftCall) : Write RemediationWorld where
  made s s' := s' = s ∨ ∃ r, RemediationServed deps c s r s'
  torn s s' := s' = s

inductive Remediation.Plan (deps : GuacamoleServiceDeps) (finding : DriftFindingRow) :
    Remediation → List (Write RemediationWorld) → Prop
  | decommission {v : VmId} (hvm : finding.vmId = some v) :
      Plan deps finding .decommission
        [(DriftCall.base (.guacDeleteVmResources v)).attempted deps,
          (DriftCall.base (.credsDelete v)).write deps,
          (DriftCall.closePowerPeriod v).write deps,
          (DriftCall.base (.vmsSoftDelete v)).write deps,
          (DriftCall.vmsDeleteDirectAccess v).write deps,
          (DriftCall.vmsDeleteGroupAccess v).write deps]
  | adoptName {v : VmId} (hvm : finding.vmId = some v) (name : String) :
      Plan deps finding .adopt [(DriftCall.vmsUpdateName v name).write deps]
  | adoptNode {v : VmId} (hvm : finding.vmId = some v) (node : String) :
      Plan deps finding .adopt [(DriftCall.vmsUpdateNode v node).write deps]
  | adoptHardware {v : VmId} (hvm : finding.vmId = some v) (patch : VmStatePatch) :
      Plan deps finding .adopt [(DriftCall.upsertVmState v patch).write deps]
  | adopted : Plan deps finding .adopt []
  | resyncIp {v : VmId} (hvm : finding.vmId = some v) (ip : String) (ipStatic : Bool) :
      Plan deps finding .resyncIp
        [(DriftCall.base (.vmsUpdateIp v ip ipStatic)).write deps, (DriftCall.guacUpdateConnectionHostname v ip).write deps]
  | healed : Plan deps finding .resyncIp []
  | deleteOrphan {connectionId : ConnectionId} (hconnection : finding.connectionId = some connectionId) :
      Plan deps finding .deleteOrphan [(DriftCall.guacDeleteConnectionRecord connectionId).write deps]

section plans

variable {deps : GuacamoleServiceDeps} {c : DriftCall} {finding : DriftFindingRow} {kind : Remediation}
  {ws : List (Write RemediationWorld)} {s s' : RemediationWorld}

theorem DriftCall.spares_write (hc : c.writesFindings = false) :
    (c.write deps).Spares fun s => s.drift.findings := by
  rintro s s' (⟨a, hserved⟩ | ⟨⟨e, hserved⟩, -⟩)
  · exact hserved.findings_eq hc
  · exact hserved.findings_eq hc

theorem DriftCall.spares_attempted (hc : c.writesFindings = false) :
    (c.attempted deps).Spares fun s => s.drift.findings := by
  rintro s s' ((rfl | ⟨r, hserved⟩) | rfl)
  · rfl
  · exact hserved.findings_eq hc
  · rfl

theorem Remediation.Plan.spares (h : Remediation.Plan deps finding kind ws) :
    ∀ w ∈ ws, w.Spares fun s => s.drift.findings := by
  cases h with
  | decommission hvm =>
      simp only [List.forall_mem_cons]
      exact ⟨DriftCall.spares_attempted rfl, DriftCall.spares_write rfl, DriftCall.spares_write rfl,
        DriftCall.spares_write rfl, DriftCall.spares_write rfl, DriftCall.spares_write rfl, by simp⟩
  | adoptName hvm name => simpa using DriftCall.spares_write rfl
  | adoptNode hvm node => simpa using DriftCall.spares_write rfl
  | adoptHardware hvm patch => simpa using DriftCall.spares_write rfl
  | adopted => simp
  | resyncIp hvm ip ipStatic =>
      simp only [List.forall_mem_cons]
      exact ⟨DriftCall.spares_write rfl, DriftCall.spares_write rfl, by simp⟩
  | healed => simp
  | deleteOrphan hconnection => simpa using DriftCall.spares_write rfl

def DriftFindingRow.resolution (finding : DriftFindingRow) (actor : DriftActor) (now : Time) : DriftCall :=
  .resolveFinding finding.fingerprint actor.userId now

theorem Remediation.Plan.completed {actor : DriftActor} {now : Time} (h : Remediation.Plan deps finding kind ws)
    (hstop : Interrupted (ws ++ [(finding.resolution actor now).write deps]) s s')
    (hchanged : s'.drift.findings ≠ s.drift.findings) :
    Completed (ws ++ [(finding.resolution actor now).write deps]) s s' := by
  refine hstop.completed_of_changed (f := fun s => s.drift.findings) h.spares ?_ hchanged
  rintro s s' ⟨-, hsame⟩
  rw [hsame rfl]

end plans

/-! ## What the programs write -/

section programs

variable {deps : GuacamoleServiceDeps} {α : Type} {c : DriftCall} {ws : List (Write RemediationWorld)}

variable {f : c.Reply → DriftTask α} {vmId : VmId}

theorem performs_write_bind (hf : ∀ a, Performs (RemediationServed deps) (f a) ws) :
    Performs (RemediationServed deps) (askDrift c >>= f) (c.write deps :: ws) :=
  (performs_perform (w := c.write deps) (fun _ a _ hserved => ⟨a, hserved⟩)
    fun _ e _ hserved => ⟨⟨e, hserved⟩, hserved.eq_of_error⟩).bind hf

theorem performs_lookup_bind (hc : c.isLookup = true) (hf : ∀ a, Performs (RemediationServed deps) (f a) ws) :
    Performs (RemediationServed deps) (askDrift c >>= f) ws :=
  (performs_lookup fun _ _ _ hserved => hserved.eq_of_isLookup hc).bind hf

theorem performs_settleFinding {finding : DriftFindingRow} {actor : DriftActor} {now : Time} :
    Performs (RemediationServed deps) (settleFinding finding actor now) [(finding.resolution actor now).write deps] :=
  performs_write_bind fun _ => performs_lookup fun _ _ _ hserved => hserved.eq_of_audit

theorem performs_cleanup : Performs (RemediationServed deps) (Prog.tryCatch (do
        askDrift (.base .getGuacDb)
        askDrift (.base (.guacDeleteVmResources vmId))) fun _ => pure ())
      [(DriftCall.base (.guacDeleteVmResources vmId)).attempted deps] := by
  have hfirst : ∀ s r s', Ends (logging (RemediationServed deps)) (do
      askDrift (.base .getGuacDb)
      askDrift (.base (.guacDeleteVmResources vmId)) : DriftTask Unit) s r s' →
      ((DriftCall.base (.guacDeleteVmResources vmId)).attempted deps).made s.1 s'.1 := by
    intro s r s' hends
    obtain ⟨a, s₁, hdb, hdelete⟩ | ⟨e, rfl, hdb⟩ := hends.of_bind
    · have hsame : s₁.1 = s.1 := (ends_perform.mp hdb).1.eq_of_isLookup rfl
      rw [← hsame]
      exact .inr ⟨r, (ends_perform.mp hdelete).1⟩
    · exact .inl ((ends_perform.mp hdb).1.eq_of_isLookup rfl)
  intro s r s' hends
  obtain ⟨a, rfl, hok⟩ | ⟨e, s₁, herror, hpure⟩ := hends.of_tryCatch
  · refine ⟨fun _ _ => .cons (hfirst _ _ _ hok) .nil, ?_⟩
    intro e he
    cases he
  · obtain ⟨rfl, rfl⟩ := ends_pure.mp hpure
    refine ⟨fun _ _ => .cons (hfirst _ _ _ herror) .nil, ?_⟩
    intro e he
    cases he

theorem performs_dropRecord {vm : VmRow} : Performs (RemediationServed deps) (dropRecord vm)
      [(DriftCall.base (.guacDeleteVmResources vm.id)).attempted deps,
        (DriftCall.base (.credsDelete vm.id)).write deps, (DriftCall.closePowerPeriod vm.id).write deps,
        (DriftCall.base (.vmsSoftDelete vm.id)).write deps,
        (DriftCall.vmsDeleteDirectAccess vm.id).write deps,
        (DriftCall.vmsDeleteGroupAccess vm.id).write deps] := by
  refine performs_cleanup.bind fun _ => performs_write_bind fun _ => performs_write_bind fun _ => ?_
  refine performs_write_bind fun _ => performs_write_bind fun _ => ?_
  exact performs_write_bind fun _ => performs_pure

theorem made_updateHostname_of_nil {hostname : String} {s : RemediationWorld}
    (hnone : s.endpoints.listConnectionRecords vmId = []) :
    ((DriftCall.guacUpdateConnectionHostname vmId hostname).write deps).made s s := by
  have hrun : exec (deps.tryUpdateConnectionHostname (fun _ => false) vmId hostname) s.endpoints =
      (.ok 0, s.endpoints) := by
    have hcalm : after (deps.tryUpdateConnectionHostname (fun _ => false) vmId hostname)
        (fun r s' => r = .ok 0 ∧ s' = s.endpoints) s.endpoints := by
      simp [GuacamoleServiceDeps.tryUpdateConnectionHostname, reachRedirection, hnone]
    exact Prod.ext hcalm.1 hcalm.2
  refine ⟨0, fun _ => false, ?_, ?_⟩
  · rw [hrun]
    rfl
  · rw [hrun]

theorem performs_writeIp {vm : VmRow} {ip : String} : Performs (RemediationServed deps) (writeIp vm ip)
      [(DriftCall.base (.vmsUpdateIp vm.id ip vm.ipStatic)).write deps,
        (DriftCall.guacUpdateConnectionHostname vm.id ip).write deps] := by
  refine performs_write_bind fun _ => ?_
  intro s r s' hends
  obtain ⟨connections, s₁, hlist, hrest⟩ | ⟨e, rfl, hlist⟩ := hends.of_bind
  · have hserved := (ends_perform.mp hlist).1
    have hsame : s₁.1 = s.1 := hserved.1
    rw [← hsame]
    by_cases hnone : connections = []
    · -- without connections the endpoints have nothing to update
      rw [if_pos hnone] at hrest
      obtain ⟨rfl, rfl⟩ := ends_pure.mp hrest
      have hempty : s.1.endpoints.listConnectionRecords vm.id = [] := by
        have hrecords := hserved.2 connections rfl
        rw [hnone] at hrecords
        exact List.map_eq_nil_iff.mp hrecords.symm
      rw [← hsame] at hempty
      refine ⟨fun _ _ => .cons (made_updateHostname_of_nil hempty) .nil, ?_⟩
      intro e he
      cases he
    · rw [if_neg hnone] at hrest
      have hupdate : Performs (RemediationServed deps) (do
          askDrift (.base .getGuacDb)
          let _updated : Nat ← askDrift (.guacUpdateConnectionHostname vm.id ip) : DriftTask Unit)
          [(DriftCall.guacUpdateConnectionHostname vm.id ip).write deps] :=
        performs_lookup_bind rfl fun _ => performs_write_bind fun _ => performs_pure
      exact hupdate _ _ _ hrest
  · refine ⟨?_, fun e' _ => ?_⟩
    · intro a ha
      cases ha
    · have hread : Performs (RemediationServed deps) (askDrift (.base (.guacListConnectionRecords vm.id))) [] :=
        performs_lookup fun _ _ _ hserved => hserved.1
      obtain ⟨hstop, hfailed⟩ := (hread _ _ _ hlist).2 e rfl
      exact ⟨hstop.append, hfailed⟩

end programs

/-! ## The remediations -/

def StopsInPlan (deps : GuacamoleServiceDeps) (kind : Remediation) (id : FindingId) (actor : DriftActor) (now : Time)
    (s : RemediationWorld) : Except Failure Unit → RemediationWorld × DriftLog → Prop
  | .ok _, _ => True
  | .error _, o => o.1 = s ∨ Log.Failed o.2 ∧ ∃ finding ws, s.drift.findings.findById id = some finding ∧
      Remediation.Plan deps finding kind ws ∧
      Interrupted (ws ++ [(finding.resolution actor now).write deps]) s o.1

section remediations

variable {deps : GuacamoleServiceDeps} {kind : Remediation} {id : FindingId} {actor : DriftActor} {now : Time}
  {s : RemediationWorld} {log : DriftLog} {α : Type}

theorem holds_look {c : DriftCall} {f : c.Reply → DriftTask α} {Q : Except Failure α → RemediationWorld × DriftLog → Prop}
    (hc : c.isLookup = true) (hok : ∀ a log', RemediationServed deps c s (.ok a) s →
      (alone (logging (RemediationServed deps))).holds (f a) Q (s, log'))
    (herror : ∀ e log', Q (.error e) (s, log')) :
    (alone (logging (RemediationServed deps))).holds (askDrift c >>= f) Q (s, log) := by
  refine holds_askDrift_bind.mpr ⟨trivial, ?_, ?_⟩
  · rintro a ⟨s', log'⟩ ⟨hserved, -⟩
    have hsame : s' = s := hserved.eq_of_isLookup hc
    subst hsame
    exact hok a log' hserved
  · rintro e ⟨s', log'⟩ ⟨hserved, -⟩
    have hsame : s' = s := hserved.eq_of_isLookup hc
    subst hsame
    exact herror e log'

def Unwritten (s : RemediationWorld) (φ : α → Prop) (r : Except Failure α) (o : RemediationWorld × DriftLog) : Prop :=
  o.1 = s ∧ ∀ a, r = .ok a → φ a

variable {φ : α → Prop} {p : DriftTask α} {refusal : String} {vmId : VmId}

theorem unwritten_error (e : Failure) (log : DriftLog) : Unwritten s φ (.error e) (s, log) :=
  ⟨rfl, fun _ ha => by cases ha⟩

theorem unwritten_ok {a : α} (ha : φ a) : Unwritten s φ (.ok a) (s, log) :=
  ⟨rfl, fun _ heq => Except.ok.inj heq ▸ ha⟩

theorem stops_bind {f : α → DriftTask Unit}
    (hp : (alone (logging (RemediationServed deps))).holds p (Unwritten s φ) (s, log)) (hf : ∀ a log', φ a →
      (alone (logging (RemediationServed deps))).holds (f a) (StopsInPlan deps kind id actor now s) (s, log')) :
    (alone (logging (RemediationServed deps))).holds (p >>= f) (StopsInPlan deps kind id actor now s) (s, log) := by
  rw [Context.holds_bind]
  refine Context.holds_mono hp ?_
  rintro (e | a) ⟨s', log'⟩ ⟨hsame, hφ⟩
  · exact .inl hsame
  · cases hsame
    exact hf a log' (hφ a rfl)

theorem unwritten_of_only (hp : Only (fun c : DriftCall => c.isLookup = true) p) :
    (alone (logging (RemediationServed deps))).holds p (Unwritten s fun _ => True) (s, log) := by
  refine Context.holds_mono (holds_alone_of_only (I := fun o => o.1 = s) ?_ hp rfl) fun _ _ h => ⟨h, fun _ _ => trivial⟩
  intro c o r o' hc hsame hserve
  exact (hserve.1.eq_of_isLookup hc).trans hsame

theorem stops_of_performs {finding : DriftFindingRow} {ws : List (Write RemediationWorld)} {p : DriftTask Unit}
    (hfinding : s.drift.findings.findById id = some finding) (hplan : Remediation.Plan deps finding kind ws)
    (hp : Performs (RemediationServed deps) p (ws ++ [(finding.resolution actor now).write deps])) :
    (alone (logging (RemediationServed deps))).holds p (StopsInPlan deps kind id actor now s) (s, log) := by
  refine holds_alone_iff.mpr ?_
  rintro (e | a) o hends
  · obtain ⟨hstop, hfailed⟩ := (hp _ _ _ hends).2 e rfl
    exact .inr ⟨hfailed, finding, ws, hfinding, hplan, hstop⟩
  · trivial

theorem unwritten_activeFinding : (alone (logging (RemediationServed deps))).holds (activeFinding id)
      (Unwritten s fun finding => s.drift.findings.findById id = some finding) (s, log) := by
  refine holds_look rfl (fun found log' hserved => ?_) unwritten_error
  cases found with
  | none => exact unwritten_error _ _
  | some row =>
      refine Context.holds_ite.mpr ⟨fun _ => unwritten_error _ _, fun _ => unwritten_ok ?_⟩
      exact (served_findingById hserved.1).2.symm

theorem unwritten_orRaise {o : Option α} {e : Failure} :
    (alone (logging (RemediationServed deps))).holds (Prog.orRaise o e) (Unwritten s fun a => o = some a) (s, log) :=
  Context.holds_orRaise.mpr ⟨fun _ ha => unwritten_ok ha, fun _ => unwritten_error _ _⟩

theorem unwritten_findingTarget {finding : DriftFindingRow} {dimension : DriftDimension} :
    (alone (logging (RemediationServed deps))).holds (findingTarget finding dimension refusal)
      (Unwritten s fun vmId => finding.vmId = some vmId) (s, log) :=
  Context.holds_ite.mpr ⟨fun _ => unwritten_orRaise, fun _ => unwritten_error _ _⟩

theorem unwritten_requireVm : (alone (logging (RemediationServed deps))).holds (requireVm vmId refusal)
      (Unwritten s fun vm => findVmById s.drift.base.db vmId = some vm) (s, log) := by
  refine holds_look rfl (fun found log' hserved => ?_) unwritten_error
  refine Context.holds_orRaise.mpr ⟨fun vm hvm => unwritten_ok ?_, fun _ => unwritten_error _ _⟩
  exact (served_vmsFindById hserved.1).symm.trans hvm

/-! ### Checks -/

theorem lookups_assertNoActiveJob : Only (fun c : DriftCall => c.isLookup = true) (assertNoActiveJob vmId) :=
  Only.bind (only_perform.mpr rfl) fun _ => Only.ite only_pure only_raise

theorem lookups_verifyAbsent {vm : VmRow} : Only (fun c : DriftCall => c.isLookup = true) (verifyAbsent vm) := by
  refine Only.bind (only_perform.mpr rfl) fun _ => Only.bind (only_perform.mpr rfl) fun raw => ?_
  refine Only.ite only_raise (Only.bind (only_perform.mpr rfl) fun tracked => ?_)
  exact Only.ite only_raise only_pure

theorem lookups_requireLive {vm : VmRow} : Only (fun c : DriftCall => c.isLookup = true) (requireLive vm) :=
  Only.bind (only_perform.mpr rfl) fun _ => Only.bind (only_perform.mpr rfl) fun _ => only_orRaise

theorem lookups_agentIp {vm : VmRow} : Only (fun c : DriftCall => c.isLookup = true) (agentIp vm) := by
  refine Only.bind (only_perform.mpr rfl) fun _ => Only.bind ?_ fun node => ?_
  · exact Only.tryCatch (Only.bind (only_perform.mpr rfl) fun _ => only_pure) fun _ => only_pure
  · refine Only.bind (only_perform.mpr rfl) fun agent => ?_
    cases agent with
    | none => exact only_raise
    | some info => exact only_orRaise

theorem lookups_assertVmGone {vmId : Option VmId} : Only (fun c : DriftCall => c.isLookup = true) (assertVmGone vmId) := by
  cases vmId with
  | none => exact only_pure
  | some v => exact Only.bind (only_perform.mpr rfl) fun _ => Only.ite only_raise only_pure

/-! ### The programs -/

theorem stops_decommission :
    (alone (logging (RemediationServed deps))).holds (decommissionDriftVm id actor now)
      (StopsInPlan deps .decommission id actor now s) (s, log) := by
  refine stops_bind unwritten_activeFinding fun finding log hfinding => ?_
  refine stops_bind unwritten_findingTarget fun vmId log htarget => ?_
  refine stops_bind unwritten_requireVm fun vm log hvm => ?_
  refine stops_bind (unwritten_of_only lookups_assertNoActiveJob) fun _ log _ => ?_
  refine stops_bind (unwritten_of_only lookups_verifyAbsent) fun _ log _ => ?_
  obtain rfl := findVmById_id hvm
  exact stops_of_performs hfinding (.decommission htarget) (performs_dropRecord.bind fun _ => performs_settleFinding)

section adoption

variable {finding : DriftFindingRow} {vm : VmRow} {lr : DriftLiveResource}

theorem stops_adopted {p : DriftTask Unit} (hfinding : s.drift.findings.findById id = some finding) (hp : p = pure ()) :
    (alone (logging (RemediationServed deps))).holds (do
      p
      settleFinding finding actor now) (StopsInPlan deps .adopt id actor now s) (s, log) := by
  subst hp
  exact stops_of_performs hfinding .adopted (performs_pure.bind fun _ => performs_settleFinding)

theorem stops_adoptName (hfinding : s.drift.findings.findById id = some finding) (hvm : finding.vmId = some vm.id) :
    (alone (logging (RemediationServed deps))).holds (do
      adoptName vm lr
      settleFinding finding actor now) (StopsInPlan deps .adopt id actor now s) (s, log) := by
  unfold adoptName
  cases hlabel : presentText lr.name with
  | none => exact .inl rfl
  | some liveName =>
      by_cases hcase : liveName.toLower ≠ vm.name.toLower
      · simp only [if_pos hcase]
        exact stops_of_performs hfinding (.adoptName hvm liveName)
          (performs_write_bind fun _ => performs_settleFinding)
      · exact stops_adopted hfinding (if_neg hcase)

theorem stops_adoptNode (hfinding : s.drift.findings.findById id = some finding) (hvm : finding.vmId = some vm.id) :
    (alone (logging (RemediationServed deps))).holds (do
      adoptNode vm lr
      settleFinding finding actor now) (StopsInPlan deps .adopt id actor now s) (s, log) := by
  unfold adoptNode
  by_cases hmoved : lr.node ≠ vm.node
  · simp only [if_pos hmoved]
    exact stops_of_performs hfinding (.adoptNode hvm lr.node)
      (performs_write_bind fun _ => performs_settleFinding)
  · exact stops_adopted hfinding (if_neg hmoved)

theorem stops_adoptHardware (hfinding : s.drift.findings.findById id = some finding)
    (hvm : finding.vmId = some vm.id) : (alone (logging (RemediationServed deps))).holds (do
      adoptHardware vm lr now
      settleFinding finding actor now) (StopsInPlan deps .adopt id actor now s) (s, log) := by
  unfold adoptHardware
  rw [Context.holds_bind]
  refine holds_look rfl (fun cfg log' _ => ?_) fun _ _ => .inl rfl
  unfold bumpHardwareSnapshot
  cases husable : cfg.usable with
  | none => exact .inl rfl
  | some counts =>
      obtain ⟨cores, memory⟩ := counts
      -- the snapshot replies that it has written, so the adoption goes on
      have hstops : (alone (logging (RemediationServed deps))).holds (do
          askDrift (.upsertVmState vm.id (.hardware cores memory (canonNet cfg.net) now))
          settleFinding finding actor now) (StopsInPlan deps .adopt id actor now s) (s, log') :=
        stops_of_performs hfinding (.adoptHardware hvm _) (performs_write_bind fun _ => performs_settleFinding)
      rw [Context.holds_bind] at hstops
      rw [Context.holds_bind, Context.holds_bind]
      refine Context.holds_mono hstops ?_
      rintro (e | a) o h
      · exact h
      · exact h

theorem stops_adoptLive (hfinding : s.drift.findings.findById id = some finding) (hvm : finding.vmId = some vm.id) :
    (alone (logging (RemediationServed deps))).holds (do
      adoptLive finding vm lr now
      settleFinding finding actor now) (StopsInPlan deps .adopt id actor now s) (s, log) := by
  unfold adoptLive
  by_cases hconfig : finding.dimension = .config
  · by_cases hname : detailField finding.detail = "name"
    · simp only [hconfig, hname, if_true]
      exact stops_adoptName hfinding hvm
    · by_cases hnode : detailField finding.detail = "node"
      · simp only [hconfig, hnode, if_true]
        exact stops_adoptNode hfinding hvm
      · simp only [hconfig, hname, hnode, if_true, if_false]
        exact .inl rfl
  · simp only [hconfig, if_false]
    exact stops_adoptHardware hfinding hvm

end adoption

theorem stops_adopt : (alone (logging (RemediationServed deps))).holds (adoptDriftFinding id actor now)
      (StopsInPlan deps .adopt id actor now s) (s, log) := by
  refine stops_bind unwritten_activeFinding fun finding log hfinding => ?_
  refine stops_bind unwritten_orRaise fun vmId log htarget => ?_
  refine Context.holds_ite.mpr ⟨fun _ => .inl rfl, fun _ => ?_⟩
  refine stops_bind unwritten_requireVm fun vm log hvm => ?_
  refine stops_bind (unwritten_of_only lookups_assertNoActiveJob) fun _ log _ => ?_
  refine stops_bind (unwritten_of_only lookups_requireLive) fun lr log _ => ?_
  obtain rfl := findVmById_id hvm
  exact stops_adoptLive hfinding htarget

theorem stops_resyncIp : (alone (logging (RemediationServed deps))).holds (resyncDriftIp id actor now)
      (StopsInPlan deps .resyncIp id actor now s) (s, log) := by
  refine stops_bind unwritten_activeFinding fun finding log hfinding => ?_
  refine stops_bind unwritten_findingTarget fun vmId log htarget => ?_
  refine stops_bind unwritten_requireVm fun vm log hvm => ?_
  refine stops_bind (unwritten_of_only lookups_assertNoActiveJob) fun _ log _ => ?_
  refine Context.holds_ite.mpr ⟨fun _ => .inl rfl, fun _ => ?_⟩
  refine stops_bind (unwritten_of_only lookups_agentIp) fun ip log _ => ?_
  obtain rfl := findVmById_id hvm
  refine Context.holds_ite.mpr ⟨fun _ => ?_, fun _ => ?_⟩
  · exact stops_of_performs hfinding .healed performs_settleFinding
  · exact stops_of_performs hfinding (.resyncIp htarget ip vm.ipStatic)
      (performs_writeIp.bind fun _ => performs_settleFinding)

theorem stops_deleteOrphan :
    (alone (logging (RemediationServed deps))).holds (deleteOrphanDriftConnection id actor now)
      (StopsInPlan deps .deleteOrphan id actor now s) (s, log) := by
  refine stops_bind unwritten_activeFinding fun finding log hfinding => ?_
  have htarget : ∀ log : DriftLog, (alone (logging (RemediationServed deps))).holds (orphanTarget finding)
      (Unwritten s fun connectionId => finding.connectionId = some connectionId) (s, log) :=
    fun log => Context.holds_ite.mpr ⟨fun _ => unwritten_orRaise, fun _ => unwritten_error _ _⟩
  refine stops_bind (htarget log) fun connectionId log hconnection => ?_
  refine stops_bind (unwritten_of_only lookups_assertVmGone) fun _ log _ => ?_
  refine holds_look rfl (fun _ log _ => ?_) fun _ _ => .inl rfl
  refine holds_askDrift_bind.mpr ⟨trivial, ?_, ?_⟩
  · rintro deleted ⟨s₁, log₁⟩ ⟨hserved, -⟩
    refine Context.holds_ite.mpr ⟨fun _ => ?_, fun hnot => .inl ?_⟩
    · refine holds_alone_iff.mpr ?_
      rintro (e | a) o hends
      · obtain ⟨hstop, hfailed⟩ := (performs_settleFinding _ _ _ hends).2 e rfl
        exact .inr ⟨hfailed, finding, _, hfinding, .deleteOrphan hconnection, .later ⟨deleted, hserved⟩ hstop⟩
      · trivial
    · obtain ⟨fails, hr, hs⟩ := hserved
      have hfalse : deleted = false := Bool.eq_false_iff.mpr hnot
      subst hfalse
      have hsame := @after_deleteConnectionRecord_false fails connectionId s.endpoints
      cases hresult : (exec (deleteConnectionRecord fails connectionId) s.endpoints).1 with
      | error e =>
          rw [hresult] at hr
          cases hr
      | ok found =>
          rw [hresult] at hr
          cases hr
          have hkept := hsame hresult
          rw [hs, hkept]
  · rintro e ⟨s₁, log₁⟩ ⟨hserved, hlog⟩
    refine .inr ⟨⟨.guacDeleteConnectionRecord connectionId, e, ?_⟩, finding, _, hfinding, .deleteOrphan hconnection,
      .amid ⟨⟨e, hserved⟩, fun hstatement => by cases hstatement⟩⟩
    rw [hlog]
    exact List.mem_cons_self

/-- **A remediation that throws has stopped in its plan.**  Whichever calls fail: if none has failed, or all that were
made are lookups, then everything is as before.  Else the writes of the plan that come before the one that failed have
been made and are left, of a function of `GuacamoleService` that failed perhaps a part.  The finding has changed only if
all of the plan is done. -/
theorem remediation_interrupted {s' : RemediationWorld} {e : Failure}
    (hends : Ends (logging (RemediationServed deps)) (kind.prog id actor now) (s, []) (.error e) (s', log)) :
    (¬ Log.Failed log ∨ (∀ entry ∈ log, entry.1.isLookup = true) → s' = s) ∧
      (s' = s ∨ ∃ finding ws, s.drift.findings.findById id = some finding ∧
        Remediation.Plan deps finding kind ws ∧
        Interrupted (ws ++ [(finding.resolution actor now).write deps]) s s' ∧
        (s'.drift.findings ≠ s.drift.findings →
          Completed (ws ++ [(finding.resolution actor now).write deps]) s s')) := by
  have hprog : (alone (logging (RemediationServed deps))).holds (kind.prog id actor now)
      (StopsInPlan deps kind id actor now s) (s, []) := by
    cases kind with
    | decommission => exact stops_decommission
    | adopt => exact stops_adopt
    | resyncIp => exact stops_resyncIp
    | deleteOrphan => exact stops_deleteOrphan
  have hread : (∀ entry ∈ log, entry.1.isLookup = true) → s' = s := by
    refine (hends.sound (holds_aloneOwing_keeping
      (I := fun o => (∀ entry ∈ o.2, entry.1.isLookup = true) → o.1 = s) ?_ hprog fun _ => rfl)).2
    intro c o r o' hsame hserve hall
    rw [hserve.2] at hall
    obtain ⟨hc, hbefore⟩ := List.forall_mem_cons.mp hall
    exact (hserve.1.eq_of_isLookup hc).trans (hsame hbefore)
  obtain hsame | ⟨hfailed, finding, ws, hfinding, hplan, hstop⟩ := hends.sound hprog
  · exact ⟨fun _ => hsame, .inl hsame⟩
  · refine ⟨?_, .inr ⟨finding, ws, hfinding, hplan, hstop, hplan.completed hstop⟩⟩
    rintro (hnone | hlookups)
    · exact absurd hfailed hnone
    · exact hread hlookups

end remediations

/-! ## Guacamole is down -/

namespace RemediationWorld

/-- What the call does by its fate, where the functions of `GuacamoleService` succeed. -/
def play (deps : GuacamoleServiceDeps) (fates : DriftFates) :
    (c : DriftCall) → RemediationWorld → Option (Except Failure c.Reply × RemediationWorld)
  | .base (.credsDelete vmId), s => some (.ok (), { s with vault := s.vault.delete vmId })
  | .base (.guacListConnectionRecords vmId), s =>
      some (.ok ((s.endpoints.listConnectionRecords vmId).map EndpointRow.record), s)
  | .base (.guacDeleteVmResources vmId), s =>
      let out := exec (deleteVmResources (fun _ => false) vmId) s.endpoints
      some (out.1.mapError .app, { s with endpoints := out.2 })
  | .guacUpdateConnectionHostname vmId hostname, s =>
      let out := exec (deps.tryUpdateConnectionHostname (fun _ => false) vmId hostname) s.endpoints
      some (out.1.mapError .app, { s with endpoints := out.2 })
  | .guacDeleteConnectionRecord id, s =>
      let out := exec (deleteConnectionRecord (fun _ => false) id) s.endpoints
      some (out.1.mapError .app, { s with endpoints := out.2 })
  | c, s => (s.drift.play fates c).map fun out => (out.1, { s with drift := out.2 })

def playLogged (deps : GuacamoleServiceDeps) (fates : DriftFates) (c : DriftCall) (o : RemediationWorld × DriftLog) :
    Option (Except Failure c.Reply × RemediationWorld × DriftLog) :=
  (o.1.play deps fates c).map fun out => (out.1, out.2, ⟨c, out.1⟩ :: o.2)

end RemediationWorld

theorem remediationServed_play {deps : GuacamoleServiceDeps} {fates : DriftFates} {c : DriftCall}
    {s s' : RemediationWorld} {r : Except Failure c.Reply} (hplay : s.play deps fates c = some (r, s')) :
    RemediationServed deps c s r s' := by
  have hlocal : ((s.drift.play fates c).map fun out => (out.1, { s with drift := out.2 })) = some (r, s') →
      DriftServed c s.drift r s'.drift ∧ s'.endpoints = s.endpoints ∧ s'.vault = s.vault := by
    intro hplay
    obtain ⟨⟨r₁, drift⟩, hout, heq⟩ := Option.map_eq_some_iff.mp hplay
    cases heq
    exact ⟨driftServed_play hout, rfl, rfl⟩
  cases c with
  | base b =>
      cases b with
      | credsDelete vmId =>
          cases hplay
          exact .inr ⟨rfl, rfl⟩
      | guacListConnectionRecords vmId =>
          cases hplay
          exact ⟨rfl, fun records hrecords => (Except.ok.inj hrecords).symm⟩
      | guacDeleteVmResources vmId =>
          cases hplay
          exact ⟨fun _ => false, rfl, rfl⟩
      | _ => exact hlocal hplay
  | guacUpdateConnectionHostname vmId hostname =>
      cases hplay
      exact ⟨fun _ => false, rfl, rfl⟩
  | guacDeleteConnectionRecord id =>
      cases hplay
      exact ⟨fun _ => false, rfl, rfl⟩
  | _ => exact hlocal hplay

def DriftFates.guacDown : DriftFates
  | .base (.proxmoxGuestIpAddresses _ _) => .answer (some ⟨none, ["10.0.0.9"]⟩)
  | .base .getGuacDb => .refuse (.other "connect ECONNREFUSED")
  | c => .answer c.plainReply

namespace RemediationWorld

def sampleMoved : RemediationWorld where
  drift := { DriftWorld.sample with findings := ⟨[(ipFinding .web "10.0.0.5" "10.0.0.9").newRow 1 900], by decide⟩ }
  endpoints := { connections := ⟨[⟨⟨30, .ssh, "proxvm-web"⟩, 1, "10.0.0.5"⟩], by decide⟩
                 guac := Connections.reprovisioned.guac }
  vault := fun _ => none

def sampleResync : Prog driftCalls Failure Unit × RemediationWorld × DriftLog :=
  drive (playLogged .onPostgres .guacDown) 20 (Remediation.prog .resyncIp 1 .root 2000, (sampleMoved, []))

theorem ends_sampleResync : ∃ e, Ends (logging (RemediationServed .onPostgres)) (Remediation.prog .resyncIp 1 .root 2000)
    (sampleMoved, []) (.error e) (sampleResync.2.1, sampleResync.2.2) := by
  have hfails : (sampleResync.1.result?.any fun r => r.toOption.isNone) = true := by decide +kernel
  obtain ⟨r, hresult, hnone⟩ := (Option.any_eq_true _ _).mp hfails
  cases r with
  | ok a => cases hnone
  | error e =>
      refine ⟨e, ends_of_result (fun c o r o' hplay => ?_) 20 hresult⟩
      obtain ⟨out, hout, heq⟩ := Option.map_eq_some_iff.mp hplay
      cases heq
      exact ⟨remediationServed_play hout, rfl⟩

def recordedIp (s : RemediationWorld) : Option String := (s.drift.base.db.vms.find? 30).bind VmRow.ipAddress

end RemediationWorld

open RemediationWorld in
theorem remediation_interrupted_resync : ∃ finding ws, Remediation.Plan .onPostgres finding .resyncIp ws ∧
      Interrupted (ws ++ [(finding.resolution .root 2000).write .onPostgres]) sampleMoved sampleResync.2.1 := by
  obtain ⟨e, hends⟩ := ends_sampleResync
  obtain ⟨-, hsame | ⟨finding, ws, -, hplan, hstop, -⟩⟩ := remediation_interrupted hends
  · have hmoved : recordedIp sampleResync.2.1 = some "10.0.0.9" := by decide +kernel
    rw [hsame] at hmoved
    exact absurd hmoved (by decide +kernel)
  · exact ⟨finding, ws, hplan, hstop⟩

open RemediationWorld in
/-- The re-sync throws, and the record has the new address. -/
theorem not_remediation_atomic :
    ¬ ∀ (deps : GuacamoleServiceDeps) (kind : Remediation) (id : FindingId) (actor : DriftActor) (now : Time)
      (s s' : RemediationWorld) (e : Failure) (log : DriftLog),
      Ends (logging (RemediationServed deps)) (kind.prog id actor now) (s, []) (.error e) (s', log) →
      s'.drift.base.db.vms = s.drift.base.db.vms ∧ s'.endpoints = s.endpoints ∧ s'.vault = s.vault ∧
        s'.drift.base.db.vmAccess = s.drift.base.db.vmAccess ∧
        s'.drift.base.db.groupVmAccess = s.drift.base.db.groupVmAccess ∧
        s'.drift.findings.findById id = s.drift.findings.findById id := by
  intro hclaim
  obtain ⟨e, hends⟩ := ends_sampleResync
  obtain ⟨hvms, -⟩ := hclaim .onPostgres .resyncIp 1 .root 2000 sampleMoved sampleResync.2.1 e sampleResync.2.2 hends
  have hmoved : recordedIp sampleResync.2.1 = some "10.0.0.9" := by decide +kernel
  have hkept : recordedIp sampleResync.2.1 = recordedIp sampleMoved := by
    unfold recordedIp
    rw [hvms]
  rw [hkept] at hmoved
  exact absurd hmoved (by decide +kernel)

end ProxVM
