import ProxVM.Drift.Interruption

/-!
# The recorded address and the endpoints

Four operations record the address of a VM: the end of a provisioning, `PUT /vms/:id/ip`, `POST /vms/:id/detect-ip` and
the re-sync of drift.  The first and the last point the Guacamole connections of the VM to it.  The two routes only
write the row, and the detection makes every address it writes a dynamic one.
-/

namespace ProxVM

open Tables Interaction Fallible

/-! ## The operations -/

/-- What the hypervisor tells `POST /vms/:id/detect-ip`. -/
structure GuestReplies where
  client : Except AppError Unit
  /-- `status`, where the cluster reports one. -/
  status : Option String
  agent : Except AppError (Option AgentInfo)
  osinfo : Except AppError (Option String)

def GuestReplies.usable (guest : GuestReplies) : Option String :=
  guest.agent.toOption.bind fun agent => agent.bind fun info => presentText (selectUsableIpv4 info.ipv4s)

def requireVisibleVm (ctx : RequestContext) (id : VmId) : Handler VmRow := do
  let user ← requirePermission ctx .vmEdit
  let vm ← requireVmById id
  let visible ← query fun db => hasAccessOrOwns db ctx.now vm.id user.row.id
  ensure (!vm.privacyFlag || visible) (AppError.forbidden "This VM is privacy-flagged and you have no grant for it")
  pure vm

/-- `PUT /vms/:id/ip`, where `validateIpOverride` ends as `policy` says. -/
def putVmIp (ctx : RequestContext) (id : VmId) (ip : String) (policy : Except AppError Unit) :
    Handler (Option String) := do
  let vm ← requireVisibleVm ctx id
  outcome policy
  tryWrite (fun db => db.updateVmIp vm.id ip true)
    (AppError.conflict ("IP address " ++ ip ++ " is already recorded on another VM"))
  pure (some ip)

def GuestReplies.runs (guest : GuestReplies) (vm : VmRow) : Bool :=
  match guest.status with
  | some status => decide (status = "running")
  | none => decide (vm.status = .running)

/-- `POST /vms/:id/detect-ip`: the address detected, if any. -/
def detectVmIp (ctx : RequestContext) (id : VmId) (guest : GuestReplies) : Handler (Option String) := do
  let vm ← requireVisibleVm ctx id
  outcome guest.client
  if !guest.runs vm then
    pure none
  else do
    let _ ← outcome guest.agent
    match guest.usable with
    | none => pure none
    | some candidate => do
        let taken ← query fun db => (db.updateVmIp vm.id candidate false).isNone
        if taken then
          pure none
        else do
          tryWrite (fun db => db.updateVmIp vm.id candidate false)
            (AppError.database "duplicate key value violates unique constraint")
          if (presentText vm.osName).isNone then do
            let osinfo ← outcome guest.osinfo
            match presentText osinfo with
            | none => pure ()
            | some prettyName => write fun db => db.updateVmOsInfo vm.id (some prettyName)
          else
            pure ()
          pure (some candidate)

/-- What a provisioning job knows when it has found the address: whether that is the one of its request, and the ids
that new connection records get. -/
structure Provisioned where
  vmId : VmId
  ip : String
  staticConfig : Bool
  protocols : List Protocol
  guestUser : String
  password : String
  newIds : Protocol → Nat

def Provisioned.input (p : Provisioned) (vm : VmRow) (protocol : Protocol) : ConnectionInput where
  vmId := vm.id
  vmName := vm.name
  protocol := protocol
  hostname := some p.ip
  port := portForProtocol protocol
  username := p.guestUser
  password := p.password
  connectionName :=
    if 1 < p.protocols.length then some ("proxvm-" ++ vm.name ++ "-" ++ protocol.text) else none

/-- The loop of `createGuacamoleConnection`. -/
def GuacamoleServiceDeps.createEndpoints (deps : GuacamoleServiceDeps) (p : Provisioned) (vm : VmRow) :
    EndpointProgram PUnit :=
  forM p.protocols fun protocol => do
    let _ ← deps.upsertConnectionRecord (p.newIds protocol) (p.input vm protocol)
    pure ⟨⟩

namespace RemediationWorld

def db (s : RemediationWorld) : Db := s.drift.base.db

def withDb (s : RemediationWorld) (db : Db) : RemediationWorld := { s with drift := s.drift.withDb db }

end RemediationWorld

def onAppDb {α : Type} (m : Handler α) : Program AppError RemediationWorld α := fun s =>
  ((exec m s.db).1, s.withDb (exec m s.db).2)

/-- A function of `GuacamoleService`. -/
def onEndpoints {α : Type} (m : EndpointProgram α) : Program AppError RemediationWorld α := fun s =>
  ((exec m s.endpoints).1, { s with endpoints := (exec m s.endpoints).2 })

/-- The end of a provisioning: `discoverIp` records the address and `createGuacamoleConnection` makes the
connections. -/
def GuacamoleServiceDeps.provisionAddress (deps : GuacamoleServiceDeps) (p : Provisioned) :
    Program AppError RemediationWorld (Option String) := do
  onAppDb (tryWrite (fun db => db.updateVmIp p.vmId p.ip p.staticConfig)
    (AppError.validation ("IP address " ++ p.ip ++ " was allocated to another VM while provisioning (source: " ++
      (if p.staticConfig then "static_config" else "guest_agent") ++ ")")))
  let vm ← onAppDb (requireVmById p.vmId)
  onEndpoints (deps.createEndpoints p vm)
  pure (some p.ip)

inductive AddressOp
  | provision (p : Provisioned)
  | put (ctx : RequestContext) (id : VmId) (ip : String) (policy : Except AppError Unit)
  | detect (ctx : RequestContext) (id : VmId) (guest : GuestReplies)
  | resync (findingId : FindingId) (actor : DriftActor) (now : Time) (log : DriftLog)

def AddressOp.Succeeds (deps : GuacamoleServiceDeps) (v : VmId) (s s' : RemediationWorld) : AddressOp → Prop
  | .provision p => p.vmId = v ∧ ∃ ip, exec (deps.provisionAddress p) s = (.ok (some ip), s')
  | .put ctx id ip policy => id = v ∧ ∃ ip', exec (onAppDb (putVmIp ctx id ip policy)) s = (.ok (some ip'), s')
  | .detect ctx id guest => id = v ∧ ∃ ip, exec (onAppDb (detectVmIp ctx id guest)) s = (.ok (some ip), s')
  | .resync findingId actor now log =>
      (∃ finding, s.drift.findings.findById findingId = some finding ∧ finding.vmId = some v) ∧
        Ends (logging (RemediationServed deps)) (resyncDriftIp findingId actor now) (s, []) (.ok ()) (s', log)

/-! ## The property -/

def Endpoints.Leads (s : Endpoints) (c : EndpointRow) (ip : String) : Prop :=
  c.hostname = ip ∧ s.guac.endpoint c.guacConnectionName = some ip

def Endpoints.Lead (s : Endpoints) (v : VmId) (ip : String) : Prop := ∀ c ∈ s.connections, c.vmId = v → s.Leads c ip

def Endpoints.Owns (s : Endpoints) (v : VmId) (name : String) : Prop :=
  ∀ c ∈ s.connections, c.guacConnectionName = name → c.vmId = v

def Endpoints.Admits (deps : GuacamoleServiceDeps) (s : Endpoints) (name ip : String) : Prop :=
  deps.refreshes = true ∨ s.guac.connectionsNamed name = [] ∨ s.guac.endpoint name = some ip

namespace RemediationWorld

def Follows (s : RemediationWorld) (v : VmId) : Prop :=
  ∀ vm ip, s.db.vms.find? v = some vm → vm.ipAddress = some ip → s.endpoints.Lead v ip

def Static (s : RemediationWorld) (v : VmId) : Prop := ∃ vm, s.db.vms.find? v = some vm ∧ vm.ipStatic = true

end RemediationWorld

def AgentReports (log : DriftLog) (ip : String) : Prop :=
  ∃ node vmid info, ⟨DriftCall.base (.proxmoxGuestIpAddresses node vmid), .ok (some info)⟩ ∈ log ∧
    presentText (selectUsableIpv4 info.ipv4s) = some ip

structure Provisioned.Fits (deps : GuacamoleServiceDeps) (p : Provisioned) (s : RemediationWorld) : Prop where
  static : p.staticConfig = true ∨ ¬ s.Static p.vmId
  distinct : s.endpoints.Distinct
  rest : ∀ c ∈ s.endpoints.connections, c.vmId = p.vmId → c.protocol ∉ p.protocols → s.endpoints.Leads c p.ip
  names : ∀ vm, s.db.vms.find? p.vmId = some vm → ∀ protocol ∈ p.protocols,
    s.endpoints.Owns p.vmId (p.input vm protocol).name ∧ s.endpoints.Admits deps (p.input vm protocol).name p.ip

def AddressOp.Fits (deps : GuacamoleServiceDeps) (v : VmId) (s : RemediationWorld) : AddressOp → Prop
  | .provision p => p.Fits deps s
  | .put _ _ ip _ => s.endpoints.Lead v ip
  | .detect _ _ guest => ¬ s.Static v ∧ ∀ ip, guest.usable = some ip → s.endpoints.Lead v ip
  | .resync _ _ _ log => ∀ vm ip, s.db.vms.find? v = some vm → AgentReports log ip →
      (vm.ipAddress = some ip → s.endpoints.Lead v ip) ∧
        (vm.ipAddress ≠ some ip → ∀ c ∈ s.endpoints.connections, c.vmId = v → s.endpoints.Owns v c.guacConnectionName)

structure KeepsAddresses (v : VmId) (s s' : RemediationWorld) : Prop where
  own : s'.Follows v
  others : ∀ w, s.Follows w → s'.Follows w
  static : ∀ w, s.Static w → s'.Static w

/-! ## The record -/

def Db.Records (v : VmId) (ip : String) (ipStatic : Bool) (db db' : Db) : Prop :=
  (∀ w, w ≠ v → db'.vms.find? w = db.vms.find? w) ∧ ∃ f : VmRow → VmRow,
    (∀ vm, (f vm).ipAddress = some ip ∧ (f vm).ipStatic = ipStatic ∧ (f vm).name = vm.name) ∧
      db'.vms.find? v = (db.vms.find? v).map f

section records

variable {db db' : Db} {v w : VmId} {ip : String} {ipStatic : Bool} {s s' : RemediationWorld}

theorem find?_updateVm {f : VmRow → VmRow} {hkey : ∀ vm, (f vm).id = vm.id} :
    (db.updateVm v f hkey).vms.find? w = (db.vms.find? w).map fun vm => if w = v then f vm else vm := by
  rw [Db.updateVm, Table.find?_updateWhere]
  cases hfind : db.vms.find? w with
  | none => rfl
  | some vm =>
      have hid : vm.id = w := (Table.find?_eq_some_iff.mp hfind).2
      simp [hid]

theorem records_updateVmIp (hupdate : db.updateVmIp v ip ipStatic = some db') : Db.Records v ip ipStatic db db' := by
  unfold Db.updateVmIp at hupdate
  split at hupdate
  · cases hupdate
  · obtain rfl := Option.some.inj hupdate
    refine ⟨fun w hne => ?_, fun vm => { vm with ipAddress := some ip, ipStatic }, fun _ => ⟨rfl, rfl, rfl⟩, ?_⟩
    · rw [find?_updateVm]
      simp [hne]
    · rw [find?_updateVm]
      simp

theorem Db.Records.updateVmOsInfo {osName : Option String} (h : Db.Records v ip ipStatic db db') :
    Db.Records v ip ipStatic db (db'.updateVmOsInfo v osName) := by
  obtain ⟨hothers, f, hf, hown⟩ := h
  refine ⟨fun w hne => ?_, fun vm => { f vm with osName }, hf, ?_⟩
  · rw [Db.updateVmOsInfo, find?_updateVm, hothers w hne]
    simp [hne]
  · rw [Db.updateVmOsInfo, find?_updateVm, hown, Option.map_map]
    simp [Function.comp_def]

theorem Db.Records.keeps (h : Db.Records v ip ipStatic s.db s'.db) (hlead : s'.endpoints.Lead v ip)
    (hothers : ∀ w, w ≠ v → ∀ a, s.endpoints.Lead w a → s'.endpoints.Lead w a)
    (hstatic : ipStatic = true ∨ ¬ s.Static v) : KeepsAddresses v s s' := by
  obtain ⟨hfind, f, hf, hown⟩ := h
  have hfollows : s'.Follows v := by
    intro vm' a hvm' ha
    rw [hown] at hvm'
    obtain ⟨vm, -, rfl⟩ := Option.map_eq_some_iff.mp hvm'
    obtain rfl := Option.some.inj ((hf vm).1.symm.trans ha)
    exact hlead
  refine ⟨hfollows, fun w hw => ?_, ?_⟩
  · by_cases hne : w = v
    · exact hne ▸ hfollows
    · intro vm a hvm ha
      rw [hfind w hne] at hvm
      exact hothers w hne a (hw vm a hvm ha)
  · rintro w ⟨vm, hvm, hst⟩
    by_cases hne : w = v
    · subst hne
      obtain hstatic | hdynamic := hstatic
      · exact ⟨f vm, by rw [hown, hvm]; rfl, (hf vm).2.1.trans hstatic⟩
      · exact absurd ⟨vm, hvm, hst⟩ hdynamic
    · exact ⟨vm, by rw [hfind w hne]; exact hvm, hst⟩

end records

/-! ## The routes -/

section routes

variable {db : Db} {ctx : RequestContext} {id : VmId}

theorem onSuccess_requireVisibleVm {P : VmRow → Db → Prop} (hok : ∀ vm, findVmById db id = some vm → P vm db) :
    onSuccess (requireVisibleVm ctx id) P db := by
  unfold requireVisibleVm
  rw [onSuccess_bind]
  refine onSuccess_of_after (Q := fun r db' => ∀ user, r = .ok user → db' = db)
    (after_requirePermission (fun _ _ _ _ _ => rfl) fun _ _ he => by cases he) fun user db' hsame => ?_
  obtain rfl := hsame user rfl
  simp only [onSuccess_bind, requireVmById, onSuccess_query, onSuccess_orFail, onSuccess_ensure, onSuccess_pure]
  exact fun vm hvm _ => hok vm hvm

theorem onSuccess_putVmIp {ip : String} {policy : Except AppError Unit} :
    onSuccess (putVmIp ctx id ip policy) (fun _ db' => Db.Records id ip true db db') db := by
  unfold putVmIp
  rw [onSuccess_bind]
  refine onSuccess_requireVisibleVm fun vm hvm => ?_
  simp only [onSuccess_bind, onSuccess_outcome, onSuccess_tryWrite, onSuccess_pure]
  intro _ _ db' hupdate
  rw [findVmById_id hvm] at hupdate
  exact records_updateVmIp hupdate

theorem onSuccess_detectVmIp {guest : GuestReplies} : onSuccess (detectVmIp ctx id guest)
      (fun found db' => ∀ ip, found = some ip → guest.usable = some ip ∧ Db.Records id ip false db db') db := by
  unfold detectVmIp
  rw [onSuccess_bind]
  refine onSuccess_requireVisibleVm fun vm hvm => ?_
  simp only [onSuccess_bind, onSuccess_outcome, onSuccess_ite, onSuccess_pure]
  intro _ _
  refine ⟨fun _ ip hip => (by cases hip), fun _ agent _ => ?_⟩
  cases husable : guest.usable with
  | none => exact onSuccess_pure.mpr fun ip hip => by cases hip
  | some candidate =>
      simp only [onSuccess_bind, onSuccess_query, onSuccess_ite, onSuccess_pure, onSuccess_tryWrite]
      refine ⟨fun _ ip hip => (by cases hip), fun _ db' hupdate => ?_⟩
      rw [findVmById_id hvm] at hupdate ⊢
      have hrecords := records_updateVmIp hupdate
      refine ⟨fun _ => ?_, fun _ ip hip => ⟨hip, Option.some.inj hip ▸ hrecords⟩⟩
      simp only [onSuccess_outcome]
      intro osinfo _
      cases presentText osinfo with
      | none => exact onSuccess_pure.mpr fun ip hip => ⟨hip, Option.some.inj hip ▸ hrecords⟩
      | some prettyName =>
          simp only [onSuccess_bind, onSuccess_write, onSuccess_pure]
          exact fun ip hip => ⟨hip, Option.some.inj hip ▸ hrecords.updateVmOsInfo⟩

end routes

/-! ## The provisioning -/

section provisioning

variable {deps : GuacamoleServiceDeps} {p : Provisioned} {vm : VmRow} {e e' : Endpoints}

theorem Endpoints.Upserts.leads {input : ConnectionInput} {ip : String} (h : e.Upserts deps input ip e')
    (hname : e.Admits deps input.name ip) : e'.guac.endpoint input.name = some ip ∧
      ∀ n, n ≠ input.name → e'.guac.connectionsNamed n = e.guac.connectionsNamed n ∧
        ∀ a, e.guac.endpoint n = some a → e'.guac.endpoint n = some a := by
  obtain hredirects | ⟨hkeeps, hnamed, hsame⟩ := h.guac
  · exact ⟨hredirects.self, fun n hne => ⟨hredirects.named n hne, fun a => hredirects.others n a hne⟩⟩
  · rw [hsame]
    refine ⟨?_, fun n _ => ⟨rfl, fun _ h => h⟩⟩
    obtain hrefreshes | hnone | hleads := hname
    · rw [hkeeps] at hrefreshes
      cases hrefreshes
    · exact absurd hnone hnamed
    · exact hleads

structure Provisioned.Keeps (deps : GuacamoleServiceDeps) (p : Provisioned) (vm : VmRow) (e₀ e : Endpoints) : Prop where
  distinct : e.Distinct
  names : ∀ protocol ∈ p.protocols, e.Admits deps (p.input vm protocol).name p.ip
  own : ∀ c ∈ e.connections, c.vmId = p.vmId → c.protocol ∈ p.protocols ∨ e.Leads c p.ip
  others : ∀ c ∈ e.connections, c.vmId ≠ p.vmId → c ∈ e₀.connections ∧
    ∀ a, e₀.guac.endpoint c.guacConnectionName = some a → e.guac.endpoint c.guacConnectionName = some a

def Provisioned.Makes (p : Provisioned) (protocol : Protocol) (e : Endpoints) : Prop :=
  ∀ c ∈ e.connections, c.vmId = p.vmId → c.protocol = protocol → e.Leads c p.ip

theorem Provisioned.Keeps.upsert {e₀ : Endpoints} {protocol : Protocol} (h : p.Keeps deps vm e₀ e)
    (hvm : vm.id = p.vmId) (hprotocol : protocol ∈ p.protocols) (howns : e₀.Owns p.vmId (p.input vm protocol).name)
    (hupserts : e.Upserts deps (p.input vm protocol) p.ip e') :
    p.Keeps deps vm e₀ e' ∧ (∀ y, p.Makes y e → p.Makes y e') ∧ p.Makes protocol e' := by
  obtain ⟨hself, hapart⟩ := hupserts.leads (h.names protocol hprotocol)
  have hends : ∀ n, e.guac.endpoint n = some p.ip → e'.guac.endpoint n = some p.ip := by
    intro n hn
    by_cases hne : n = (p.input vm protocol).name
    · exact hne ▸ hself
    · exact (hapart n hne).2 _ hn
  -- a record of the VM is the one just made, or one of another protocol
  have hrow : ∀ c ∈ e'.connections, c.vmId = p.vmId → e'.Leads c p.ip ∨ c ∈ e.connections ∧ c.protocol ≠ protocol := by
    intro c hc hcvm
    obtain ⟨-, -, hname, hhost⟩ | ⟨hold, hother⟩ := hupserts.records c hc
    · exact .inl ⟨hhost, hname ▸ hself⟩
    · exact .inr ⟨hold, fun heq => hother ⟨hcvm.trans hvm.symm, heq⟩⟩
  refine ⟨⟨hupserts.distinct, fun other hother => ?_, fun c hc hcvm => ?_, fun c hc hcvm => ?_⟩,
    fun y hy c hc hcvm hcy => ?_, fun c hc hcvm hcp => ?_⟩
  · obtain hrefreshes | hnone | hleads := h.names other hother
    · exact .inl hrefreshes
    · by_cases hne : (p.input vm other).name = (p.input vm protocol).name
      · exact .inr (.inr (hne ▸ hself))
      · exact .inr (.inl ((hapart _ hne).1.trans hnone))
    · exact .inr (.inr (hends _ hleads))
  · obtain hleads | ⟨hold, -⟩ := hrow c hc hcvm
    · exact .inr hleads
    · exact (h.own c hold hcvm).imp id fun hleads => ⟨hleads.1, hends _ hleads.2⟩
  · obtain ⟨hcvm', -⟩ | ⟨hold, -⟩ := hupserts.records c hc
    · exact absurd (hcvm'.trans hvm) hcvm
    · obtain ⟨hmem, hled⟩ := h.others c hold hcvm
      have hne : c.guacConnectionName ≠ (p.input vm protocol).name := fun heq => hcvm (howns c hmem heq)
      exact ⟨hmem, fun a ha => (hapart _ hne).2 a (hled a ha)⟩
  · obtain hleads | ⟨hold, -⟩ := hrow c hc hcvm
    · exact hleads
    · exact ⟨(hy c hold hcvm hcy).1, hends _ (hy c hold hcvm hcy).2⟩
  · obtain hleads | ⟨-, hother⟩ := hrow c hc hcvm
    · exact hleads
    · exact absurd hcp hother

theorem onSuccess_createEndpoints (hvm : vm.id = p.vmId) (hdistinct : e.Distinct)
    (hrest : ∀ c ∈ e.connections, c.vmId = p.vmId → c.protocol ∉ p.protocols → e.Leads c p.ip)
    (hnames : ∀ protocol ∈ p.protocols,
      e.Owns p.vmId (p.input vm protocol).name ∧ e.Admits deps (p.input vm protocol).name p.ip) :
    onSuccess (deps.createEndpoints p vm)
      (fun _ e' => e'.Lead p.vmId p.ip ∧ ∀ w, w ≠ p.vmId → ∀ a, e.Lead w a → e'.Lead w a) e := by
  have hround : ∀ protocol ∈ p.protocols, ∀ e₁, p.Keeps deps vm e e₁ → onSuccess (do
      let _ ← deps.upsertConnectionRecord (p.newIds protocol) (p.input vm protocol)
      pure ⟨⟩ : EndpointProgram PUnit)
      (fun _ e₂ => p.Keeps deps vm e e₂ ∧ (∀ y, p.Makes y e₁ → p.Makes y e₂) ∧ p.Makes protocol e₂) e₁ := by
    intro protocol hprotocol e₁ hkeeps
    simp only [onSuccess_bind, onSuccess_pure]
    refine onSuccess_mono (GuacamoleServiceDeps.onSuccess_upsertConnectionRecord hkeeps.distinct) ?_
    rintro - e₂ ⟨ip, hip, hupserts⟩
    obtain rfl := Option.some.inj hip
    exact hkeeps.upsert hvm hprotocol (hnames protocol hprotocol).1 hupserts
  have hstart : p.Keeps deps vm e e := by
    refine ⟨hdistinct, fun protocol hprotocol => (hnames protocol hprotocol).2, fun c hc hcvm => ?_,
      fun c hc _ => ⟨hc, fun _ h => h⟩⟩
    by_cases hprotocol : c.protocol ∈ p.protocols
    · exact .inl hprotocol
    · exact .inr (hrest c hc hcvm hprotocol)
  refine onSuccess_mono (onSuccess_forM_each (I := p.Keeps deps vm e) (D := p.Makes) hround hstart) ?_
  rintro - e₂ ⟨hkeeps, -, hdone⟩
  refine ⟨fun c hc hcvm => ?_, fun w hne a hlead c hc hcw => ?_⟩
  · obtain hprotocol | hleads := hkeeps.own c hc hcvm
    · exact hdone c.protocol hprotocol c hc hcvm rfl
    · exact hleads
  · obtain ⟨hmem, hled⟩ := hkeeps.others c hc (hcw ▸ hne)
    exact ⟨(hlead c hmem hcw).1, hled a (hlead c hmem hcw).2⟩

end provisioning

/-! ## The re-sync -/

section resync

variable {deps : GuacamoleServiceDeps} {fails : RedirectionPoint → Bool} {v : VmId} {hostname ip : String}
  {e e' : Endpoints} {s s' : RemediationWorld} {log : DriftLog}

theorem onSuccess_tryRedirectConnections {P : PUnit → Endpoints → Prop} {records : List EndpointRow}
    (h : onSuccess (forM records (deps.redirectConnection hostname)) P e) :
    onSuccess (forM records (deps.tryRedirectConnection fails hostname)) P e := by
  induction records generalizing e with
  | nil => exact h
  | cons record records ih =>
      rw [List.forM_cons, onSuccess_bind] at h ⊢
      have hrest := onSuccess_mono h fun _ _ => ih
      simp only [GuacamoleServiceDeps.redirectConnection, GuacamoleServiceDeps.tryRedirectConnection,
        reachRedirection, onSuccess_bind, onSuccess_write, onSuccess_ensure] at hrest ⊢
      exact fun _ _ => hrest

theorem onSuccess_tryUpdateConnectionHostname :
    onSuccess (deps.tryUpdateConnectionHostname fails v hostname) (fun _ e' => e.Redirected v hostname e') e := by
  simp only [GuacamoleServiceDeps.tryUpdateConnectionHostname, reachRedirection, onSuccess_bind, onSuccess_ensure,
    onSuccess_query, onSuccess_pure]
  exact fun _ => onSuccess_tryRedirectConnections GuacamoleServiceDeps.onSuccess_redirectConnections

theorem Endpoints.Redirected.lead (h : e.Redirected v ip e')
    (howns : ∀ c ∈ e.connections, c.vmId = v → e.Owns v c.guacConnectionName) :
    e'.Lead v ip ∧ ∀ w, w ≠ v → ∀ a, e.Lead w a → e'.Lead w a := by
  refine ⟨h.own, fun w hne a hlead c' hc' hw => ?_⟩
  obtain ⟨c, hc, hrow, -, hsame⟩ := h.records c' hc'
  have hcw : c.vmId = w := (congrArg VmConnectionRow.vmId hrow).trans hw
  obtain rfl := hsame (hcw ▸ hne)
  obtain ⟨hhost, hend⟩ := hlead c' hc hw
  refine ⟨hhost, ?_⟩
  obtain hkept | ⟨-, c₀, hc₀, hv, hname⟩ := h.endpoints _ _ hend
  · exact hkept
  · exact absurd (hw.symm.trans (howns c₀ hc₀ hv c' hc hname.symm)) hne

theorem served_updateIp {ipStatic : Bool} {a : Unit}
    (hserved : RemediationServed deps (.base (.vmsUpdateIp v ip ipStatic)) s (.ok a) s') :
    Db.Records v ip ipStatic s.db s'.db ∧ s'.endpoints = s.endpoints := by
  obtain ⟨hdrift, hendpoints, -⟩ := hserved
  refine ⟨?_, hendpoints⟩
  obtain ⟨given, heq⟩ | ⟨e, heq⟩ := hdrift.base.1.cases rfl
  · change World.statement _ _ _ = _ at heq
    unfold World.statement at heq
    split at heq
    · next db hupdate =>
        have hdb : s'.db = db := congrArg World.db (Prod.mk.inj heq).2.symm
        rw [hdb]
        exact records_updateVmIp hupdate
    · cases (Prod.mk.inj heq).1
  · cases (Prod.mk.inj heq).1

theorem served_updateHostname {n : Nat}
    (hserved : RemediationServed deps (.guacUpdateConnectionHostname v ip) s (.ok n) s') :
    s'.db = s.db ∧ s.endpoints.Redirected v ip s'.endpoints := by
  obtain ⟨fails, hr, rfl⟩ := hserved
  refine ⟨rfl, ?_⟩
  cases hresult : (exec (deps.tryUpdateConnectionHostname fails v ip) s.endpoints).1 with
  | error e =>
      rw [hresult] at hr
      cases hr
  | ok m => exact onSuccess_tryUpdateConnectionHostname m hresult

theorem served_resolution {finding : DriftFindingRow} {actor : DriftActor} {now : Time} {a : Unit}
    (hserved : RemediationServed deps (finding.resolution actor now) s (.ok a) s') :
    s'.db = s.db ∧ s'.endpoints = s.endpoints :=
  ⟨congrArg World.db (hserved.1.frame.base rfl), hserved.2.1⟩

theorem reports_agentIp {vm : VmRow} {o o' : RemediationWorld × DriftLog}
    (hends : Ends (logging (RemediationServed deps)) (agentIp vm) o (.ok ip) o') : AgentReports o'.2 ip := by
  obtain ⟨-, o₁, -, hends⟩ := hends.of_bind_ok
  obtain ⟨node, o₂, -, hends⟩ := hends.of_bind_ok
  obtain ⟨agent, o₃, hagent, hends⟩ := hends.of_bind_ok
  obtain ⟨-, hlog⟩ := ends_perform.mp hagent
  cases agent with
  | none => cases (ends_raise.mp hends).1
  | some info =>
      refine ⟨node, vm.vmid, info, hends.subset_log (hlog ▸ List.mem_cons_self), ?_⟩
      cases husable : presentText (selectUsableIpv4 info.ipv4s) with
      | none =>
          simp only [husable, Prog.orRaise] at hends
          cases (ends_raise.mp hends).1
      | some usable =>
          simp only [husable, Prog.orRaise] at hends
          rw [(Ends.of_pure_ok hends).1]

theorem unwritten_of_ends {α : Type} {φ : α → Prop} {p : DriftTask α} {a : α} {o : RemediationWorld × DriftLog}
    (hends : Ends (logging (RemediationServed deps)) p (s, log) (.ok a) o)
    (hp : (alone (logging (RemediationServed deps))).holds p (Unwritten s φ) (s, log)) :
    ∃ log', o = (s, log') ∧ φ a := by
  obtain ⟨hsame, hφ⟩ := hends.sound hp
  exact ⟨o.2, Prod.ext hsame rfl, hφ a rfl⟩

theorem completed_resyncDriftIp {id : FindingId} {actor : DriftActor} {now : Time} {finding : DriftFindingRow}
    (hends : Ends (logging (RemediationServed deps)) (resyncDriftIp id actor now) (s, []) (.ok ()) (s', log))
    (hfinding : s.drift.findings.findById id = some finding) (hvm : finding.vmId = some v) :
    ∃ vm ip, findVmById s.db v = some vm ∧ vm.ipStatic = false ∧ AgentReports log ip ∧
      (vm.ipAddress = some ip ∧ Completed [(finding.resolution actor now).write deps] s s' ∨
        vm.ipAddress ≠ some ip ∧ Completed [(DriftCall.base (.vmsUpdateIp v ip false)).write deps,
            (DriftCall.guacUpdateConnectionHostname v ip).write deps,
            (finding.resolution actor now).write deps] s s') := by
  obtain ⟨row, o, hactive, hends⟩ := hends.of_bind_ok
  obtain ⟨log₁, rfl, hrow⟩ := unwritten_of_ends hactive unwritten_activeFinding
  obtain rfl := Option.some.inj (hfinding.symm.trans hrow)
  obtain ⟨target, o, htargeted, hends⟩ := hends.of_bind_ok
  obtain ⟨log₂, rfl, htarget⟩ := unwritten_of_ends htargeted unwritten_findingTarget
  obtain rfl := Option.some.inj (hvm.symm.trans htarget)
  obtain ⟨vm, o, hfound, hends⟩ := hends.of_bind_ok
  obtain ⟨log₃, rfl, hlive⟩ := unwritten_of_ends hfound unwritten_requireVm
  obtain ⟨_, o, hjobs, hends⟩ := hends.of_bind_ok
  obtain ⟨log₄, rfl, -⟩ := unwritten_of_ends hjobs (unwritten_of_only lookups_assertNoActiveJob)
  by_cases hstatic : vm.ipStatic = true
  · rw [if_pos hstatic] at hends
    cases (ends_raise.mp hends).1
  rw [if_neg hstatic] at hends
  obtain ⟨ip, o, hagent, hends⟩ := hends.of_bind_ok
  obtain ⟨log₅, rfl, -⟩ := unwritten_of_ends hagent (unwritten_of_only lookups_agentIp)
  obtain ⟨node, vmid, info, hmem, husable⟩ := reports_agentIp hagent
  refine ⟨vm, ip, hlive, Bool.eq_false_iff.mpr hstatic, ⟨node, vmid, info, hends.subset_log hmem, husable⟩, ?_⟩
  by_cases hip : vm.ipAddress = some ip
  · rw [if_pos hip] at hends
    exact .inl ⟨hip, (performs_settleFinding _ _ _ hends).1 () rfl⟩
  · rw [if_neg hip] at hends
    have hdone := ((performs_writeIp.bind fun _ => performs_settleFinding) _ _ _ hends).1 () rfl
    rw [findVmById_id hlive, Bool.eq_false_iff.mpr hstatic] at hdone
    exact .inr ⟨hip, hdone⟩

end resync

/-! ## Runs -/

section runs

variable {deps : GuacamoleServiceDeps} {v : VmId} {s s' : RemediationWorld}

theorem onSuccess_onAppDb {α : Type} {m : Handler α} {P : α → RemediationWorld → Prop} :
    onSuccess (onAppDb m) P s ↔ onSuccess m (fun a db => P a (s.withDb db)) s.db := Iff.rfl

theorem onSuccess_onEndpoints {α : Type} {m : EndpointProgram α} {P : α → RemediationWorld → Prop} :
    onSuccess (onEndpoints m) P s ↔ onSuccess m (fun a endpoints => P a { s with endpoints }) s.endpoints := Iff.rfl

theorem succeeds_of_exec {α : Type} {m : Program AppError RemediationWorld α} {P : α → RemediationWorld → Prop} {a : α}
    (hrun : exec m s = (.ok a, s')) (h : onSuccess m P s) : P a s' := by
  have hP := h a (congrArg Prod.fst hrun)
  rwa [hrun] at hP

theorem Db.Records.keeps_of_lead {ip : String} {ipStatic : Bool} {db : Db} (h : Db.Records v ip ipStatic s.db db)
    (hlead : s.endpoints.Lead v ip) (hstatic : ipStatic = true ∨ ¬ s.Static v) : KeepsAddresses v s (s.withDb db) :=
  Db.Records.keeps h hlead (fun _ _ _ h => h) hstatic

theorem keeps_put {ctx : RequestContext} {ip : String} {policy : Except AppError Unit}
    (hlead : s.endpoints.Lead v ip) :
    onSuccess (onAppDb (putVmIp ctx v ip policy)) (fun _ s' => KeepsAddresses v s s') s :=
  onSuccess_onAppDb.mpr (onSuccess_mono onSuccess_putVmIp fun _ _ h => h.keeps_of_lead hlead (.inl rfl))

theorem keeps_detect {ctx : RequestContext} {guest : GuestReplies} (hdynamic : ¬ s.Static v)
    (hlead : ∀ ip, guest.usable = some ip → s.endpoints.Lead v ip) :
    onSuccess (onAppDb (detectVmIp ctx v guest)) (fun found s' => ∀ ip, found = some ip → KeepsAddresses v s s') s := by
  refine onSuccess_onAppDb.mpr (onSuccess_mono onSuccess_detectVmIp fun found db h ip hip => ?_)
  obtain ⟨husable, hrecords⟩ := h ip hip
  exact hrecords.keeps_of_lead (hlead ip husable) (.inr hdynamic)

theorem keeps_provision {p : Provisioned} (hfits : p.Fits deps s) :
    onSuccess (deps.provisionAddress p) (fun _ s' => KeepsAddresses p.vmId s s') s := by
  simp only [GuacamoleServiceDeps.provisionAddress, requireVmById, onSuccess_bind, onSuccess_onAppDb,
    onSuccess_tryWrite, onSuccess_query, onSuccess_orFail, onSuccess_onEndpoints, onSuccess_pure]
  intro db hupdate vm hvm
  have hrecords := records_updateVmIp hupdate
  obtain ⟨-, f, hf, hown⟩ := hrecords
  obtain ⟨vm₀, hvm₀, rfl⟩ := Option.map_eq_some_iff.mp (hown.symm.trans (Option.filter_eq_some_iff.mp hvm).1)
  -- the job asks for the same names after it has recorded the address
  have hname : ∀ protocol, (p.input (f vm₀) protocol).name = (p.input vm₀ protocol).name := by
    intro protocol
    simp only [ConnectionInput.name, Provisioned.input, (hf vm₀).2.2]
  have hnames := hfits.names vm₀ hvm₀
  simp only [← hname] at hnames
  refine onSuccess_mono (onSuccess_createEndpoints (findVmById_id hvm) hfits.distinct hfits.rest hnames) ?_
  rintro - e ⟨hlead, hothers⟩
  exact (records_updateVmIp hupdate).keeps hlead hothers hfits.static

section resynced

variable {finding : DriftFindingRow} {actor : DriftActor} {now : Time} {vm : VmRow} {ip : String}

theorem keeps_healed (hfind : s.db.vms.find? v = some vm) (hip : vm.ipAddress = some ip) (hlead : s.endpoints.Lead v ip)
    (hdone : Completed [(finding.resolution actor now).write deps] s s') : KeepsAddresses v s s' := by
  obtain ⟨s₁, ⟨_, hserved⟩, hnil⟩ := completed_cons.mp hdone
  obtain rfl := completed_nil.mp hnil
  obtain ⟨hdb, hendpoints⟩ := served_resolution hserved
  have hfollows : ∀ w, s.Follows w → s'.Follows w := by
    intro w hw
    rw [RemediationWorld.Follows, hdb, hendpoints]
    exact hw
  refine ⟨hfollows v fun vm' a hvm' ha => ?_, hfollows, fun w hw => ?_⟩
  · obtain rfl := Option.some.inj (hfind.symm.trans hvm')
    obtain rfl := Option.some.inj (hip.symm.trans ha)
    exact hlead
  · rw [RemediationWorld.Static, hdb]
    exact hw

theorem keeps_moved (hfind : s.db.vms.find? v = some vm) (hdynamic : vm.ipStatic = false)
    (howns : ∀ c ∈ s.endpoints.connections, c.vmId = v → s.endpoints.Owns v c.guacConnectionName)
    (hdone : Completed
      [(DriftCall.base (.vmsUpdateIp v ip false)).write deps, (DriftCall.guacUpdateConnectionHostname v ip).write deps,
        (finding.resolution actor now).write deps] s s') : KeepsAddresses v s s' := by
  obtain ⟨s₁, ⟨_, hupdated⟩, hdone⟩ := completed_cons.mp hdone
  obtain ⟨s₂, ⟨_, hrenamed⟩, hdone⟩ := completed_cons.mp hdone
  obtain ⟨s₃, ⟨_, hresolved⟩, hnil⟩ := completed_cons.mp hdone
  obtain rfl := completed_nil.mp hnil
  obtain ⟨hrecords, hendpoints⟩ := served_updateIp hupdated
  obtain ⟨hdb, hredirected⟩ := served_updateHostname hrenamed
  obtain ⟨hdb', hendpoints'⟩ := served_resolution hresolved
  rw [hendpoints] at hredirected
  obtain ⟨hlead, hothers⟩ := hredirected.lead howns
  rw [← hendpoints'] at hlead hothers
  rw [← hdb, ← hdb'] at hrecords
  refine hrecords.keeps hlead hothers (.inr ?_)
  rintro ⟨vm', hvm', hstatic⟩
  obtain rfl := Option.some.inj (hfind.symm.trans hvm')
  rw [hdynamic] at hstatic
  cases hstatic

end resynced

theorem keeps_resync {id : FindingId} {actor : DriftActor} {now : Time} {log : DriftLog} {finding : DriftFindingRow}
    (hfits : (AddressOp.resync id actor now log).Fits deps v s)
    (hfinding : s.drift.findings.findById id = some finding) (hvm : finding.vmId = some v)
    (hends : Ends (logging (RemediationServed deps)) (resyncDriftIp id actor now) (s, []) (.ok ()) (s', log)) :
    KeepsAddresses v s s' := by
  obtain ⟨vm, ip, hlive, hdynamic, hreports, hdone⟩ := completed_resyncDriftIp hends hfinding hvm
  have hfind : s.db.vms.find? v = some vm := (Option.filter_eq_some_iff.mp hlive).1
  obtain ⟨hhealed, hmoved⟩ := hfits vm ip hfind hreports
  obtain ⟨hip, hdone⟩ | ⟨hip, hdone⟩ := hdone
  · exact keeps_healed hfind hip (hhealed hip) hdone
  · exact keeps_moved hfind hdynamic (hmoved hip) hdone

theorem AddressOp.Fits.keeps {op : AddressOp} (hfits : op.Fits deps v s) (hsucceeds : op.Succeeds deps v s s') :
    KeepsAddresses v s s' := by
  cases op with
  | provision p =>
      obtain ⟨rfl, ip, hrun⟩ := hsucceeds
      have hkeeps := succeeds_of_exec hrun (keeps_provision hfits)
      exact hkeeps
  | put ctx id ip policy =>
      obtain ⟨rfl, ip', hrun⟩ := hsucceeds
      have hkeeps := succeeds_of_exec hrun (keeps_put hfits)
      exact hkeeps
  | detect ctx id guest =>
      obtain ⟨rfl, ip, hrun⟩ := hsucceeds
      exact succeeds_of_exec hrun (keeps_detect hfits.1 hfits.2) ip rfl
  | resync id actor now log =>
      obtain ⟨⟨finding, hfinding, hvm⟩, hends⟩ := hsucceeds
      exact keeps_resync hfits hfinding hvm hends

inductive AddressRun (deps : GuacamoleServiceDeps) : List VmId → RemediationWorld → RemediationWorld → Prop
  | nil {s : RemediationWorld} : AddressRun deps [] s s
  | cons {v : VmId} {vs : List VmId} {s s₁ s' : RemediationWorld} (op : AddressOp) (hfits : op.Fits deps v s)
      (hsucceeds : op.Succeeds deps v s s₁) (hrest : AddressRun deps vs s₁ s') : AddressRun deps (v :: vs) s s'

/-- **The endpoints follow the record.**  In every run of operations that fit, from any state: the connections of every
VM of which an operation has recorded the address, and of every VM of which they did so at the start, lead to the
recorded address, and an address that is static stays so. -/
theorem endpoints_follow {vs : List VmId} (hrun : AddressRun deps vs s s') :
    (∀ w, w ∈ vs ∨ s.Follows w → s'.Follows w) ∧ ∀ w, s.Static w → s'.Static w := by
  induction hrun with
  | nil => exact ⟨fun w hw => hw.resolve_left List.not_mem_nil, fun _ h => h⟩
  | cons op hfits hsucceeds hrest ih =>
      obtain ⟨hown, hothers, hstatic⟩ := hfits.keeps hsucceeds
      refine ⟨fun w hw => ih.1 w ?_, fun w hw => ih.2 w (hstatic w hw)⟩
      obtain hmem | hfollows := hw
      · obtain rfl | hmem := List.mem_cons.mp hmem
        · exact .inr hown
        · exact .inl hmem
      · exact .inr (hothers w hfollows)

end runs

namespace RemediationWorld

/-- `root` sets the address of the VM of `sampleMoved`, whose connection leads to `10.0.0.5`. -/
def samplePut (ip : String) : Except AppError (Option String) × RemediationWorld :=
  exec (onAppDb (putVmIp ⟨10, 5, 99⟩ 30 ip (.ok ()))) sampleMoved

def sampleStatic : RemediationWorld :=
  sampleMoved.withDb { sampleMoved.db with vms := ⟨[{ VmRow.web with ipStatic := true }], by decide⟩ }

def sampleReplies : GuestReplies := ⟨.ok (), some "running", .ok (some ⟨none, ["10.0.0.9"]⟩), .ok none⟩

def sampleDetect : Except AppError (Option String) × RemediationWorld :=
  exec (onAppDb (detectVmIp ⟨10, 5, 99⟩ 30 sampleReplies)) sampleStatic

theorem lead_sampleMoved : sampleMoved.endpoints.Lead 30 "10.0.0.5" := by
  intro c hc _
  obtain rfl := List.mem_singleton.mp hc
  exact ⟨rfl, by decide⟩

end RemediationWorld

open RemediationWorld in
theorem endpoints_follow_sample : (samplePut "10.0.0.5").2.Follows 30 := by
  have hok : (samplePut "10.0.0.5").1 = .ok (some "10.0.0.5") := by decide +kernel
  have hrun : AddressRun .onPostgres [30] sampleMoved (samplePut "10.0.0.5").2 :=
    .cons (.put ⟨10, 5, 99⟩ 30 "10.0.0.5" (.ok ())) lead_sampleMoved ⟨rfl, _, Prod.ext hok rfl⟩ .nil
  exact (endpoints_follow hrun).1 30 (.inl List.mem_cons_self)

open RemediationWorld in
/-- The override leaves the connection at the old address, and the detection makes a static address dynamic. -/
theorem not_endpoints_follow :
    (¬ ∀ (deps : GuacamoleServiceDeps) (op : AddressOp) (v : VmId) (s s' : RemediationWorld),
      s.Follows v → op.Succeeds deps v s s' → s'.Follows v) ∧
    ¬ ∀ (deps : GuacamoleServiceDeps) (op : AddressOp) (v : VmId) (s s' : RemediationWorld),
      op.Succeeds deps v s s' → ∀ w, s.Static w → s'.Static w := by
  refine ⟨fun hclaim => ?_, fun hclaim => ?_⟩
  · have hok : (samplePut "10.0.0.9").1 = .ok (some "10.0.0.9") := by decide +kernel
    have hip : ((samplePut "10.0.0.9").2.db.vms.find? 30).bind VmRow.ipAddress = some "10.0.0.9" := by decide +kernel
    have hbefore : sampleMoved.Follows 30 := by
      intro vm ip hvm hip
      obtain rfl : VmRow.web = vm := Option.some.inj hvm
      obtain rfl : "10.0.0.5" = ip := Option.some.inj hip
      exact lead_sampleMoved
    have hfollows := hclaim .onPostgres (.put ⟨10, 5, 99⟩ 30 "10.0.0.9" (.ok ())) 30 sampleMoved _ hbefore
      ⟨rfl, _, Prod.ext hok rfl⟩
    obtain ⟨vm, hvm, haddress⟩ := Option.bind_eq_some_iff.mp hip
    have hhost := (hfollows vm _ hvm haddress ⟨⟨30, .ssh, "proxvm-web"⟩, 1, "10.0.0.5"⟩ List.mem_cons_self rfl).1
    exact absurd hhost (by decide)
  · have hok : sampleDetect.1 = .ok (some "10.0.0.9") := by decide +kernel
    have hdynamic : (sampleDetect.2.db.vms.find? 30).map VmRow.ipStatic = some false := by decide +kernel
    have hstatic : sampleStatic.Static 30 := ⟨_, rfl, rfl⟩
    obtain ⟨vm, hvm, hst⟩ := hclaim .onPostgres (.detect ⟨10, 5, 99⟩ 30 sampleReplies) 30 sampleStatic _
      ⟨rfl, _, Prod.ext hok rfl⟩ 30 hstatic
    have hfind : sampleDetect.2.db.vms.find? 30 = some vm := hvm
    rw [hfind, Option.map_some, hst] at hdynamic
    cases hdynamic

end ProxVM
