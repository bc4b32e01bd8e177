import ProxVM.Guacamole.Names
import ProxVM.Provisioning.Calls

/-!
# Where the connections point

The address that a Guacamole connection opens is its parameter `hostname`, and
`guacamole_connections.hostname` is the application's copy of it.  This module follows both
through the two functions of `services/guacamole.ts` that write them, `upsertConnection` and
`updateConnectionHostname`.

A client addresses a connection by its name, and takes the first of that name.
-/

namespace ProxVM

open Tables Fallible Guac

namespace Guac

def Store.parameter (s : Store) (connectionId : ℕ+) (name : String) : Option String :=
  (s.connectionParameters.find? (connectionId, name)).map ConnectionParameterRow.parameterValue

def Store.endpoint (s : Store) (name : String) : Option String :=
  (s.connectionsNamed name).head?.bind fun row => s.parameter row.connectionId "hostname"

structure Store.Redirects (name host : String) (s s' : Store) : Prop where
  self : s'.endpoint name = some host
  named : ∀ other, other ≠ name → s'.connectionsNamed other = s.connectionsNamed other
  others : ∀ other host', other ≠ name → s.endpoint other = some host' →
    s'.endpoint other = some host'

section parameters

variable {s s' : Store} {name : String} {connectionId : ℕ+}

theorem Store.endpoint_eq_some {host : String} : s.endpoint name = some host ↔
    ∃ row, (s.connectionsNamed name).head? = some row ∧ s.parameter row.connectionId "hostname" = some host :=
  Option.bind_eq_some_iff

theorem Store.parameter_of_mem {value : String}
    (hmem : (⟨connectionId, name, value⟩ : ConnectionParameterRow) ∈ s.connectionParameters) :
    s.parameter connectionId name = some value := by
  rw [Store.parameter, show (connectionId, name) = ConnectionParameterRow.key ⟨connectionId, name, value⟩
    from rfl, Table.find?_of_mem hmem]
  rfl

theorem Store.id_ne_of_name_ne {other : String} (hne : other ≠ name) {row row' : ConnectionRow}
    (hrow : row ∈ s.connectionsNamed name) (hrow' : row' ∈ s.connectionsNamed other) :
    row'.connectionId ≠ row.connectionId := by
  simp only [Store.connectionsNamed, List.mem_filter, decide_eq_true_eq] at hrow hrow'
  intro hid
  have hsame := Table.eq_of_key_eq hrow'.1 hrow.1 hid
  exact hne (hrow'.2.symm.trans ((congrArg ConnectionRow.connectionName hsame).trans hrow.2))

theorem parameter_forM_upsert {entries : List (String × String)} {value : String}
    (hvalue : ∀ e ∈ entries, e.1 = name → e.2 = value) : ∀ {s s' : Store},
      (forM entries fun e => upsertParameter connectionId e.1 e.2 : Sql PUnit) s = some ((), s') →
      (∀ other, other ≠ connectionId → ∀ n, s'.parameter other n = s.parameter other n) ∧
        (s.parameter connectionId name = some value ∨ (∃ e ∈ entries, e.1 = name) →
          s'.parameter connectionId name = some value) := by
  induction entries with
  | nil =>
      intro s s' hrun
      cases hrun
      refine ⟨fun _ _ _ => rfl, ?_⟩
      rintro (hbefore | ⟨e, he, -⟩)
      · exact hbefore
      · exact absurd he List.not_mem_nil
  | cons e entries ih =>
      intro s s' hrun
      rw [List.forM_cons, bind_apply] at hrun
      obtain ⟨⟨_, s₁⟩, hput, hrest⟩ := Option.bind_eq_some_iff.mp hrun
      cases hput
      obtain ⟨hothers, hself⟩ := ih (fun e' he' => hvalue e' (List.mem_cons_of_mem e he')) hrest
      refine ⟨fun other hne n => (hothers other hne n).trans ?_, fun hsome => hself ?_⟩
      · have hkey : ConnectionParameterRow.key ⟨connectionId, e.1, e.2⟩ ≠ (other, n) :=
          fun heq => hne (congrArg Prod.fst heq).symm
        exact congrArg (Option.map _) (Table.find?_put_of_ne _ hkey)
      · by_cases hname : e.1 = name
        · left
          rw [← hvalue e List.mem_cons_self hname, ← hname]
          exact congrArg (Option.map _) (Table.find?_put_self _ _)
        · rcases hsome with hbefore | ⟨e', he', hname'⟩
          · left
            have hkey : ConnectionParameterRow.key ⟨connectionId, e.1, e.2⟩ ≠ (connectionId, name) :=
              fun heq => hname (congrArg Prod.snd heq)
            exact (congrArg (Option.map _) (Table.find?_put_of_ne _ hkey)).trans hbefore
          · right
            rcases List.mem_cons.mp he' with rfl | he'
            · exact absurd hname' hname
            · exact ⟨e', he', hname'⟩

end parameters

/-! ## The methods of the clients -/

section methods

variable {s s' : Store} {name host : String} {params : Params}

theorem value_of_mem_params {value : String} (hmem : ("hostname", value) ∈ params) :
    ∀ e ∈ params.rows, e.1 = "hostname" → e.2 = value := by
  intro e he hname
  have hsame : e = ("hostname", value) := Table.eq_of_key_eq he hmem hname
  exact congrArg Prod.snd hsame

theorem updateConnectionParams_redirects (hmem : ("hostname", host) ∈ params)
    (hrun : GuacamolePostgresClient.updateConnectionParams name params s = some (.ok (), s')) :
    s.Redirects name host s' := by
  have honly := parametersOnly_updateConnectionParams name params s _ hrun
  cases hnamed : s.connectionsNamed name with
  | nil =>
      rw [updateConnectionParams_of_nil hnamed] at hrun
      cases hrun
  | cons row rest =>
      rw [updateConnectionParams_of_cons hnamed] at hrun
      obtain ⟨⟨_, s₁⟩, hloop, heq⟩ := Option.bind_eq_some_iff.mp hrun
      cases heq
      obtain ⟨hothers, hself⟩ := parameter_forM_upsert (value_of_mem_params hmem) hloop
      refine ⟨?_, fun other _ => honly.connectionsNamed other, fun other host' hne hendpoint => ?_⟩
      · refine Store.endpoint_eq_some.mpr ⟨row, ?_, hself (.inr ⟨_, hmem, rfl⟩)⟩
        rw [honly.connectionsNamed, hnamed]
        rfl
      · obtain ⟨row', hhead, hparameter⟩ := Store.endpoint_eq_some.mp hendpoint
        refine Store.endpoint_eq_some.mpr ⟨row', ?_, ?_⟩
        · rw [honly.connectionsNamed]
          exact hhead
        · have hrow : row ∈ s.connectionsNamed name := hnamed ▸ List.mem_cons_self
          rw [hothers _ (Store.id_ne_of_name_ne hne hrow (List.mem_of_mem_head? hhead))]
          exact hparameter

theorem createConnection_redirects {protocol : String} {id : ℕ+}
    (hmem : ("hostname", host) ∈ params) (hnamed : s.connectionsNamed name = [])
    (hrun : GuacamolePostgresClient.createConnection name protocol params s = some (.ok id, s')) :
    s.Redirects name host s' := by
  rw [createConnection_of_nil hnamed] at hrun
  obtain ⟨⟨id₁, s₁⟩, hins, hrun⟩ := Option.bind_eq_some_iff.mp hrun
  obtain ⟨⟨_, s₂⟩, hloop, heq⟩ := Option.bind_eq_some_iff.mp hrun
  simp only [Option.some.injEq, Prod.mk.injEq, Except.ok.injEq] at heq
  obtain ⟨rfl, rfl⟩ := heq
  have honly := parametersOnly_forM (fun e : String × String =>
    parametersOnly_insertParameter id₁ e.1 e.2) params.rows s₁ _ hloop
  obtain ⟨hkept, hadded⟩ := mem_of_forM_insertParameter hloop
  have hnew := insertConnection_eq_some hnamed hins
  obtain ⟨connections, hconnections, heq⟩ := Option.map_eq_some_iff.mp hins
  cases heq
  have hothers : ∀ other, other ≠ name →
      s₂.connectionsNamed other = s.connectionsNamed other := by
    intro other hne
    refine (honly.connectionsNamed other).trans ?_
    unfold Table.insert? at hconnections
    split at hconnections
    · cases hconnections
    · cases hconnections
      simp [Store.connectionsNamed, List.filter_append, Ne.symm hne]
  refine ⟨?_, hothers, fun other host' hne hendpoint => ?_⟩
  · refine Store.endpoint_eq_some.mpr ⟨⟨s.lastConnectionId.succPNat, name, none, protocol⟩, ?_,
      Store.parameter_of_mem (hadded _ hmem)⟩
    rw [honly.connectionsNamed, hnew]
    rfl
  · obtain ⟨row', hhead, hparameter⟩ := Store.endpoint_eq_some.mp hendpoint
    refine Store.endpoint_eq_some.mpr ⟨row', ?_, ?_⟩
    · rw [hothers other hne]
      exact hhead
    · obtain ⟨⟨id', n', value'⟩, hfind, hvalue⟩ := Option.map_eq_some_iff.mp hparameter
      obtain ⟨hp, hkey⟩ := Table.find?_eq_some_iff.mp hfind
      obtain ⟨rfl, rfl⟩ := Prod.mk.inj hkey
      cases hvalue
      exact Store.parameter_of_mem (hkept _ hp)

end methods

end Guac

/-- The engine's client writes the parameters of a connection that exists over when it is asked
to create it. -/
def GuacamoleServiceDeps.refreshes (deps : GuacamoleServiceDeps) : Bool :=
  decide (deps.engine ≠ .postgresql)

namespace GuacamoleServiceDeps

variable {deps : GuacamoleServiceDeps} {s s' : Store} {name host : String} {params : Params}

theorem updateConnectionParams_redirects (hmem : ("hostname", host) ∈ params)
    (hrun : deps.guacDb.updateConnectionParams name params s = some (.ok (), s')) :
    s.Redirects name host s' := by
  refine Guac.updateConnectionParams_redirects hmem ?_
  unfold guacDb at hrun
  split at hrun
  · exact hrun
  · exact hrun
  · exact hrun

theorem createConnection_redirects {protocol : String} {id : ℕ+} (hmem : ("hostname", host) ∈ params)
    (hrun : deps.guacDb.createConnection name protocol params s = some (.ok id, s')) :
    s.Redirects name host s' ∨ deps.refreshes = false ∧ s.connectionsNamed name ≠ [] ∧ s' = s := by
  have hpostgres : ∀ {s' : Store},
      GuacamolePostgresClient.createConnection name protocol params s = some (.ok id, s') →
      s.Redirects name host s' ∨ s.connectionsNamed name ≠ [] ∧ s' = s := by
    intro s' hrun
    cases hnamed : s.connectionsNamed name with
    | nil => exact .inl (Guac.createConnection_redirects hmem hnamed hrun)
    | cons row rest =>
        rw [createConnection_of_cons hnamed] at hrun
        cases hrun
        exact .inr ⟨nofun, rfl⟩
  have hmysql : GuacamoleMySqlClient.createConnection name protocol params s = some (.ok id, s') →
      s.Redirects name host s' := by
    intro hrun
    obtain ⟨s₁, hcreate, hupdate⟩ := createConnection_refreshes hrun
    have hlast := Guac.updateConnectionParams_redirects hmem hupdate
    rcases hpostgres hcreate with hfirst | ⟨-, rfl⟩
    · exact ⟨hlast.self, fun other hne => (hlast.named other hne).trans (hfirst.named other hne),
        fun other host' hne h => hlast.others other host' hne (hfirst.others other host' hne h)⟩
    · exact hlast
  obtain ⟨engine, sha256, encrypt, decrypt⟩ := deps
  cases engine with
  | postgresql =>
      rcases hpostgres hrun with h | ⟨hnamed, hsame⟩
      · exact .inl h
      · exact .inr ⟨rfl, hnamed, hsame⟩
  | mariadb => exact .inl (hmysql hrun)
  | mysql => exact .inl (hmysql hrun)

end GuacamoleServiceDeps

/-! ## The records -/

/-- A row of `guacamole_connections` with its hostname. -/
structure EndpointRow extends VmConnectionRow where
  id : Nat
  hostname : String
  deriving DecidableEq, Repr

/-- `guacamole_connections` and the Guacamole database. -/
structure Endpoints where
  connections : Table EndpointRow.id
  guac : Guac.Store

/-- A function of `GuacamoleService` on them. -/
abbrev EndpointProgram (α : Type) := Program AppError Endpoints α

def onGuac {α : Type} (m : Sql (Except GuacamoleDbError α)) : EndpointProgram α := fun s =>
  match m s.guac with
  | some (.ok a, guac) => (.ok a, { s with guac })
  | some (.error e, guac) => (.error (AppError.database e.message), { s with guac })
  | none => (.error (AppError.database "Guacamole database error"), s)

namespace Endpoints

def findConnectionRecord (s : Endpoints) (vmId : VmId) (protocol : Protocol) : Option EndpointRow :=
  s.connections.rows.find? fun c => decide (c.vmId = vmId) && decide (c.protocol = protocol)

def listConnectionRecords (s : Endpoints) (vmId : VmId) : List EndpointRow :=
  s.connections.rows.filter fun c => decide (c.vmId = vmId)

/-- `UPDATE guacamole_connections SET hostname = $2 WHERE id = $1`. -/
def setHostname (s : Endpoints) (id : Nat) (hostname : String) : Endpoints :=
  { s with
    connections := s.connections.updateWhere (fun c => decide (c.id = id))
      (fun c => { c with hostname }) fun _ => rfl }

def putConnectionRecord (s : Endpoints) (existing : Option EndpointRow) (row : EndpointRow) :
    Option Endpoints :=
  match existing with
  | some old => some { s with
      connections := s.connections.updateWhere (fun c => decide (c.id = old.id))
        (fun c => { row with id := c.id }) fun _ => rfl }
  | none => (s.connections.insert? row).map fun connections => { s with connections }

def Distinct (s : Endpoints) : Prop :=
  ∀ c ∈ s.connections, ∀ c' ∈ s.connections, c.vmId = c'.vmId → c.protocol = c'.protocol → c = c'

end Endpoints

def ConnectionInput.name (input : ConnectionInput) : String :=
  input.connectionName.getD ("proxvm-" ++ input.vmName)

/-- `connectionParamsFor`, of the input. -/
def ConnectionInput.params (input : ConnectionInput) (hostname : String) : Params :=
  connectionParamsFor
    { protocol := input.protocol, hostname, port := input.port, username := input.username
      password := input.password }

namespace GuacamoleServiceDeps

variable (deps : GuacamoleServiceDeps)

/-- `upsertConnection`, for a host that is known. -/
def upsertEndpoint (newId : Nat) (input : ConnectionInput) (hostname : String) :
    EndpointProgram String := do
  let _ ← onGuac
    (deps.guacDb.createConnection input.name input.protocol.text (input.params hostname))
  let existing ← query fun s => s.findConnectionRecord input.vmId input.protocol
  tryWrite
    (fun s => s.putConnectionRecord existing
      { vmId := input.vmId, protocol := input.protocol, guacConnectionName := input.name
        id := newId, hostname })
    (AppError.database "duplicate key value violates unique constraint")
  pure input.name

/-- `upsertConnection`.  Both databases refuse a hostname that is absent. -/
def upsertConnectionRecord (newId : Nat) (input : ConnectionInput) : EndpointProgram String :=
  match input.hostname with
  | none => fail (AppError.database "null value violates not-null constraint")
  | some hostname => deps.upsertEndpoint newId input hostname

/-- `{ hostname }`. -/
def hostnameParams (hostname : String) : Params := Table.mk [("hostname", hostname)] (by simp)

def redirectConnection (hostname : String) (record : EndpointRow) : EndpointProgram PUnit := do
  write fun s => s.setHostname record.id hostname
  onGuac (deps.guacDb.updateConnectionParams record.guacConnectionName (hostnameParams hostname))

def updateConnectionHostname (vmId : VmId) (hostname : String) : EndpointProgram Nat := do
  let records ← query fun s => s.listConnectionRecords vmId
  forM records (deps.redirectConnection hostname)
  pure records.length

end GuacamoleServiceDeps

/-! ## What the two functions leave -/

section rules

variable {deps : GuacamoleServiceDeps} {s s' : Endpoints} {vmId : VmId} {hostname : String}

theorem onSuccess_onGuac {α : Type} {m : Sql (Except GuacamoleDbError α)} {P : α → Endpoints → Prop} :
    onSuccess (onGuac m) P s ↔ ∀ a guac, m s.guac = some (.ok a, guac) → P a { s with guac } := by
  simp only [onSuccess_iff, exec, onGuac, ExceptT.run, StateT.run]
  cases hm : m s.guac with
  | none => simp
  | some r =>
      obtain ⟨r, guac⟩ := r
      cases r with
      | ok a => simp [Prod.ext_iff]
      | error e => simp

namespace Endpoints

variable {c : EndpointRow} {protocol : Protocol}

theorem mem_listConnectionRecords : c ∈ s.listConnectionRecords vmId ↔ c ∈ s.connections ∧ c.vmId = vmId := by
  simp only [listConnectionRecords, List.mem_filter, decide_eq_true_eq, Table.mem_def]

theorem findConnectionRecord_eq_some (hfind : s.findConnectionRecord vmId protocol = some c) :
    c ∈ s.connections ∧ c.vmId = vmId ∧ c.protocol = protocol := by
  have hpair := List.find?_some hfind
  simp only [Bool.and_eq_true, decide_eq_true_eq] at hpair
  exact ⟨List.mem_of_find?_eq_some hfind, hpair⟩

theorem findConnectionRecord_eq_none (hfind : s.findConnectionRecord vmId protocol = none) :
    ∀ c ∈ s.connections, ¬ (c.vmId = vmId ∧ c.protocol = protocol) := by
  intro c hc hpair
  have hnone := List.find?_eq_none.mp hfind c hc
  simp only [Bool.and_eq_true, decide_eq_true_eq] at hnone
  exact hnone hpair

structure Puts (row : EndpointRow) (s s' : Endpoints) : Prop where
  guac : s'.guac = s.guac
  distinct : s'.Distinct
  records : ∀ c' ∈ s'.connections,
    c'.toVmConnectionRow = row.toVmConnectionRow ∧ c'.hostname = row.hostname ∨
      c' ∈ s.connections ∧ ¬ (c'.vmId = row.vmId ∧ c'.protocol = row.protocol)

theorem putConnectionRecord_puts {row : EndpointRow} (hdistinct : s.Distinct)
    (hput : s.putConnectionRecord (s.findConnectionRecord row.vmId row.protocol) row = some s') :
    Puts row s s' := by
  cases hfind : s.findConnectionRecord row.vmId row.protocol with
  | none =>
      have hfresh := findConnectionRecord_eq_none hfind
      rw [hfind] at hput
      obtain ⟨connections, hins, rfl⟩ := Option.map_eq_some_iff.mp hput
      obtain ⟨-, hmem⟩ := Table.insert?_eq_some hins
      refine ⟨rfl, fun c hc c' hc' hvm hprotocol => ?_, fun c' hc' => ?_⟩
      · rcases (hmem c).mp hc with hold | rfl
        · rcases (hmem c').mp hc' with hold' | rfl
          · exact hdistinct c hold c' hold' hvm hprotocol
          · exact absurd ⟨hvm, hprotocol⟩ (hfresh c hold)
        · rcases (hmem c').mp hc' with hold' | rfl
          · exact absurd ⟨hvm.symm, hprotocol.symm⟩ (hfresh c' hold')
          · rfl
      · rcases (hmem c').mp hc' with hold | rfl
        · exact .inr ⟨hold, hfresh c' hold⟩
        · exact .inl ⟨rfl, rfl⟩
  | some old =>
      obtain ⟨hold, holdVm, holdProtocol⟩ := findConnectionRecord_eq_some hfind
      rw [hfind] at hput
      cases hput
      -- The update keeps the VM and the protocol of every record.
      have hpair : ∀ c ∈ s.connections, ∀ c', c' = (if decide (c.id = old.id) = true then
          { row with id := c.id } else c) →
          c'.vmId = c.vmId ∧ c'.protocol = c.protocol := by
        rintro c hc c' rfl
        split
        · next hid =>
            obtain rfl := Table.eq_of_key_eq hc hold (of_decide_eq_true hid)
            exact ⟨holdVm.symm, holdProtocol.symm⟩
        · exact ⟨rfl, rfl⟩
      refine ⟨rfl, fun c₁ hc₁ c₂ hc₂ hvm hprotocol => ?_, fun c' hc' => ?_⟩
      · simp only [Table.mem_updateWhere] at hc₁ hc₂
        obtain ⟨a₁, ha₁, heq₁⟩ := hc₁
        obtain ⟨a₂, ha₂, heq₂⟩ := hc₂
        obtain ⟨hvm₁, hprotocol₁⟩ := hpair a₁ ha₁ c₁ heq₁
        obtain ⟨hvm₂, hprotocol₂⟩ := hpair a₂ ha₂ c₂ heq₂
        have hsame : a₁ = a₂ := hdistinct a₁ ha₁ a₂ ha₂ (hvm₁.symm.trans (hvm.trans hvm₂))
          (hprotocol₁.symm.trans (hprotocol.trans hprotocol₂))
        rw [heq₁, heq₂, hsame]
      · simp only [Table.mem_updateWhere] at hc'
        obtain ⟨c, hc, rfl⟩ := hc'
        split
        · exact .inl ⟨rfl, rfl⟩
        · next hid =>
            refine .inr ⟨hc, fun hsame => hid (decide_eq_true ?_)⟩
            rw [hdistinct c hc old hold (hsame.1.trans holdVm.symm) (hsame.2.trans holdProtocol.symm)]

structure Upserts (deps : GuacamoleServiceDeps) (input : ConnectionInput) (hostname : String)
    (s s' : Endpoints) : Prop where
  distinct : s'.Distinct
  records : ∀ c' ∈ s'.connections,
    c'.vmId = input.vmId ∧ c'.protocol = input.protocol ∧ c'.guacConnectionName = input.name ∧
        c'.hostname = hostname ∨
      c' ∈ s.connections ∧ ¬ (c'.vmId = input.vmId ∧ c'.protocol = input.protocol)
  guac : s.guac.Redirects input.name hostname s'.guac ∨
    deps.refreshes = false ∧ s.guac.connectionsNamed input.name ≠ [] ∧ s'.guac = s.guac

structure Redirected (vmId : VmId) (hostname : String) (s s' : Endpoints) : Prop where
  records : ∀ c' ∈ s'.connections, ∃ c ∈ s.connections,
    c.toVmConnectionRow = c'.toVmConnectionRow ∧ c.id = c'.id ∧ (c.vmId ≠ vmId → c' = c)
  own : ∀ c' ∈ s'.connections, c'.vmId = vmId →
    c'.hostname = hostname ∧ s'.guac.endpoint c'.guacConnectionName = some hostname
  endpoints : ∀ name host, s.guac.endpoint name = some host →
    s'.guac.endpoint name = some host ∨ s'.guac.endpoint name = some hostname ∧
      ∃ c ∈ s.connections, c.vmId = vmId ∧ c.guacConnectionName = name

end Endpoints

namespace GuacamoleServiceDeps

theorem hostname_mem_connectionParamsFor (opts : GuacConnectionParams) :
    ("hostname", opts.hostname) ∈ connectionParamsFor opts := by
  unfold connectionParamsFor
  split <;> exact List.mem_cons_self

variable {newId : Nat} {input : ConnectionInput}

theorem onSuccess_upsertEndpoint (hdistinct : s.Distinct) :
    onSuccess (deps.upsertEndpoint newId input hostname)
      (fun _ s' => s.Upserts deps input hostname s') s := by
  simp only [upsertEndpoint, onSuccess_bind, onSuccess_query, onSuccess_tryWrite, onSuccess_pure,
    onSuccess_onGuac]
  intro id guac hcreate s' hput
  have hputs := @Endpoints.putConnectionRecord_puts { s with guac } s'
    ⟨⟨input.vmId, input.protocol, input.name⟩, newId, hostname⟩ hdistinct hput
  refine ⟨hputs.distinct, fun c' hc' => ?_, ?_⟩
  · rcases hputs.records c' hc' with ⟨hrow, hhost⟩ | hold
    · exact .inl ⟨congrArg VmConnectionRow.vmId hrow, congrArg VmConnectionRow.protocol hrow,
        congrArg VmConnectionRow.guacConnectionName hrow, hhost⟩
    · exact .inr hold
  · rw [hputs.guac]
    exact createConnection_redirects (hostname_mem_connectionParamsFor _) hcreate

theorem onSuccess_upsertConnectionRecord (hdistinct : s.Distinct) :
    onSuccess (deps.upsertConnectionRecord newId input)
      (fun _ s' => ∃ hostname, input.hostname = some hostname ∧ s.Upserts deps input hostname s') s := by
  unfold upsertConnectionRecord
  cases input.hostname with
  | none => exact onSuccess_fail
  | some hostname =>
      exact onSuccess_mono (onSuccess_upsertEndpoint hdistinct) fun _ _ h => ⟨hostname, rfl, h⟩

theorem onSuccess_redirectConnections {s₀ : Endpoints} :
    onSuccess (forM (s₀.listConnectionRecords vmId) (deps.redirectConnection hostname))
      (fun _ s' => s₀.Redirected vmId hostname s') s₀ := by
  let kept := fun s : Endpoints =>
    (∀ c' ∈ s.connections, ∃ c ∈ s₀.connections,
      c.toVmConnectionRow = c'.toVmConnectionRow ∧ c.id = c'.id ∧ (c.vmId ≠ vmId → c' = c)) ∧
    ∀ name host, s₀.guac.endpoint name = some host →
      s.guac.endpoint name = some host ∨ s.guac.endpoint name = some hostname ∧
        ∃ c ∈ s₀.connections, c.vmId = vmId ∧ c.guacConnectionName = name
  let done := fun (record : EndpointRow) (s : Endpoints) =>
    (∀ c ∈ s.connections, c.id = record.id → c.hostname = hostname) ∧
      s.guac.endpoint record.guacConnectionName = some hostname
  have hround : ∀ record ∈ s₀.listConnectionRecords vmId, ∀ s, kept s →
      onSuccess (deps.redirectConnection hostname record) (fun _ s' => kept s' ∧
        (∀ y, done y s → done y s') ∧ done record s') s := by
    intro record hrecord s ⟨hrecords, hendpoints⟩
    obtain ⟨hmem, hvm⟩ := Endpoints.mem_listConnectionRecords.mp hrecord
    simp only [redirectConnection, onSuccess_bind, onSuccess_write, onSuccess_onGuac]
    intro _ guac hupdate
    have hredirects := updateConnectionParams_redirects
      (List.mem_singleton_self ("hostname", hostname)) hupdate
    have hupdated : ∀ c' ∈ (s.setHostname record.id hostname).connections, ∃ c ∈ s.connections,
        c' = if decide (c.id = record.id) = true then { c with hostname } else c := by
      intro c' hc'
      simpa only [Endpoints.setHostname, Table.mem_updateWhere] using hc'
    refine ⟨⟨fun c' hc' => ?_, fun name host hendpoint => ?_⟩, fun y hy => ⟨fun c' hc' hid => ?_, ?_⟩,
      fun c' hc' hid => ?_, hredirects.self⟩
    · obtain ⟨c, hc, rfl⟩ := hupdated c' hc'
      obtain ⟨c₀, hc₀, hrow, hid, hother⟩ := hrecords c hc
      refine ⟨c₀, hc₀, ?_⟩
      split
      · next hown =>
          -- The record written is the one that the list was made of.
          have hsame : c₀ = record :=
            Table.eq_of_key_eq hc₀ hmem (hid.trans (of_decide_eq_true hown))
          exact ⟨hrow, hid, fun hne => absurd (hsame ▸ hvm) hne⟩
      · exact ⟨hrow, hid, hother⟩
    · by_cases hname : name = record.guacConnectionName
      · exact .inr ⟨hname ▸ hredirects.self, record, hmem, hvm, hname.symm⟩
      · rcases hendpoints name host hendpoint with hsame | ⟨hmoved, hown⟩
        · exact .inl (hredirects.others name host hname hsame)
        · exact .inr ⟨hredirects.others name hostname hname hmoved, hown⟩
    · obtain ⟨c, hc, rfl⟩ := hupdated c' hc'
      split at hid
      · next hown =>
          rw [if_pos hown]
      · next hown =>
          rw [if_neg hown]
          exact hy.1 c hc hid
    · by_cases hname : y.guacConnectionName = record.guacConnectionName
      · exact hname ▸ hredirects.self
      · exact hredirects.others _ _ hname hy.2
    · obtain ⟨c, hc, rfl⟩ := hupdated c' hc'
      split at hid
      · next hown => rw [if_pos hown]
      · next hown => exact absurd (decide_eq_true hid) hown
  refine onSuccess_mono (onSuccess_forM_each (I := kept) (D := done) hround
    ⟨fun c hc => ⟨c, hc, rfl, rfl, fun _ => rfl⟩, fun name host h => .inl h⟩) ?_
  rintro _ s' ⟨⟨hrecords, hendpoints⟩, -, hdone⟩
  refine ⟨hrecords, fun c' hc' hvm => ?_, hendpoints⟩
  obtain ⟨c, hc, hrow, hid, -⟩ := hrecords c' hc'
  have hlisted : c ∈ s₀.listConnectionRecords vmId :=
    Endpoints.mem_listConnectionRecords.mpr ⟨hc, (congrArg VmConnectionRow.vmId hrow).trans hvm⟩
  obtain ⟨hhost, hendpoint⟩ := hdone c hlisted
  exact ⟨hhost c' hc' hid.symm, congrArg VmConnectionRow.guacConnectionName hrow ▸ hendpoint⟩

end GuacamoleServiceDeps

end rules

end ProxVM
