import ProxVM.Guacamole.Endpoints

/-!
# What an upsert leaves

`upsertConnection` of `services/guacamole.ts` with all the columns it writes.  It asks the
client of the Guacamole database to create the connection and then writes the application's
row.  The first is keyed by the name, the second by VM and protocol, and neither is told what
the other found: a connection of the name that exists keeps its protocol on every engine, and on
PostgreSQL its parameters as well, while the row always gets the new values.
-/

namespace ProxVM

open Tables Fallible Guac

/-- `status` of a row. -/
inductive ConnectionTableStatus
  | pending
  | active
  | failed
  deriving DecidableEq, Repr

/-- A row of `guacamole_connections`. -/
structure ConnectionTableRow extends EndpointRow where
  port : Nat
  username : String
  passwordCiphertext : String
  keyId : String
  guacIdentifier : Option String
  status : ConnectionTableStatus
  deriving DecidableEq, Repr

def ConnectionTableRow.key (r : ConnectionTableRow) : Nat := r.id

/-- `guacamole_connections` and the Guacamole database. -/
structure Connections where
  rows : Table ConnectionTableRow.key
  guac : Guac.Store

def Connections.findConnectionRecord (s : Connections) (vmId : VmId) (protocol : Protocol) :
    Option ConnectionTableRow :=
  s.rows.rows.find? fun c => decide (c.vmId = vmId) && decide (c.protocol = protocol)

/-- `createConnection` of the client; what it throws is an error of the function. -/
def createOnGuac (m : Sql (Except GuacamoleDbError ℕ+)) : Program AppError Connections ℕ+ := fun s =>
  match m s.guac with
  | some (.ok a, guac) => (.ok a, { s with guac })
  | some (.error e, guac) => (.error (AppError.database e.message), { s with guac })
  | none => (.error (AppError.database "Guacamole database error"), s)

/-- The columns that the `UPDATE` and the `INSERT` write. -/
def GuacamoleServiceDeps.connectionRow (deps : GuacamoleServiceDeps) (input : ConnectionInput)
    (hostname : String) (guacConnectionId : ℕ+) (id : Nat) : ConnectionTableRow where
  vmId := input.vmId
  protocol := input.protocol
  guacConnectionName := input.name
  id := id
  hostname := hostname
  port := input.port
  username := input.username
  passwordCiphertext := deps.encrypt input.password
  keyId := keyIdOf (deps.encrypt input.password)
  guacIdentifier := some (toString guacConnectionId.val)
  status := .active

/-- `UPDATE guacamole_connections SET … WHERE id = $1`. -/
def Connections.updateRow (s : Connections) (id : Nat) (row : Nat → ConnectionTableRow)
    (hrow : ∀ n, (row n).key = n) : Connections :=
  { s with
    rows := s.rows.updateWhere (fun c => decide (c.key = id)) (fun c => row c.key)
      fun c => hrow c.key }

theorem GuacamoleServiceDeps.connectionRow_key (deps : GuacamoleServiceDeps) (input : ConnectionInput)
    (hostname : String) (guacConnectionId : ℕ+) (id : Nat) :
    (deps.connectionRow input hostname guacConnectionId id).key = id := rfl

/-- `upsertConnection`. -/
def GuacamoleServiceDeps.upsertConnectionRow (deps : GuacamoleServiceDeps) (newId : Nat)
    (input : ConnectionInput) (hostname : String) :
    Program AppError Connections (ConnectionTableRow × ℕ+) := do
  let guacConnectionId ← createOnGuac
    (deps.guacDb.createConnection input.name input.protocol.text (input.params hostname))
  let existing ← query fun s => s.findConnectionRecord input.vmId input.protocol
  match existing with
  | some old => do
    write fun s => s.updateRow old.key (deps.connectionRow input hostname guacConnectionId)
      (deps.connectionRow_key input hostname guacConnectionId)
    pure (deps.connectionRow input hostname guacConnectionId old.key, guacConnectionId)
  | none => do
    tryWrite
      (fun s => (s.rows.insert? (deps.connectionRow input hostname guacConnectionId newId)).map
        fun rows => { s with rows })
      (AppError.database "duplicate key value violates unique constraint")
    pure (deps.connectionRow input hostname guacConnectionId newId, guacConnectionId)

/-! ## The result -/

def ConnectionInput.target (input : ConnectionInput) (hostname : String) : List (String × String) :=
  [("hostname", hostname), ("port", toString input.port), ("username", input.username),
    ("password", input.password)]

def Guac.Store.Serves (s : Store) (name protocol : String) (params : List (String × String)) : Prop :=
  ∃ row, (s.connectionsNamed name).head? = some row ∧ row.protocol = protocol ∧
    ∀ e ∈ params, s.parameter row.connectionId e.1 = some e.2

def ConnectionTableRow.IsFor (c : ConnectionTableRow) (input : ConnectionInput) : Prop :=
  c.vmId = input.vmId ∧ c.protocol = input.protocol

def ConnectionTableRow.Records (c : ConnectionTableRow) (input : ConnectionInput) (hostname : String) :
    Prop :=
  c.hostname = hostname ∧ c.port = input.port ∧ c.guacConnectionName = input.name

structure Connections.Leaves (input : ConnectionInput) (hostname : String) (s : Connections) :
    Prop where
  guac : s.guac.Serves input.name input.protocol.text (input.target hostname)
  row : ∃ c ∈ s.rows, c.IsFor input
  rows : ∀ c ∈ s.rows, c.IsFor input → c.Records input hostname

structure Connections.Ready (deps : GuacamoleServiceDeps) (input : ConnectionInput)
    (hostname : String) (s : Connections) : Prop where
  /-- The name is free, or its connection has the protocol, and the engine refreshes the
  parameters unless they are the requested ones. -/
  guac : s.guac.connectionsNamed input.name = [] ∨
    ∃ row, (s.guac.connectionsNamed input.name).head? = some row ∧
      row.protocol = input.protocol.text ∧ (deps.refreshes = true ∨
        ∀ e ∈ input.target hostname, s.guac.parameter row.connectionId e.1 = some e.2)
  /-- A row of the VM and the protocol that is not the one found records the request. -/
  rows : ∀ c ∈ s.rows, c.IsFor input →
    s.findConnectionRecord input.vmId input.protocol = some c ∨ c.Records input hostname

/-! ## Guacamole's side -/

section guacamole

variable {deps : GuacamoleServiceDeps} {s s' : Guac.Store} {input : ConnectionInput}
variable {hostname : String} {id : ℕ+}

theorem ConnectionInput.mem_params_of_target {e : String × String} (he : e ∈ input.target hostname) :
    e ∈ input.params hostname := by
  simp only [target, List.mem_cons, List.not_mem_nil, or_false] at he
  unfold params connectionParamsFor
  cases input.protocol <;> rcases he with rfl | rfl | rfl | rfl <;>
    simp [Table.mem_def]

theorem serves_of_created (hnamed : s.connectionsNamed input.name = [])
    (hrun : GuacamolePostgresClient.createConnection input.name input.protocol.text
      (input.params hostname) s = some (.ok id, s')) :
    s'.Serves input.name input.protocol.text (input.target hostname) := by
  rw [createConnection_of_nil hnamed] at hrun
  obtain ⟨⟨id₁, s₁⟩, hins, hrun⟩ := Option.bind_eq_some_iff.mp hrun
  obtain ⟨⟨_, s₂⟩, hloop, heq⟩ := Option.bind_eq_some_iff.mp hrun
  simp only [Option.some.injEq, Prod.mk.injEq, Except.ok.injEq] at heq
  obtain ⟨rfl, rfl⟩ := heq
  have honly := parametersOnly_forM (fun e : String × String =>
    parametersOnly_insertParameter id₁ e.1 e.2) (input.params hostname).rows s₁ _ hloop
  refine ⟨⟨id₁, input.name, none, input.protocol.text⟩, ?_, rfl, fun e he => ?_⟩
  · rw [honly.connectionsNamed, insertConnection_eq_some hnamed hins]
    rfl
  · exact Store.parameter_of_mem
      ((mem_of_forM_insertParameter hloop).2 e (ConnectionInput.mem_params_of_target he))

theorem serves_of_refreshed {row : ConnectionRow} {rest : List ConnectionRow}
    (hnamed : s.connectionsNamed input.name = row :: rest)
    (hrun : GuacamoleMySqlClient.createConnection input.name input.protocol.text
      (input.params hostname) s = some (.ok id, s')) :
    s'.Serves input.name input.protocol.text (input.target hostname) ↔
      row.protocol = input.protocol.text := by
  rw [mySql_createConnection_of_cons hnamed] at hrun
  obtain ⟨⟨_, s₁⟩, hloop, heq⟩ := Option.bind_eq_some_iff.mp hrun
  simp only [Option.some.injEq, Prod.mk.injEq, Except.ok.injEq] at heq
  obtain ⟨rfl, rfl⟩ := heq
  have honly := parametersOnly_forM (fun e : String × String =>
    parametersOnly_upsertParameter row.connectionId e.1 e.2) (input.params hostname).rows s _ hloop
  have hhead : (s₁.connectionsNamed input.name).head? = some row := by
    rw [honly.connectionsNamed, hnamed]
    rfl
  constructor
  · rintro ⟨row', hrow', hprotocol, -⟩
    rw [hhead] at hrow'
    cases hrow'
    exact hprotocol
  · intro hprotocol
    refine ⟨row, hhead, hprotocol, fun e he => ?_⟩
    have hmem := ConnectionInput.mem_params_of_target he
    refine (parameter_forM_upsert (fun e' he' hname => ?_) hloop).2 (.inr ⟨e, hmem, rfl⟩)
    exact congrArg Prod.snd (Table.eq_of_key_eq he' hmem hname)

theorem serves_iff (hrun : deps.guacDb.createConnection input.name input.protocol.text
    (input.params hostname) s = some (.ok id, s')) :
    s'.Serves input.name input.protocol.text (input.target hostname) ↔
      s.connectionsNamed input.name = [] ∨ ∃ row, (s.connectionsNamed input.name).head? = some row ∧
          row.protocol = input.protocol.text ∧ (deps.refreshes = true ∨
            ∀ e ∈ input.target hostname, s.parameter row.connectionId e.1 = some e.2) := by
  cases hnamed : s.connectionsNamed input.name with
  | nil =>
      refine iff_of_true (@serves_of_created s s' input hostname id hnamed ?_) (.inl rfl)
      unfold GuacamoleServiceDeps.guacDb at hrun
      split at hrun
      · exact hrun
      · exact (mySql_createConnection_of_nil hnamed).symm.trans hrun
      · exact (mySql_createConnection_of_nil hnamed).symm.trans hrun
  | cons row rest =>
      simp only [List.head?_cons, Option.some.injEq, exists_eq_left', reduceCtorEq, false_or]
      obtain ⟨engine, sha256, encrypt, decrypt⟩ := deps
      cases engine with
      | postgresql =>
          -- the connection is left as it is
          change GuacamolePostgresClient.createConnection _ _ _ s = _ at hrun
          rw [createConnection_of_cons hnamed] at hrun
          cases hrun
          simp [Store.Serves, hnamed, GuacamoleServiceDeps.refreshes]
      | mariadb =>
          rw [serves_of_refreshed hnamed hrun]
          simp [GuacamoleServiceDeps.refreshes]
      | mysql =>
          rw [serves_of_refreshed hnamed hrun]
          simp [GuacamoleServiceDeps.refreshes]

end guacamole

/-! ## The table -/

section table

variable {deps : GuacamoleServiceDeps} {s s' : Connections} {input : ConnectionInput}
variable {hostname : String} {id : ℕ+} {newId : Nat}

theorem onSuccess_createOnGuac {m : Sql (Except GuacamoleDbError ℕ+)} {P : ℕ+ → Connections → Prop} :
    onSuccess (createOnGuac m) P s ↔ ∀ a guac, m s.guac = some (.ok a, guac) → P a { s with guac } := by
  simp only [onSuccess_iff, exec, createOnGuac, ExceptT.run, StateT.run]
  cases hm : m s.guac with
  | none => simp
  | some r =>
      obtain ⟨r, guac⟩ := r
      cases r with
      | ok a => simp [Prod.ext_iff]
      | error e => simp

theorem Connections.find_isFor {c : ConnectionTableRow}
    (hfind : s.findConnectionRecord input.vmId input.protocol = some c) : c ∈ s.rows ∧ c.IsFor input := by
  have hpair := List.find?_some hfind
  simp only [Bool.and_eq_true, decide_eq_true_eq] at hpair
  exact ⟨List.mem_of_find?_eq_some hfind, hpair⟩

theorem GuacamoleServiceDeps.connectionRow_isFor (n : Nat) :
    (deps.connectionRow input hostname id n).IsFor input ∧
      (deps.connectionRow input hostname id n).Records input hostname :=
  ⟨⟨rfl, rfl⟩, rfl, rfl, rfl⟩

theorem rows_of_update {old : ConnectionTableRow}
    (hfind : s.findConnectionRecord input.vmId input.protocol = some old)
    (hs' : s' = s.updateRow old.key (deps.connectionRow input hostname id)
      (deps.connectionRow_key input hostname id)) :
    ((∃ c ∈ s'.rows, c.IsFor input) ∧ ∀ c ∈ s'.rows, c.IsFor input → c.Records input hostname) ↔
      ∀ c ∈ s.rows, c.IsFor input →
        s.findConnectionRecord input.vmId input.protocol = some c ∨ c.Records input hostname := by
  obtain ⟨hold, -⟩ := Connections.find_isFor hfind
  have hmem : ∀ c', c' ∈ s'.rows ↔ ∃ c ∈ s.rows,
      c' = if decide (c.key = old.key) = true then deps.connectionRow input hostname id c.key else c := by
    intro c'
    rw [hs', Connections.updateRow, Table.mem_updateWhere]
  have hupdated : deps.connectionRow input hostname id old.key ∈ s'.rows :=
    (hmem _).mpr ⟨old, hold, by simp⟩
  constructor
  · rintro ⟨-, hall⟩ c hc hfor
    by_cases hid : c.key = old.key
    · rw [Table.eq_of_key_eq hc hold hid]
      exact .inl hfind
    · exact .inr (hall c ((hmem c).mpr ⟨c, hc, by simp [hid]⟩) hfor)
  · intro hready
    refine ⟨⟨_, hupdated, (deps.connectionRow_isFor old.key).1⟩, fun c' hc' hfor => ?_⟩
    obtain ⟨c, hc, rfl⟩ := (hmem c').mp hc'
    by_cases hid : c.key = old.key
    · rw [if_pos (decide_eq_true hid)]
      exact (deps.connectionRow_isFor c.key).2
    · rw [if_neg (by simpa using hid)] at hfor ⊢
      -- another row of the pair was not the one found
      rcases hready c hc hfor with hfound | hrecords
      · rw [hfind] at hfound
        cases hfound
        exact absurd rfl hid
      · exact hrecords

theorem rows_of_insert {rows : Table ConnectionTableRow.key}
    (hfind : s.findConnectionRecord input.vmId input.protocol = none)
    (hins : s.rows.insert? (deps.connectionRow input hostname id newId) = some rows) :
    ((∃ c ∈ rows, c.IsFor input) ∧ ∀ c ∈ rows, c.IsFor input → c.Records input hostname) ↔
      ∀ c ∈ s.rows, c.IsFor input →
        s.findConnectionRecord input.vmId input.protocol = some c ∨ c.Records input hostname := by
  have hfresh : ∀ c ∈ s.rows, ¬ c.IsFor input := by
    intro c hc hfor
    have hnone := List.find?_eq_none.mp hfind c hc
    simp only [Bool.and_eq_true, decide_eq_true_eq] at hnone
    exact hnone hfor
  obtain ⟨-, hmem⟩ := Table.insert?_eq_some hins
  refine iff_of_true ⟨⟨_, (hmem _).mpr (.inr rfl), (deps.connectionRow_isFor newId).1⟩, ?_⟩
    fun c hc hfor => absurd hfor (hfresh c hc)
  intro c hc hfor
  rcases (hmem c).mp hc with hold | rfl
  · exact absurd hfor (hfresh c hold)
  · exact (deps.connectionRow_isFor newId).2

/-- **An upsert leaves the requested connection exactly when it was ready for it.**  For every
contents of both databases and every request: after a successful `upsertConnection` the
connection of the name and the row of the VM and the protocol are as requested if and only if
`Ready` held before. -/
theorem upsertConnection_leaves_iff (deps : GuacamoleServiceDeps) (newId : Nat)
    (input : ConnectionInput) (hostname : String) (s : Connections) :
    onSuccess (deps.upsertConnectionRow newId input hostname)
      (fun _ s' => s'.Leaves input hostname ↔ s.Ready deps input hostname) s := by
  simp only [GuacamoleServiceDeps.upsertConnectionRow, onSuccess_bind, onSuccess_query,
    onSuccess_createOnGuac]
  intro id guac hcreate
  have hguac := serves_iff hcreate
  cases hfind : s.findConnectionRecord input.vmId input.protocol with
  | some old =>
      have hfind' : ({ s with guac } : Connections).findConnectionRecord input.vmId input.protocol =
          some old := hfind
      simp only [hfind', onSuccess_bind, onSuccess_write, onSuccess_pure]
      have hrows := rows_of_update hfind (Eq.refl (s.updateRow old.key
        (deps.connectionRow input hostname id) (deps.connectionRow_key input hostname id)))
      exact ⟨fun h => ⟨hguac.mp h.guac, hrows.mp ⟨h.row, h.rows⟩⟩,
        fun h => ⟨hguac.mpr h.guac, (hrows.mpr h.rows).1, (hrows.mpr h.rows).2⟩⟩
  | none =>
      have hfind' : ({ s with guac } : Connections).findConnectionRecord input.vmId input.protocol =
          none := hfind
      simp only [hfind', onSuccess_bind, onSuccess_tryWrite, onSuccess_pure]
      intro s' hput
      obtain ⟨rows, hins, rfl⟩ := Option.map_eq_some_iff.mp hput
      have hrows := rows_of_insert hfind hins
      exact ⟨fun h => ⟨hguac.mp h.guac, hrows.mp ⟨h.row, h.rows⟩⟩,
        fun h => ⟨hguac.mpr h.guac, (hrows.mpr h.rows).1, (hrows.mpr h.rows).2⟩⟩

/-- A request for SSH on VM 30, under the name `proxvm-web`. -/
def ConnectionInput.web : ConnectionInput where
  vmId := 30
  vmName := "web"
  protocol := .ssh
  hostname := some "10.0.0.9"
  port := 22
  username := "root"
  password := "pw"
  connectionName := none

def Connections.reprovisioned : Connections where
  rows := Table.empty
  guac :=
    { Store.empty with
      connections := ⟨[⟨Nat.succPNat 0, "proxvm-web", none, "ssh"⟩], by decide⟩
      connectionParameters :=
        ⟨[⟨Nat.succPNat 0, "hostname", "10.0.0.5"⟩, ⟨Nat.succPNat 0, "port", "22"⟩], by decide⟩
      lastConnectionId := 1 }

def GuacamoleServiceDeps.onPostgres : GuacamoleServiceDeps where
  engine := .postgresql
  sha256 := fun text => text
  encrypt := fun text => text
  decrypt := some

/-- The upsert succeeds and the row records the new address; the connection leads to the old one. -/
theorem upsertConnection_stale : (exec (GuacamoleServiceDeps.onPostgres.upsertConnectionRow 7 .web "10.0.0.9")
        .reprovisioned).1.toOption.isSome = true ∧
      (exec (GuacamoleServiceDeps.onPostgres.upsertConnectionRow 7 .web "10.0.0.9")
        .reprovisioned).2.guac.endpoint "proxvm-web" = some "10.0.0.5" ∧
      ¬ (exec (GuacamoleServiceDeps.onPostgres.upsertConnectionRow 7 .web "10.0.0.9")
        .reprovisioned).2.Leaves .web "10.0.0.9" := by
  have hstale : (exec (GuacamoleServiceDeps.onPostgres.upsertConnectionRow 7 .web "10.0.0.9")
      .reprovisioned).2.guac.endpoint "proxvm-web" = some "10.0.0.5" := by decide
  refine ⟨by decide, hstale, fun hleaves => ?_⟩
  obtain ⟨row, hhead, -, hparams⟩ := hleaves.guac
  have hmoved := Store.endpoint_eq_some.mpr
    ⟨row, hhead, hparams ("hostname", "10.0.0.9") List.mem_cons_self⟩
  change Store.endpoint _ "proxvm-web" = _ at hmoved
  rw [hstale] at hmoved
  exact absurd hmoved (by decide)

end table

/-! ## The address alone -/

theorem Connections.endpoints_nodup (s : Connections) :
    ((s.rows.rows.map ConnectionTableRow.toEndpointRow).map EndpointRow.id).Nodup := by
  rw [List.map_map]
  exact s.rows.nodup

def Connections.endpoints (s : Connections) : Endpoints where
  connections := ⟨s.rows.rows.map ConnectionTableRow.toEndpointRow, s.endpoints_nodup⟩
  guac := s.guac

end ProxVM
