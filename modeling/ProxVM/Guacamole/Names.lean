import ProxVM.Guacamole.Consoles
import ProxVM.Guacamole.Users
import ProxVM.Provisioning.GuestConfig
import ProxVM.Routes.VmAccess

/-!
# The names of the connections

A Guacamole connection is addressed by name: `proxvm-<vm>`, or `proxvm-<vm>-<protocol>` for a
VM with several protocols.  The name of a VM is not unique, and it may end like the name of a
protocol.
-/

namespace ProxVM

open Tables Fallible Guac

/-! ## Provisioning -/

structure GuacConnectionParams where
  protocol : Protocol
  hostname : String
  port : Nat
  username : String
  password : String
  deriving DecidableEq, Repr

def connectionParamsFor (opts : GuacConnectionParams) : Params :=
  match opts.protocol with
  | .ssh =>
      Table.mk
        [("hostname", opts.hostname), ("port", toString opts.port), ("username", opts.username),
          ("password", opts.password), ("color-scheme", "gray-black"), ("font-name", "monospace"),
          ("font-size", "12")] (by simp)
  | .rdp =>
      Table.mk
        [("hostname", opts.hostname), ("port", toString opts.port), ("username", opts.username),
          ("password", opts.password), ("security", "any"), ("ignore-cert", "true"),
          ("disable-auth", "false")] (by simp)
  | .vnc =>
      Table.mk
        [("hostname", opts.hostname), ("port", toString opts.port), ("username", opts.username),
          ("password", opts.password)] (by simp)

namespace GuacWorld

def findConnectionRecord (w : GuacWorld) (vmId : VmId) (protocol : Option Protocol) :
    Option VmConnectionRow :=
  w.connections.find? fun c => decide (c.vmId = vmId) && protocol.all fun p => decide (c.protocol = p)

def putConnectionRecord (w : GuacWorld) (existing : Option VmConnectionRow)
    (record : VmConnectionRow) : GuacWorld :=
  match existing with
  | some row => { w with connections := w.connections.map fun c => if c = row then record else c }
  | none => { w with connections := w.connections ++ [record] }

end GuacWorld

namespace GuacamoleServiceDeps

variable (deps : GuacamoleServiceDeps)

def upsertConnection (vmId : VmId) (vmName : String) (opts : GuacConnectionParams)
    (connectionName : Option String) : GuacProgram (VmConnectionRow × ℕ+) := do
  let name := connectionName.getD ("proxvm-" ++ vmName)
  let created ← sql (deps.guacDb.createConnection name opts.protocol.text (connectionParamsFor opts))
  let guacConnectionId ← match created with
    | .ok id => pure id
    | .error e => fail (AppError.database e.message)
  let existing ← query fun w => w.findConnectionRecord vmId (some opts.protocol)
  let record : VmConnectionRow := ⟨vmId, opts.protocol, name⟩
  write fun w => w.putConnectionRecord existing record
  pure (record, guacConnectionId)

def createConnections (vmId : VmId) (protocols : List Protocol)
    (hostname username password : String) : GuacProgram Unit := do
  let found ← query fun w => findVmById w.db vmId
  let vm ← orFail found (AppError.notFound "VM not found")
  forM protocols fun protocol => do
    let _ ← deps.upsertConnection vm.id vm.name
      { protocol, hostname, port := portForProtocol protocol, username, password }
      (if 1 < protocols.length then some ("proxvm-" ++ vm.name ++ "-" ++ protocol.text) else none)
    pure ()

/-- The part of `launch` before Guacamole is asked for a token: the name it then looks the
connection up by. -/
def launchName (vmId : VmId) (userId : UserId) (protocol : Option Protocol) :
    GuacProgram String := do
  let found ← query fun w => w.findConnectionRecord vmId protocol
  let connection ← orFail found
    (AppError.notFound "No Guacamole connection exists for this VM")
  let foundUser ← query fun w => w.findUserRecord userId
  let user ← orFail foundUser (AppError.validation "You do not have a Guacamole account yet")
  let _ ← orFail (deps.decrypt user.passwordCiphertext) (AppError.database "decrypt failed")
  pure connection.guacConnectionName

end GuacamoleServiceDeps

/-! ## Sources -/

/-- What a record was last provisioned from: the name the VM had, the protocol, and whether
the request had several protocols. -/
structure ConnectionSource where
  vmName : String
  protocol : Protocol
  multi : Bool
  deriving DecidableEq, Repr

namespace ConnectionSource

def connectionName (source : ConnectionSource) : Option String :=
  if source.multi then some ("proxvm-" ++ source.vmName ++ "-" ++ source.protocol.text) else none

def name (source : ConnectionSource) : String :=
  source.connectionName.getD ("proxvm-" ++ source.vmName)

/-- Equal VM names, with equal protocols where the name has one, or a VM whose own name ends
like that of a connection with a protocol. -/
def Collides (source source' : ConnectionSource) : Prop :=
  match source.multi, source'.multi with
  | false, false => source.vmName = source'.vmName
  | true, true => source.vmName = source'.vmName ∧ source.protocol = source'.protocol
  | false, true => source.vmName = source'.vmName ++ "-" ++ source'.protocol.text
  | true, false => source'.vmName = source.vmName ++ "-" ++ source.protocol.text

end ConnectionSource

theorem Protocol.length_text (p : Protocol) : p.text.toList.length = 3 := by
  cases p with
  | ssh => rfl
  | rdp => rfl
  | vnc => rfl

theorem Protocol.text_injective : Function.Injective Protocol.text := by
  intro p q heq
  cases p <;> cases q <;> first | rfl | exact absurd heq (by decide)

theorem append_text_inj {vmName vmName' : String} {p q : Protocol} :
    vmName ++ "-" ++ p.text = vmName' ++ "-" ++ q.text ↔ vmName = vmName' ∧ p = q := by
  constructor
  · intro heq
    have hlists := congrArg String.toList heq
    simp only [String.toList_append] at hlists
    have hlength : p.text.toList.length = q.text.toList.length :=
      p.length_text.trans q.length_text.symm
    obtain ⟨hfront, htext⟩ := List.append_inj' hlists hlength
    exact ⟨String.toList_inj.mp (List.append_cancel_right hfront),
      Protocol.text_injective (String.toList_inj.mp htext)⟩
  · rintro ⟨rfl, rfl⟩
    rfl

theorem ConnectionSource.name_eq_iff {source source' : ConnectionSource} :
    source.name = source'.name ↔ source.Collides source' := by
  obtain ⟨vmName, protocol, multi⟩ := source
  obtain ⟨vmName', protocol', multi'⟩ := source'
  cases multi <;> cases multi' <;>
    simp only [name, connectionName, Collides, Option.getD_some, Option.getD_none, if_true,
      Bool.false_eq_true, if_false, String.append_assoc, String.append_right_inj]
  · exact eq_comm
  · rw [← String.append_assoc, ← String.append_assoc]
    exact append_text_inj

/-! ## Records -/

def pairOf (c : VmConnectionRow) : VmId × Protocol := (c.vmId, c.protocol)

section records

variable {w : GuacWorld} {record : VmConnectionRow}

theorem GuacWorld.findConnectionRecord_some {vmId : VmId} {protocol : Protocol}
    (hfind : w.findConnectionRecord vmId (some protocol) = some record) :
    record ∈ w.connections ∧ pairOf record = (vmId, protocol) := by
  have hpair := List.find?_some hfind
  simp only [Option.all_some, Bool.and_eq_true, decide_eq_true_eq] at hpair
  exact ⟨List.mem_of_find?_eq_some hfind, Prod.ext hpair.1 hpair.2⟩

theorem GuacWorld.findConnectionRecord_none {vmId : VmId} {protocol : Protocol}
    (hfind : w.findConnectionRecord vmId (some protocol) = none) :
    ∀ c ∈ w.connections, pairOf c ≠ (vmId, protocol) := by
  intro c hc hpair
  have hnone := List.find?_eq_none.mp hfind c hc
  simp only [Option.all_some, Bool.and_eq_true, decide_eq_true_eq] at hnone
  exact hnone (Prod.ext_iff.mp hpair)

theorem GuacWorld.putConnectionRecord_spec (hnodup : (w.connections.map pairOf).Nodup) :
    ((w.putConnectionRecord (w.findConnectionRecord record.vmId (some record.protocol))
      record).connections.map pairOf).Nodup ∧
    ∀ c ∈ (w.putConnectionRecord (w.findConnectionRecord record.vmId (some record.protocol))
      record).connections, c = record ∨ c ∈ w.connections ∧ pairOf c ≠ pairOf record := by
  cases hfind : w.findConnectionRecord record.vmId (some record.protocol) with
  | none =>
      have hfresh := findConnectionRecord_none hfind
      simp only [putConnectionRecord, List.map_append, List.map_cons, List.map_nil,
        List.nodup_append, List.mem_append, List.mem_singleton]
      refine ⟨⟨hnodup, List.nodup_singleton _, ?_⟩, ?_⟩
      · rintro _ hmem _ rfl heq
        obtain ⟨c, hc, rfl⟩ := List.mem_map.mp hmem
        exact hfresh c hc heq
      · rintro c (hc | rfl)
        · exact .inr ⟨hc, hfresh c hc⟩
        · exact .inl rfl
  | some row =>
      obtain ⟨hrow, hpair⟩ := findConnectionRecord_some hfind
      have hpairs : ∀ c, pairOf (if c = row then record else c) = pairOf c := by
        intro c
        split
        · next hc => rw [hc, hpair, pairOf]
        · rfl
      refine ⟨?_, fun c hc => ?_⟩
      · rw [putConnectionRecord, List.map_map]
        exact (List.map_congr_left fun c _ => hpairs c).symm ▸ hnodup
      · obtain ⟨c₀, hc₀, rfl⟩ := List.mem_map.mp hc
        split
        · exact .inl rfl
        · next hne =>
            refine .inr ⟨hc₀, fun hsame => hne ?_⟩
            exact List.inj_on_of_nodup_map hnodup hc₀ hrow (hsame.trans hpair.symm)

end records

/-! ## Histories -/

abbrev Sources := VmId × Protocol → Option ConnectionSource

/-- The states that provisioning reaches, and what each record was last provisioned from.
Everything else that happens deletes records at most; VMs, users and the tables of Guacamole
change at will. -/
inductive ConnectionHistory (deps : GuacamoleServiceDeps) : GuacWorld → Sources → Prop
  | start {w : GuacWorld} (hnone : w.connections = []) : ConnectionHistory deps w fun _ => none
  | upsert {w w' : GuacWorld} {sources : Sources} (hist : ConnectionHistory deps w sources) (vmId : VmId)
      (vmName : String) (opts : GuacConnectionParams) (multi : Bool)
      {created : VmConnectionRow × ℕ+}
      (hrun : exec (deps.upsertConnection vmId vmName opts
        (ConnectionSource.connectionName ⟨vmName, opts.protocol, multi⟩)) w = (.ok created, w')) :
      ConnectionHistory deps w'
        (Function.update sources (vmId, opts.protocol) (some ⟨vmName, opts.protocol, multi⟩))
  | elsewhere {w w' : GuacWorld} {sources : Sources} (hist : ConnectionHistory deps w sources)
      (hrecords : w'.connections.Sublist w.connections) : ConnectionHistory deps w' sources

structure Named (w : GuacWorld) (sources : Sources) : Prop where
  distinct : (w.connections.map pairOf).Nodup
  named : ∀ c ∈ w.connections, ∃ source, sources (pairOf c) = some source ∧
    c.guacConnectionName = source.name

section history

variable {deps : GuacamoleServiceDeps} {w w' : GuacWorld} {sources : Sources}

theorem after_upsertConnection (vmId : VmId) (vmName : String) (opts : GuacConnectionParams)
    (connectionName : Option String) :
    after (deps.upsertConnection vmId vmName opts connectionName) (fun r w' =>
      (∀ created, r = .ok created → w'.connections = (w.putConnectionRecord
        (w.findConnectionRecord vmId (some opts.protocol))
        ⟨vmId, opts.protocol, connectionName.getD ("proxvm-" ++ vmName)⟩).connections) ∧
      ∀ e, r = .error e → w'.connections = w.connections) w := by
  simp only [GuacamoleServiceDeps.upsertConnection, after_bind, after_sql]
  refine ⟨fun created guac _ => ?_, fun _ => ⟨(fun _ hok => by cases hok), fun _ _ => trivial⟩⟩
  cases created with
  | error e => exact ⟨(fun _ hok => by cases hok), fun _ _ => rfl⟩
  | ok id =>
      simp only [after_bind, after_pure, after_query, after_write]
      refine ⟨fun _ _ => ?_, fun _ hfails => by cases hfails⟩
      unfold GuacWorld.putConnectionRecord GuacWorld.findConnectionRecord
      cases List.find? _ w.connections with
      | none => rfl
      | some row => rfl

theorem Named.upsert (hnamed : Named w sources) {source : ConnectionSource} {record : VmConnectionRow}
    (hname : record.guacConnectionName = source.name) (hrecords : w'.connections = (w.putConnectionRecord
      (w.findConnectionRecord record.vmId (some record.protocol)) record).connections) :
    Named w' (Function.update sources (pairOf record) (some source)) := by
  obtain ⟨hdistinct, hcases⟩ := @GuacWorld.putConnectionRecord_spec w record hnamed.distinct
  rw [← hrecords] at hdistinct hcases
  refine ⟨hdistinct, fun c hc => ?_⟩
  rcases hcases c hc with rfl | ⟨hold, hne⟩
  · exact ⟨source, Function.update_self _ _ _, hname⟩
  · obtain ⟨source₀, hsource₀, hname₀⟩ := hnamed.named c hold
    exact ⟨source₀, (Function.update_of_ne hne _ _).trans hsource₀, hname₀⟩

theorem Named.sublist (hnamed : Named w sources) (hrecords : w'.connections.Sublist w.connections) :
    Named w' sources :=
  ⟨hnamed.distinct.sublist (hrecords.map pairOf), fun c hc => hnamed.named c (hrecords.subset hc)⟩

theorem ConnectionHistory.named (hist : ConnectionHistory deps w sources) : Named w sources := by
  induction hist with
  | start hnone =>
      refine ⟨?_, fun c hc => ?_⟩
      · rw [hnone]
        exact List.nodup_nil
      · rw [hnone] at hc
        exact absurd hc List.not_mem_nil
  | @upsert w w' sources _ vmId vmName opts multi created hrun ih =>
      have hafter := @after_upsertConnection deps w vmId vmName opts
        (ConnectionSource.connectionName ⟨vmName, opts.protocol, multi⟩)
      rw [after, hrun] at hafter
      exact @Named.upsert w w' sources ih _ ⟨vmId, opts.protocol, _⟩ rfl (hafter.1 created rfl)
  | elsewhere _ hrecords ih => exact ih.sublist hrecords

end history

/-! ## Access to a VM -/

/-- A user is granted access to a VM, loses it, or opens a session; the first two are what
the routes for assignments do, the third the one for launches. -/
inductive AccessAction
  | grant (draw : Draw) (vmId : VmId) (userId : UserId) (appUsername : String)
  | revoke (vmId : VmId) (userId : UserId)
  | launch (draw : Draw) (vmId : VmId) (userId : UserId) (appUsername : String)
      (protocol : Option Protocol)

namespace AccessAction

def vmId : AccessAction → VmId
  | grant _ vmId _ _ => vmId
  | revoke vmId _ => vmId
  | launch _ vmId _ _ _ => vmId

def run (deps : GuacamoleServiceDeps) : AccessAction → GuacProgram (Option String)
  | grant draw vmId userId appUsername => do
    let _ ← deps.ensureGuacUser draw userId appUsername
    deps.grantVmAccess vmId userId
    pure none
  | revoke vmId userId => do
    deps.revokeVmAccess vmId userId
    pure none
  | launch draw vmId userId appUsername protocol => do
    let _ ← deps.ensureGuacUser draw userId appUsername
    deps.grantVmAccess vmId userId
    let name ← deps.launchName vmId userId protocol
    pure (some name)

end AccessAction

structure Untouched (name : String) (w w' : GuacWorld) : Prop where
  connections : w'.connections = w.connections
  console : w'.guac.console name = w.guac.console name

section untouched

variable {deps : GuacamoleServiceDeps} {name : String} {vmId : VmId} {w w' w'' : GuacWorld}

theorem Untouched.refl (w : GuacWorld) : Untouched name w w := ⟨rfl, rfl⟩

theorem Untouched.trans (h : Untouched name w w') (h' : Untouched name w' w'') : Untouched name w w'' :=
  ⟨h'.connections.trans h.connections, h'.console.trans h.console⟩

theorem GuacamoleServiceDeps.guacDb_aside (deps : GuacamoleServiceDeps) : Aside deps.guacDb := by
  unfold guacDb
  split
  · exact postgresClient_aside
  · exact mySqlClient_aside
  · exact mySqlClient_aside

theorem after_sql_untouched {α : Type} {m : Sql α} (hm : KeepsConsole name m)
    (h : Untouched name w w') : after (sql m) (fun _ w'' => Untouched name w w'') w' := by
  rw [after_sql]
  exact ⟨fun a guac hrun => h.trans ⟨rfl, hm w'.guac (a, guac) hrun⟩, fun _ => h⟩

theorem ensureGuacUser_untouched (draw : Draw) (userId : UserId) (appUsername : String) :
    after (deps.ensureGuacUser draw userId appUsername) (fun _ w' => Untouched name w w') w := by
  have hrest : ∀ password w₁, Untouched name w w₁ → after (do
      let _ ← sql (deps.guacDb.createUser (guacUsernameOf appUsername) password draw.createSalt)
      sql (deps.guacDb.setUserPassword (guacUsernameOf appUsername) password draw.setSalt)
      sql (deps.guacDb.grantRootGroupRead (guacUsernameOf appUsername))
      tryWrite (fun w => w.upsertGuacUser userId (guacUsernameOf appUsername) (deps.encrypt password))
        (AppError.database "duplicate key value violates unique constraint")
      let row ← query fun w => w.findUserRecord userId
      orFail row (AppError.database "no row returned") : GuacProgram GuacamoleUserRow)
      (fun _ w' => Untouched name w w') w₁ := by
    intro password w₁ h₁
    refine after_bind_keep (after_sql_untouched (deps.guacDb_aside.createUser _ _ _) h₁)
      fun _ w₂ h₂ => ?_
    refine after_bind_keep (after_sql_untouched (deps.guacDb_aside.setUserPassword _ _ _) h₂)
      fun _ w₃ h₃ => ?_
    refine after_bind_keep (after_sql_untouched (deps.guacDb_aside.grantRootGroupRead _) h₃)
      fun _ w₄ h₄ => ?_
    refine after_bind_keep (after_tryWrite.mpr ⟨fun w₅ hput => ?_, fun _ => h₄⟩) fun _ w₅ h₅ => ?_
    · unfold GuacWorld.upsertGuacUser at hput
      split at hput
      · cases hput
        exact h₄.trans ⟨rfl, rfl⟩
      · cases hput
    · refine after_bind_keep h₅ fun row w₆ h₆ => ?_
      exact after_orFail.mpr ⟨fun _ _ => h₆, fun _ => h₆⟩
  simp only [GuacamoleServiceDeps.ensureGuacUser, after_bind, after_query]
  cases w.findUserRecord userId with
  | none => exact hrest draw.password w (Untouched.refl w)
  | some row =>
      refine after_bind_keep ?_ hrest
      exact after_orFail.mpr ⟨fun _ _ => Untouched.refl w, fun _ => Untouched.refl w⟩

theorem forConnections_untouched {f : String → Sql Unit} {connections : List VmConnectionRow}
    (hapart : ∀ c ∈ connections, c.guacConnectionName ≠ name)
    (hf : ∀ {connectionName}, connectionName ≠ name → KeepsConsole name (f connectionName))
    (h : Untouched name w w') :
    after (forM connections fun c => sql (f c.guacConnectionName) : GuacProgram PUnit)
      (fun _ w'' => Untouched name w w'') w' :=
  after_forM (fun c hc _ h₁ => after_sql_untouched (hf (hapart c hc)) h₁) h

def GuacWorld.Apart (w : GuacWorld) (vmId : VmId) (name : String) : Prop :=
  ∀ c ∈ w.connections, c.vmId = vmId → c.guacConnectionName ≠ name

theorem GuacWorld.Apart.listed (hapart : w.Apart vmId name) (h : Untouched name w w') :
    ∀ c ∈ w'.listConnectionRecords vmId, c.guacConnectionName ≠ name := by
  intro c hc
  obtain ⟨hmem, hvm⟩ := List.mem_filter.mp hc
  exact hapart c (h.connections ▸ hmem) (of_decide_eq_true hvm)

theorem grantVmAccess_untouched (hapart : w.Apart vmId name) (h : Untouched name w w') (userId : UserId) :
    after (deps.grantVmAccess vmId userId) (fun _ w'' => Untouched name w w'') w' := by
  simp only [GuacamoleServiceDeps.grantVmAccess, after_bind, after_query]
  cases w'.findUserRecord userId with
  | none => exact h
  | some record =>
      exact forConnections_untouched (hapart.listed h)
        (fun hne => deps.guacDb_aside.grantConnectionRead hne record.guacUsername) h

theorem revokeVmAccess_untouched (hapart : w.Apart vmId name) (userId : UserId) :
    after (deps.revokeVmAccess vmId userId) (fun _ w' => Untouched name w w') w := by
  simp only [GuacamoleServiceDeps.revokeVmAccess, after_bind, after_query]
  cases w.findUserRecord userId with
  | none => exact Untouched.refl w
  | some record =>
      exact forConnections_untouched (hapart.listed (Untouched.refl w))
        (fun hne => deps.guacDb_aside.revokeConnectionAccess hne record.guacUsername)
        (Untouched.refl w)

theorem launchName_untouched (hapart : w.Apart vmId name) (h : Untouched name w w')
    (userId : UserId) (protocol : Option Protocol) :
    after (deps.launchName vmId userId protocol) (fun r w'' => Untouched name w w'' ∧
      ∀ opened, r = .ok opened → opened ≠ name) w' := by
  simp only [GuacamoleServiceDeps.launchName, after_bind, after_query, after_orFail, after_pure]
  have hfailed : ∀ e : AppError, Untouched name w w' ∧
      ∀ opened, (Except.error e : Except AppError String) = .ok opened → opened ≠ name :=
    fun e => ⟨h, fun opened hok => by cases hok⟩
  refine ⟨fun c hfind => ⟨fun user _ => ⟨fun _ _ => ⟨h, ?_⟩, fun _ => hfailed _⟩,
    fun _ => hfailed _⟩, fun _ => hfailed _⟩
  rintro opened ⟨⟩
  have hvm := List.find?_some hfind
  rw [Bool.and_eq_true] at hvm
  exact hapart c (h.connections ▸ List.mem_of_find?_eq_some hfind) (of_decide_eq_true hvm.1)

theorem AccessAction.run_untouched (action : AccessAction) (hapart : w.Apart action.vmId name) :
    after (action.run deps) (fun r w' => Untouched name w w' ∧
      ∀ opened, r = .ok (some opened) → opened ≠ name) w := by
  cases action with
  | grant draw vmId userId appUsername =>
      refine after_bind_of (ensureGuacUser_untouched draw userId appUsername)
        (fun _ _ h => ⟨h, nofun⟩) fun _ w₁ h₁ => ?_
      exact after_bind_of (grantVmAccess_untouched hapart h₁ userId) (fun _ _ h => ⟨h, nofun⟩)
        fun _ w₂ h₂ => ⟨h₂, nofun⟩
  | revoke vmId userId =>
      exact after_bind_of (revokeVmAccess_untouched hapart userId) (fun _ _ h => ⟨h, nofun⟩)
        fun _ w₁ h₁ => ⟨h₁, nofun⟩
  | launch draw vmId userId appUsername protocol =>
      refine after_bind_of (ensureGuacUser_untouched draw userId appUsername)
        (fun _ _ h => ⟨h, nofun⟩) fun _ w₁ h₁ => ?_
      refine after_bind_of (grantVmAccess_untouched hapart h₁ userId) (fun _ _ h => ⟨h, nofun⟩)
        fun _ w₂ h₂ => ?_
      rw [after_bind]
      refine after_mono (launchName_untouched hapart h₂ userId protocol)
        fun r w₃ ⟨h₃, hopened⟩ => ?_
      cases r with
      | error e => exact ⟨h₃, nofun⟩
      | ok opened =>
          refine ⟨h₃, ?_⟩
          rintro _ ⟨⟩
          exact hopened opened rfl

end untouched

/-! ## The law -/

def DistinctConnections (w : GuacWorld) : Prop :=
  ∀ c ∈ w.connections, ∀ c' ∈ w.connections, pairOf c ≠ pairOf c' →
    c.guacConnectionName ≠ c'.guacConnectionName

def AccessApart (deps : GuacamoleServiceDeps) (w : GuacWorld) : Prop :=
  ∀ action : AccessAction, ∀ c' ∈ w.connections, c'.vmId ≠ action.vmId →
    after (action.run deps) (fun r w' =>
      w'.guac.console c'.guacConnectionName = w.guac.console c'.guacConnectionName ∧
        ∀ opened, r = .ok (some opened) → opened ≠ c'.guacConnectionName) w

def Sources.Collide (sources : Sources) (c c' : VmConnectionRow) : Prop :=
  ∃ source source', sources (pairOf c) = some source ∧ sources (pairOf c') = some source' ∧
    source.Collides source'

section law

variable {deps : GuacamoleServiceDeps} {w : GuacWorld} {sources : Sources}

theorem Named.name_eq_iff (hnamed : Named w sources) {c c' : VmConnectionRow}
    (hc : c ∈ w.connections) (hc' : c' ∈ w.connections) :
    c.guacConnectionName = c'.guacConnectionName ↔ sources.Collide c c' := by
  obtain ⟨source, hsource, hname⟩ := hnamed.named c hc
  obtain ⟨source', hsource', hname'⟩ := hnamed.named c' hc'
  rw [hname, hname', ConnectionSource.name_eq_iff]
  constructor
  · intro hcollides
    exact ⟨source, source', hsource, hsource', hcollides⟩
  · rintro ⟨s, s', hs, hs', hcollides⟩
    cases hsource.symm.trans hs
    cases hsource'.symm.trans hs'
    exact hcollides

/-- **Connection names.**  In every state that provisioning reaches, two records carry the
same connection name exactly when the sources they were last provisioned from collide; and
granting, revoking or launching access for a VM leaves alone every connection of another VM
that collides with none of its own. -/
theorem connection_names (hist : ConnectionHistory deps w sources) :
    (∀ c ∈ w.connections, ∀ c' ∈ w.connections,
      c.guacConnectionName = c'.guacConnectionName ↔ sources.Collide c c') ∧
    ∀ action : AccessAction, ∀ c' ∈ w.connections,
      (∀ c ∈ w.connections, c.vmId = action.vmId → ¬ sources.Collide c c') →
      after (action.run deps) (fun r w' =>
        w'.guac.console c'.guacConnectionName = w.guac.console c'.guacConnectionName ∧
          ∀ opened, r = .ok (some opened) → opened ≠ c'.guacConnectionName) w := by
  have hnamed := hist.named
  refine ⟨fun c hc c' hc' => hnamed.name_eq_iff hc hc', fun action c' hc' hnone => ?_⟩
  have hapart : w.Apart action.vmId c'.guacConnectionName := fun c hc hvm heq =>
    hnone c hc hvm ((hnamed.name_eq_iff hc hc').mp heq)
  exact after_mono (action.run_untouched hapart) fun r w' ⟨h, hopened⟩ => ⟨h.console, hopened⟩

end law

/-! ## Two VMs of one name -/

def GuacWorld.provision (w : GuacWorld) (vmId : VmId) (source : ConnectionSource)
    (hostname : String) : Except AppError (VmConnectionRow × ℕ+) × GuacWorld :=
  exec (sampleDeps.upsertConnection vmId source.vmName
    ⟨source.protocol, hostname, portForProtocol source.protocol, "deploy", "secret"⟩
    source.connectionName) w

theorem ConnectionHistory.provision {w : GuacWorld} {sources : Sources} (hist : ConnectionHistory sampleDeps w sources)
    (vmId : VmId) (source : ConnectionSource) (hostname : String)
    (hok : (w.provision vmId source hostname).1.isOk = true) :
    ConnectionHistory sampleDeps (w.provision vmId source hostname).2
      (Function.update sources (vmId, source.protocol) (some source)) := by
  cases hrun : w.provision vmId source hostname with
  | mk r w' =>
      cases r with
      | error e =>
          rw [hrun] at hok
          cases hok
      | ok created => exact hist.upsert vmId source.vmName _ source.multi hrun

theorem nodup_alice : ([sampleUser 1 "alice"].map UserRow.id).Nodup := by decide

def consoleWorld : GuacWorld :=
  { sampleGuacWorld with db := { Db.empty with users := ⟨[sampleUser 1 "alice"], nodup_alice⟩ } }

def twoVms (vmName vmName' : String) : GuacWorld :=
  ((consoleWorld.provision 30 ⟨vmName, .ssh, false⟩ "10.0.0.30").2.provision 31
    ⟨vmName', .ssh, false⟩ "10.0.0.31").2

def twoSources (vmName vmName' : String) : Sources :=
  Function.update (Function.update (fun _ => none) (30, .ssh) (some ⟨vmName, .ssh, false⟩))
    (31, .ssh) (some ⟨vmName', .ssh, false⟩)

def sampleGrant : AccessAction := .grant ⟨"secret", "00", "01"⟩ 30 1 "alice"

theorem twoVms_apart : ConnectionHistory sampleDeps (twoVms "web" "db") (twoSources "web" "db") :=
  ((ConnectionHistory.start rfl).provision 30 ⟨"web", .ssh, false⟩ "10.0.0.30" (by decide +kernel)).provision 31
    ⟨"db", .ssh, false⟩ "10.0.0.31" (by decide +kernel)

theorem twoVms_shared : ConnectionHistory sampleDeps (twoVms "web" "web") (twoSources "web" "web") :=
  ((ConnectionHistory.start rfl).provision 30 ⟨"web", .ssh, false⟩ "10.0.0.30" (by decide +kernel)).provision 31
    ⟨"web", .ssh, false⟩ "10.0.0.31" (by decide +kernel)

theorem connection_names_sample :
    (∀ c ∈ (twoVms "web" "db").connections, ∀ c' ∈ (twoVms "web" "db").connections,
      c.guacConnectionName = c'.guacConnectionName ↔ (twoSources "web" "db").Collide c c') ∧
    after (sampleGrant.run sampleDeps) (fun r w' =>
      w'.guac.console "proxvm-db" = (twoVms "web" "db").guac.console "proxvm-db" ∧
        ∀ opened, r = .ok (some opened) → opened ≠ "proxvm-db") (twoVms "web" "db") := by
  obtain ⟨hnames, hapart⟩ := connection_names twoVms_apart
  have hsecond : (⟨31, .ssh, "proxvm-db"⟩ : VmConnectionRow) ∈ (twoVms "web" "db").connections := by
    decide +kernel
  have hvm : ∀ c ∈ (twoVms "web" "db").connections, c.vmId = 30 →
      c.guacConnectionName ≠ "proxvm-db" := by decide +kernel
  refine ⟨hnames, hapart sampleGrant ⟨31, .ssh, "proxvm-db"⟩ hsecond fun c hc hid hcollide => ?_⟩
  exact hvm c hc hid ((hnames c hc _ hsecond).mpr hcollide)

/-- Two VMs named `web` share a connection, and a user granted access to one can open it. -/
theorem shared_connection_name : (¬ ∀ (deps : GuacamoleServiceDeps) (w : GuacWorld) (sources : Sources),
      ConnectionHistory deps w sources → DistinctConnections w) ∧
    ¬ ∀ (deps : GuacamoleServiceDeps) (w : GuacWorld) (sources : Sources),
      ConnectionHistory deps w sources → AccessApart deps w := by
  have hfirst : (⟨30, .ssh, "proxvm-web"⟩ : VmConnectionRow) ∈ (twoVms "web" "web").connections := by
    decide +kernel
  have hsecond : (⟨31, .ssh, "proxvm-web"⟩ : VmConnectionRow) ∈ (twoVms "web" "web").connections := by
    decide +kernel
  constructor
  · intro hall
    exact hall sampleDeps _ _ twoVms_shared _ hfirst _ hsecond (by decide) rfl
  · intro hall
    have hother : (⟨31, .ssh, "proxvm-web"⟩ : VmConnectionRow).vmId ≠ sampleGrant.vmId := by decide
    obtain ⟨hkept, -⟩ := hall sampleDeps _ _ twoVms_shared sampleGrant _ hsecond hother
    have hchanged : (exec (sampleGrant.run sampleDeps) (twoVms "web" "web")).2.guac.console
        "proxvm-web" ≠ (twoVms "web" "web").guac.console "proxvm-web" := by decide +kernel
    exact hchanged hkept

end ProxVM
