import ProxVM.Guacamole.Accounts

/-!
# Guacamole connections by name

What the database holds under a connection name (`Console`): the connection, its parameters
and who has permissions on it.  The methods that give a user access to a connection, or take
it away, leave every other name as it is; those on accounts leave all of them (`Aside`).
-/

namespace ProxVM.Guac

open Tables

/-! ## Consoles -/

def Store.leads (s : Store) (name : String) (id : ℕ+) : Bool :=
  (s.connectionsNamed name).any fun c => decide (c.connectionId = id)

structure Console where
  connections : List ConnectionRow
  parameters : List ConnectionParameterRow
  permissions : List ConnectionPermissionRow
  deriving DecidableEq

def Store.console (s : Store) (name : String) : Console where
  connections := s.connectionsNamed name
  parameters := s.connectionParameters.rows.filter fun p => s.leads name p.connectionId
  permissions := s.connectionPermissions.rows.filter fun p => s.leads name p.connectionId

theorem leads_iff {s : Store} {name : String} {id : ℕ+} :
    s.leads name id = true ↔ ∃ c ∈ s.connections, c.connectionName = name ∧ c.connectionId = id := by
  simp [Store.leads, Store.connectionsNamed, Table.mem_def]

theorem leads_unique {s : Store} {name name' : String} {id : ℕ+} (hne : name ≠ name')
    (hleads : s.leads name id = true) : s.leads name' id = false := by
  rw [Bool.eq_false_iff]
  intro hleads'
  obtain ⟨c, hc, hname, hid⟩ := leads_iff.mp hleads
  obtain ⟨c', hc', hname', hid'⟩ := leads_iff.mp hleads'
  have hsame : c = c' := Table.eq_of_key_eq hc hc' (hid.trans hid'.symm)
  exact hne (hname.symm.trans ((congrArg ConnectionRow.connectionName hsame).trans hname'))

/-! ## Programs that keep a console -/

def KeepsConsole {α : Type} (name : String) (m : Sql α) : Prop :=
  KeepsView (fun s => s.console name) m

section keeps

variable {α : Type} {name name' : String} {s : Store}

theorem console_of_permissions {t : Table (id : ConnectionPermissionRow → ConnectionPermissionRow)}
    (ht : t.rows.filter (fun p => s.leads name p.connectionId) =
      s.connectionPermissions.rows.filter fun p => s.leads name p.connectionId) :
    Store.console { s with connectionPermissions := t } name = s.console name := by
  change Console.mk _ _ (t.rows.filter fun p => s.leads name p.connectionId) = _
  rw [ht]
  rfl

theorem leads_scalarIgnore (hne : name' ≠ name) {id : ℕ+}
    (hid : scalarIgnore ((s.connectionsNamed name').map ConnectionRow.connectionId) = some id) :
    s.leads name id = false := by
  have hmem := mem_of_scalarIgnore hid
  obtain ⟨c, hc, hid⟩ := List.mem_map.mp hmem
  obtain ⟨hstored, hname⟩ := List.mem_filter.mp hc
  exact leads_unique hne (leads_iff.mpr ⟨c, hstored, of_decide_eq_true hname, hid⟩)

variable {connectionId entityId : Option ℕ+} {r : Unit × Store}

theorem console_insertIgnoreConnectionPermission (hforeign : ∀ id, connectionId = some id → s.leads name id = false)
    (hrun : insertIgnoreConnectionPermission connectionId entityId s = some r) :
    r.2.console name = s.console name := by
  match connectionId, entityId with
  | some c, some e =>
      cases hrun
      refine console_of_permissions (Table.filter_put fun p hp => ?_)
      obtain rfl : p = ⟨e, c, .read⟩ := hp
      exact hforeign c rfl
  | some c, none =>
      cases hrun
      rfl
  | none, _ =>
      cases hrun
      rfl

theorem console_deleteConnectionPermission (hforeign : ∀ id, connectionId = some id → s.leads name id = false)
    (hrun : deleteConnectionPermission connectionId entityId s = some r) :
    r.2.console name = s.console name := by
  cases hrun
  refine console_of_permissions (Table.filter_deleteWhere fun p hp => ?_)
  have hother : some p.connectionId ≠ connectionId := by
    intro heq
    rw [hforeign p.connectionId heq.symm] at hp
    cases hp
  rw [decide_eq_false hother, Bool.false_and]

theorem keepsConsole_withConnectionId (hne : name' ≠ name) {f : Option ℕ+ → Sql α}
    (hf : ∀ s id r, (∀ i, id = some i → s.leads name i = false) → f id s = some r →
      r.2.console name = s.console name) : KeepsConsole name (selectConnectionId name' >>= f) := by
  intro s r hrun
  rw [bind_apply] at hrun
  obtain ⟨r₁, hselect, hrun⟩ := Option.bind_eq_some_iff.mp hrun
  obtain rfl := scalar_eq_some hselect
  exact hf s _ r (fun i hi => leads_scalarIgnore hne hi) hrun

theorem keepsConsole_insertEntity (username : String) : KeepsConsole name (insertEntity username) := by
  intro s r hrun
  unfold insertEntity at hrun
  split at hrun
  · obtain ⟨entities, -, heq⟩ := Option.map_eq_some_iff.mp hrun
    cases heq
    rfl
  · cases hrun

theorem keepsConsole_insertUser (entityId : ℕ+) (password : PasswordHash) :
    KeepsConsole name (insertUser entityId password) := by
  intro s r hrun
  unfold insertUser at hrun
  split at hrun
  · obtain ⟨users, -, heq⟩ := Option.map_eq_some_iff.mp hrun
    cases heq
    rfl
  · cases hrun

theorem keepsConsole_setUserPassword (sha256 : String → String) (username password salt : String) :
    KeepsConsole name (GuacamolePostgresClient.setUserPassword sha256 username password salt) :=
  keepsView_bind (keepsView_selectEntityId username) fun _ => keepsView_modify fun _ => rfl

theorem keepsConsole_insertIgnoreConnectionGroupPermission (connectionGroupId entityId : Option ℕ+) :
    KeepsConsole name (insertIgnoreConnectionGroupPermission connectionGroupId entityId) := by
  match connectionGroupId, entityId with
  | some _, some _ => exact keepsView_modify fun _ => rfl
  | some _, none => exact keepsView_pure ()
  | none, _ => exact keepsView_pure ()

end keeps

structure Aside (client : GuacamoleDbClient) : Prop where
  createUser : ∀ {name : String}, ∀ username password salt,
    KeepsConsole name (client.createUser username password salt)
  setUserPassword : ∀ {name : String}, ∀ username password salt,
    KeepsConsole name (client.setUserPassword username password salt)
  grantRootGroupRead : ∀ {name : String}, ∀ username,
    KeepsConsole name (client.grantRootGroupRead username)
  grantConnectionRead : ∀ {name name' : String}, name' ≠ name → ∀ username,
    KeepsConsole name (client.grantConnectionRead name' username)
  revokeConnectionAccess : ∀ {name name' : String}, name' ≠ name → ∀ username,
    KeepsConsole name (client.revokeConnectionAccess name' username)

section aside

variable {sha256 : String → String} {name name' : String}

theorem keepsConsole_grantConnectionRead (hne : name' ≠ name) (username : String) :
    KeepsConsole name (GuacamoleMySqlClient.grantConnectionRead name' username) := by
  intro s r hrun
  simp only [GuacamoleMySqlClient.grantConnectionRead, bind_apply, select, Option.bind_some] at hrun
  exact console_insertIgnoreConnectionPermission (fun id hid => leads_scalarIgnore hne hid) hrun

theorem keepsConsole_revokeConnectionAccess (hne : name' ≠ name) (username : String) :
    KeepsConsole name (GuacamolePostgresClient.revokeConnectionAccess name' username) := by
  refine keepsConsole_withConnectionId hne fun s id r hforeign hrun => ?_
  rw [bind_apply] at hrun
  obtain ⟨r₁, hselect, hrun⟩ := Option.bind_eq_some_iff.mp hrun
  obtain rfl := scalar_eq_some hselect
  exact console_deleteConnectionPermission hforeign hrun

theorem keepsConsole_grantRootGroupRead (username : String) :
    KeepsConsole name (GuacamoleMySqlClient.grantRootGroupRead username) :=
  keepsView_bind (keepsView_select _) fun _ => keepsView_bind (keepsView_select _) fun _ =>
    keepsConsole_insertIgnoreConnectionGroupPermission _ _

theorem postgresClient_aside : Aside (postgresClient sha256) where
  createUser username password salt := by
    refine keepsView_bind (keepsView_select _) fun existing => ?_
    cases existing with
    | cons row rest => exact keepsView_pure _
    | nil =>
        exact keepsView_bind (keepsConsole_insertEntity username) fun _ =>
          keepsView_bind (keepsConsole_insertUser _ _) fun _ => keepsView_pure _
  setUserPassword username password salt :=
    keepsConsole_setUserPassword sha256 username password salt
  grantRootGroupRead username := fun s r hrun =>
    keepsConsole_grantRootGroupRead username s r (grantRootGroupRead_agree hrun)
  grantConnectionRead hne username := fun s r hrun =>
    keepsConsole_grantConnectionRead hne username s r (grantConnectionRead_agree hrun)
  revokeConnectionAccess hne username := keepsConsole_revokeConnectionAccess hne username

theorem keepsConsole_getUserId (username : String) :
    KeepsConsole name (GuacamoleMySqlClient.getUserId username) :=
  keepsView_bind (keepsView_select _) fun _ => keepsView_pure _

theorem mySqlClient_aside : Aside (mySqlClient sha256) where
  createUser username password salt := by
    refine keepsView_bind (keepsView_select _) fun existing => ?_
    match existing with
    | (_, some userId) :: _ => exact keepsView_pure _
    | (_, none) :: _ =>
        exact keepsView_bind (keepsConsole_setUserPassword sha256 username password salt) fun _ =>
          keepsConsole_getUserId username
    | [] =>
        exact keepsView_bind (keepsConsole_insertEntity username) fun _ =>
          keepsView_bind (keepsConsole_insertUser _ _) fun _ => keepsConsole_getUserId username
  setUserPassword username password salt :=
    keepsConsole_setUserPassword sha256 username password salt
  grantRootGroupRead username := keepsConsole_grantRootGroupRead username
  grantConnectionRead hne username := keepsConsole_grantConnectionRead hne username
  revokeConnectionAccess hne username := keepsConsole_revokeConnectionAccess hne username

end aside

end ProxVM.Guac
