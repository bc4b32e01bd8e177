import ProxVM.Guacamole.Engines

/-!
# Guacamole accounts

What the database holds for one user name (`Account`), and the frame of the client methods
that work on a name: every account of another name stays as it is, on either engine
(`Contained`).
-/

namespace ProxVM.Guac

open Tables

/-! ## Accounts -/

def Store.bears (s : Store) (name : String) (id : ℕ+) : Bool :=
  (s.entitiesNamed name).any fun e => decide (e.entityId = id)

structure Account where
  entities : List EntityRow
  users : List UserRow
  connectionPermissions : List ConnectionPermissionRow
  connectionGroupPermissions : List ConnectionGroupPermissionRow
  deriving DecidableEq

def Store.account (s : Store) (name : String) : Account where
  entities := s.entitiesNamed name
  users := s.users.rows.filter fun u => s.bears name u.entityId
  connectionPermissions := s.connectionPermissions.rows.filter fun p => s.bears name p.entityId
  connectionGroupPermissions :=
    s.connectionGroupPermissions.rows.filter fun p => s.bears name p.entityId

theorem mem_entitiesNamed {s : Store} {name : String} {e : EntityRow} :
    e ∈ s.entitiesNamed name ↔ e ∈ s.entities ∧ e.name = name ∧ e.type = .user := by
  simp [Store.entitiesNamed, Table.mem_def]

theorem bears_iff {s : Store} {name : String} {id : ℕ+} :
    s.bears name id = true ↔ ∃ e ∈ s.entities, e.name = name ∧ e.type = .user ∧ e.entityId = id := by
  simp only [Store.bears, List.any_eq_true, mem_entitiesNamed, decide_eq_true_eq, and_assoc]

theorem bears_unique {s : Store} {name name' : String} {id : ℕ+} (hne : name ≠ name')
    (hbears : s.bears name id = true) : s.bears name' id = false := by
  rw [Bool.eq_false_iff]
  intro hbears'
  obtain ⟨e, he, hname, -, hid⟩ := bears_iff.mp hbears
  obtain ⟨e', he', hname', -, hid'⟩ := bears_iff.mp hbears'
  have hsame : e = e' := Table.eq_of_key_eq he he' (hid.trans hid'.symm)
  exact hne (hname.symm.trans ((congrArg EntityRow.name hsame).trans hname'))

/-! ## Programs that keep an account -/

def KeepsView {α β : Type} (view : Store → β) (m : Sql α) : Prop :=
  ∀ s r, m s = some r → view r.2 = view s

section view

variable {α β γ : Type} {view : Store → γ}

theorem keepsView_pure (a : α) : KeepsView view (pure a) := by
  intro s r hrun
  cases hrun
  rfl

theorem keepsView_select (f : Store → α) : KeepsView view (select f) := by
  intro s r hrun
  cases hrun
  rfl

theorem keepsView_modify {f : Store → Store} (hf : ∀ s, view (f s) = view s) :
    KeepsView view (modify' f) := by
  intro s r hrun
  cases hrun
  exact hf s

theorem keepsView_bind {m : Sql α} {f : α → Sql β} (hm : KeepsView view m)
    (hf : ∀ a, KeepsView view (f a)) : KeepsView view (m >>= f) := by
  intro s r hrun
  rw [bind_apply] at hrun
  obtain ⟨r₁, hm', hf'⟩ := Option.bind_eq_some_iff.mp hrun
  exact (hf r₁.1 r₁.2 r hf').trans (hm s r₁ hm')

theorem keepsView_scalar (xs : List α) : KeepsView view (scalar xs) := by
  intro s r hrun
  obtain rfl := scalar_eq_some hrun
  rfl

theorem keepsView_selectEntityId (name : String) : KeepsView view (selectEntityId name) :=
  keepsView_bind (keepsView_select _) fun _ => keepsView_scalar _

end view

def Keeps {α : Type} (name : String) (m : Sql α) : Prop :=
  KeepsView (fun s => s.account name) m

def Foreign (s : Store) (name : String) (id : Option ℕ+) : Prop :=
  ∀ i, id = some i → s.bears name i = false

section keeps

variable {α β : Type} {name : String} {s : Store}

theorem keeps_pure (a : α) : Keeps name (pure a) := keepsView_pure a

theorem keeps_select (f : Store → α) : Keeps name (select f) := keepsView_select f

theorem keeps_bind {m : Sql α} {f : α → Sql β} (hm : Keeps name m) (hf : ∀ a, Keeps name (f a)) :
    Keeps name (m >>= f) := keepsView_bind hm hf

theorem account_of_users {s' : Store} (hentities : s'.entities = s.entities)
    (husers : s'.users.rows.filter (fun u => s.bears name u.entityId) =
      s.users.rows.filter fun u => s.bears name u.entityId)
    (hconnections : s'.connectionPermissions.rows.filter (fun p => s.bears name p.entityId) =
      s.connectionPermissions.rows.filter fun p => s.bears name p.entityId)
    (hgroups : s'.connectionGroupPermissions.rows.filter (fun p => s.bears name p.entityId) =
      s.connectionGroupPermissions.rows.filter fun p => s.bears name p.entityId) :
    s'.account name = s.account name := by
  have hnamed : s'.entitiesNamed name = s.entitiesNamed name := by
    rw [Store.entitiesNamed, hentities, Store.entitiesNamed]
  have hbears : s'.bears name = s.bears name := by
    funext id
    rw [Store.bears, hnamed, Store.bears]
  simp only [Store.account, hbears, hnamed, husers, hconnections, hgroups]

variable {id connectionId entityId : Option ℕ+} {password : PasswordHash} {r : Unit × Store}

theorem Foreign.ne (hforeign : Foreign s name id) {i : ℕ+}
    (hbears : s.bears name i = true) : decide (some i = id) = false := by
  rw [decide_eq_false_iff_not]
  intro heq
  rw [hforeign i heq.symm] at hbears
  cases hbears

theorem account_updateUsers (hforeign : Foreign s name id) (f : UserRow → UserRow)
    (hkey : ∀ u, (f u).userId = u.userId) (hentity : ∀ u, (f u).entityId = u.entityId) :
    Store.account { s with
      users := s.users.updateWhere (fun u => decide (some u.entityId = id)) f hkey } name =
        s.account name := by
  have hrows : (s.users.updateWhere (fun u => decide (some u.entityId = id)) f hkey).rows.filter
      (fun u => s.bears name u.entityId) = s.users.rows.filter fun u => s.bears name u.entityId := by
    refine Table.filter_updateWhere hkey (fun u => ?_) fun u hu => hforeign.ne hu
    rw [hentity]
  exact account_of_users rfl hrows rfl rfl

theorem account_updateUserPassword
    (hforeign : Foreign s name id) (hrun : updateUserPassword id password s = some r) :
    r.2.account name = s.account name := by
  cases hrun
  exact account_updateUsers hforeign (fun u => { u with password }) (fun _ => rfl) fun _ => rfl

theorem account_updateUserDisabled {disabled : Bool}
    (hforeign : Foreign s name id) (hrun : updateUserDisabled id disabled s = some r) :
    r.2.account name = s.account name := by
  cases hrun
  exact account_updateUsers hforeign (fun u => { u with disabled }) (fun _ => rfl) fun _ => rfl

theorem account_deleteConnectionPermissions
    (hforeign : Foreign s name id) (hrun : deleteConnectionPermissions id s = some r) :
    r.2.account name = s.account name := by
  cases hrun
  exact account_of_users rfl rfl (Table.filter_deleteWhere fun p hp => hforeign.ne hp) rfl

theorem account_deleteConnectionGroupPermissions
    (hforeign : Foreign s name id) (hrun : deleteConnectionGroupPermissions id s = some r) :
    r.2.account name = s.account name := by
  cases hrun
  exact account_of_users rfl rfl rfl (Table.filter_deleteWhere fun p hp => hforeign.ne hp)

theorem account_deleteUserRows (hforeign : Foreign s name id)
    (hrun : deleteUserRows id s = some r) : r.2.account name = s.account name := by
  cases hrun
  exact account_of_users rfl (Table.filter_deleteWhere fun u hu => hforeign.ne hu) rfl rfl

theorem keeps_deleteUserPermissions (id : Option ℕ+) : Keeps name (deleteUserPermissions id) := by
  intro s r hrun
  cases hrun
  rfl

theorem keeps_deleteEntities {name' : String} (hne : name' ≠ name) : Keeps name (deleteEntities name') := by
  intro s r hrun
  cases hrun
  have hother : ∀ i, s.bears name i = true → s.bears name' i = false :=
    fun i hi => bears_unique hne.symm hi
  have hnamed : (s.entities.deleteWhere fun e =>
      decide (e.name = name') && decide (e.type = .user)).rows.filter
        (fun e => decide (e.name = name) && decide (e.type = .user)) = s.entitiesNamed name := by
    refine Table.filter_deleteWhere fun e he => ?_
    simp only [Bool.and_eq_true, decide_eq_true_eq] at he
    simp [he.1, hne.symm]
  have husers := Table.filter_deleteWhere (t := s.users) (p := fun u => s.bears name u.entityId)
    (q := fun u => s.bears name' u.entityId) fun u hu => hother _ hu
  have hconnections := Table.filter_deleteWhere (t := s.connectionPermissions)
    (p := fun p => s.bears name p.entityId) (q := fun p => s.bears name' p.entityId)
      fun p hp => hother _ hp
  have hgroups := Table.filter_deleteWhere (t := s.connectionGroupPermissions)
    (p := fun p => s.bears name p.entityId) (q := fun p => s.bears name' p.entityId)
      fun p hp => hother _ hp
  simp only [Store.account, Store.bears, Store.entitiesNamed] at hnamed husers hconnections hgroups ⊢
  simp only [hnamed, husers, hconnections, hgroups]

theorem account_insertUser {entityId : ℕ+} {r : ℕ+ × Store}
    (hforeign : s.bears name entityId = false) (hrun : insertUser entityId password s = some r) :
    r.2.account name = s.account name := by
  unfold insertUser at hrun
  split at hrun
  · obtain ⟨users, hins, heq⟩ := Option.map_eq_some_iff.mp hrun
    cases heq
    exact account_of_users rfl (Table.filter_insert? hins hforeign) rfl rfl
  · cases hrun

theorem account_insertEntity {name' : String} (hne : name' ≠ name) {r : ℕ+ × Store}
    (hrun : insertEntity name' s = some r) :
    r.2.account name = s.account name ∧ r.2.bears name r.1 = false := by
  have hone := (insertEntity_eq_some hrun).1
  have hbears : r.2.bears name' r.1 = true := by
    rw [Store.bears, hone]
    simp
  refine ⟨?_, bears_unique hne hbears⟩
  unfold insertEntity at hrun
  split at hrun
  · obtain ⟨entities, hins, heq⟩ := Option.map_eq_some_iff.mp hrun
    cases heq
    have hnamed : entities.rows.filter (fun e => decide (e.name = name) && decide (e.type = .user)) =
        s.entities.rows.filter fun e => decide (e.name = name) && decide (e.type = .user) :=
      Table.filter_insert? hins (by simp [hne])
    simp only [Store.account, Store.bears, Store.entitiesNamed, hnamed]
  · cases hrun

theorem account_insertIgnoreConnectionPermission (hforeign : Foreign s name entityId)
    (hrun : insertIgnoreConnectionPermission connectionId entityId s = some r) :
    r.2.account name = s.account name := by
  match connectionId, entityId with
  | some c, some e =>
      cases hrun
      refine account_of_users rfl rfl (Table.filter_put fun p hp => ?_) rfl
      obtain rfl : p = ⟨e, c, .read⟩ := hp
      exact hforeign e rfl
  | some c, none =>
      cases hrun
      rfl
  | none, _ =>
      cases hrun
      rfl

theorem account_insertIgnoreConnectionGroupPermission {connectionGroupId entityId : Option ℕ+} (hforeign : Foreign s name entityId)
    (hrun : insertIgnoreConnectionGroupPermission connectionGroupId entityId s = some r) :
    r.2.account name = s.account name := by
  match connectionGroupId, entityId with
  | some g, some e =>
      cases hrun
      refine account_of_users rfl rfl rfl (Table.filter_put fun p hp => ?_)
      obtain rfl : p = ⟨e, g, .read⟩ := hp
      exact hforeign e rfl
  | some g, none =>
      cases hrun
      rfl
  | none, _ =>
      cases hrun
      rfl

theorem account_deleteConnectionPermission (hforeign : Foreign s name entityId)
    (hrun : deleteConnectionPermission connectionId entityId s = some r) :
    r.2.account name = s.account name := by
  cases hrun
  refine account_of_users rfl rfl (Table.filter_deleteWhere fun p hp => ?_) rfl
  rw [hforeign.ne hp, Bool.and_false]

/-! ## The methods -/

theorem mem_of_scalarIgnore {xs : List α} {x : α} (hx : scalarIgnore xs = some x) : x ∈ xs := by
  match xs with
  | [] => cases hx
  | [y] =>
      cases hx
      exact List.mem_singleton_self _
  | _ :: _ :: _ => cases hx

theorem foreign_scalarIgnore {name' : String} (hne : name' ≠ name) (s : Store) :
    Foreign s name (scalarIgnore ((s.entitiesNamed name').map EntityRow.entityId)) := by
  intro i hi
  obtain ⟨e, he, hid⟩ := List.mem_map.mp (mem_of_scalarIgnore hi)
  obtain ⟨hmem, hname, htype⟩ := mem_entitiesNamed.mp he
  exact bears_unique hne (bears_iff.mpr ⟨e, hmem, hname, htype, hid⟩)

theorem keeps_withEntityId {name' : String} (hne : name' ≠ name) {f : Option ℕ+ → Sql α}
    (hf : ∀ s id r, Foreign s name id → f id s = some r → r.2.account name = s.account name) :
    Keeps name (selectEntityId name' >>= f) := by
  intro s r hrun
  rw [bind_apply] at hrun
  obtain ⟨r₁, hselect, hrun⟩ := Option.bind_eq_some_iff.mp hrun
  obtain rfl := scalar_eq_some hselect
  exact hf s _ r (foreign_scalarIgnore hne s) hrun

end keeps

structure Contained (client : GuacamoleDbClient) : Prop where
  createUser : ∀ {name name' : String}, name' ≠ name → ∀ password salt,
    Keeps name (client.createUser name' password salt)
  setUserPassword : ∀ {name name' : String}, name' ≠ name → ∀ password salt,
    Keeps name (client.setUserPassword name' password salt)
  setUserDisabled : ∀ {name name' : String}, name' ≠ name → ∀ disabled,
    Keeps name (client.setUserDisabled name' disabled)
  deleteUser : ∀ {name name' : String}, name' ≠ name → Keeps name (client.deleteUser name')
  grantConnectionRead : ∀ {name name' : String}, name' ≠ name → ∀ connectionName,
    Keeps name (client.grantConnectionRead connectionName name')
  revokeConnectionAccess : ∀ {name name' : String}, name' ≠ name → ∀ connectionName,
    Keeps name (client.revokeConnectionAccess connectionName name')
  grantRootGroupRead : ∀ {name name' : String}, name' ≠ name →
    Keeps name (client.grantRootGroupRead name')

section contained

variable {sha256 : String → String} {name name' : String}

theorem keeps_setUserPassword (hne : name' ≠ name) (password salt : String) :
    Keeps name (GuacamolePostgresClient.setUserPassword sha256 name' password salt) :=
  keeps_withEntityId hne fun _ _ _ hforeign hrun => account_updateUserPassword hforeign hrun

theorem keeps_setUserDisabled (hne : name' ≠ name) (disabled : Bool) :
    Keeps name (GuacamolePostgresClient.setUserDisabled name' disabled) :=
  keeps_withEntityId hne fun _ _ _ hforeign hrun => account_updateUserDisabled hforeign hrun

theorem keeps_deleteUser (hne : name' ≠ name) : Keeps name (GuacamolePostgresClient.deleteUser name') := by
  have hthen : ∀ {f : Option ℕ+ → Sql Unit} {rest : Sql Unit},
      (∀ s id r, Foreign s name id → f id s = some r → r.2.account name = s.account name) →
        Keeps name rest → Keeps name (selectEntityId name' >>= fun id => f id >>= fun _ => rest) := by
    intro f rest hf hrest
    refine keeps_withEntityId hne fun s id r hforeign hrun => ?_
    rw [bind_apply] at hrun
    obtain ⟨r₁, hfirst, hrun⟩ := Option.bind_eq_some_iff.mp hrun
    exact (hrest r₁.2 r hrun).trans (hf s id r₁ hforeign hfirst)
  refine hthen (fun s id r _ hrun => keeps_deleteUserPermissions id s r hrun) ?_
  refine hthen (fun _ _ _ hforeign hrun => account_deleteConnectionPermissions hforeign hrun) ?_
  refine hthen (fun _ _ _ hforeign hrun => account_deleteConnectionGroupPermissions hforeign hrun) ?_
  refine hthen (fun _ _ _ hforeign hrun => account_deleteUserRows hforeign hrun) ?_
  exact keeps_deleteEntities hne

theorem keeps_revokeConnectionAccess (hne : name' ≠ name) (connectionName : String) :
    Keeps name (GuacamolePostgresClient.revokeConnectionAccess connectionName name') := by
  refine keeps_bind (keepsView_bind (keepsView_select _) fun _ => keepsView_scalar _)
    fun connectionId => keeps_withEntityId hne
      fun _ _ _ hforeign hrun => account_deleteConnectionPermission hforeign hrun

theorem keeps_insert (hne : name' ≠ name) (password : PasswordHash) {f : ℕ+ → Sql Nat}
    (hf : ∀ id, Keeps name (f id)) :
    Keeps name (insertEntity name' >>= fun entityId => insertUser entityId password >>= f) := by
  intro s r hrun
  rw [bind_apply] at hrun
  obtain ⟨⟨entityId, s₁⟩, hentity, hrun⟩ := Option.bind_eq_some_iff.mp hrun
  rw [bind_apply] at hrun
  obtain ⟨⟨userId, s₂⟩, huser, hrun⟩ := Option.bind_eq_some_iff.mp hrun
  obtain ⟨hsame, hforeign⟩ := account_insertEntity hne hentity
  exact (hf userId s₂ r hrun).trans ((account_insertUser hforeign huser).trans hsame)

theorem keeps_grantConnectionRead (hne : name' ≠ name) (connectionName : String) :
    Keeps name (GuacamoleMySqlClient.grantConnectionRead connectionName name') := by
  intro s r hrun
  simp only [GuacamoleMySqlClient.grantConnectionRead, bind_apply, select, Option.bind_some] at hrun
  exact account_insertIgnoreConnectionPermission (foreign_scalarIgnore hne s) hrun

theorem keeps_grantRootGroupRead (hne : name' ≠ name) :
    Keeps name (GuacamoleMySqlClient.grantRootGroupRead name') := by
  intro s r hrun
  simp only [GuacamoleMySqlClient.grantRootGroupRead, bind_apply, select, Option.bind_some] at hrun
  exact account_insertIgnoreConnectionGroupPermission (foreign_scalarIgnore hne s) hrun

theorem postgresClient_contained : Contained (postgresClient sha256) where
  createUser hne password salt := by
    refine keeps_bind (keeps_select _) fun existing => ?_
    cases existing with
    | cons row rest => exact keeps_pure _
    | nil => exact keeps_insert hne _ fun id => keeps_pure _
  setUserPassword hne password salt := keeps_setUserPassword hne password salt
  setUserDisabled hne disabled := keeps_setUserDisabled hne disabled
  deleteUser hne := keeps_deleteUser hne
  grantConnectionRead hne connectionName := fun s r hrun =>
    keeps_grantConnectionRead hne connectionName s r (grantConnectionRead_agree hrun)
  revokeConnectionAccess hne connectionName := keeps_revokeConnectionAccess hne connectionName
  grantRootGroupRead hne := fun s r hrun =>
    keeps_grantRootGroupRead hne s r (grantRootGroupRead_agree hrun)

theorem keeps_getUserId (name' : String) : Keeps name (GuacamoleMySqlClient.getUserId name') :=
  keeps_bind (keeps_select _) fun _ => keeps_pure _

theorem mySqlClient_contained : Contained (mySqlClient sha256) where
  createUser hne password salt := by
    refine keeps_bind (keeps_select _) fun existing => ?_
    match existing with
    | (_, some userId) :: _ => exact keeps_pure _
    | (_, none) :: _ =>
        exact keeps_bind (keeps_setUserPassword hne password salt) fun _ => keeps_getUserId _
    | [] => exact keeps_insert hne _ fun _ => keeps_getUserId _
  setUserPassword hne password salt := keeps_setUserPassword hne password salt
  setUserDisabled hne disabled := keeps_setUserDisabled hne disabled
  deleteUser hne := keeps_deleteUser hne
  grantConnectionRead hne connectionName := keeps_grantConnectionRead hne connectionName
  revokeConnectionAccess hne connectionName := keeps_revokeConnectionAccess hne connectionName
  grantRootGroupRead hne := keeps_grantRootGroupRead hne

end contained

end ProxVM.Guac

