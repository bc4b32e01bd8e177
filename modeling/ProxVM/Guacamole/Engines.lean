import ProxVM.Guacamole.Clients

/-!
# The two engines compared

The clients run on copies of one store.  They differ by design in one method:
`createConnection` of a name that exists leaves the stored parameters alone on PostgreSQL and
refreshes them on MySQL.  `mySqlClient_refines` says that this is the whole difference.

`revokeRootGroupRead` is left out: the PostgreSQL client deletes from another table than its
sibling.

## Strategy
-/

namespace ProxVM.Guac

open Tables

variable {sha256 : String → String}

/-! ## Programs that do not see the parameters -/

def Store.withParameters (s : Store) (p : Table ConnectionParameterRow.key) : Store :=
  { s with connectionParameters := p }

def SameButParameters (s t : Store) : Prop := s.withParameters t.connectionParameters = t

namespace SameButParameters

variable {s t u : Store}

theorem refl (s : Store) : SameButParameters s s := rfl

theorem symm (h : SameButParameters s t) : SameButParameters t s := by
  unfold SameButParameters at h ⊢
  rw [← h]
  rfl

theorem trans (h : SameButParameters s t) (h' : SameButParameters t u) : SameButParameters s u := by
  unfold SameButParameters at h h' ⊢
  rw [← h', ← h]
  rfl

end SameButParameters

def Blind {α : Type} (m : Sql α) : Prop :=
  ∀ s p, m (s.withParameters p) = (m s).map fun r => (r.1, r.2.withParameters p)

section blind

variable {α β : Type}

theorem Blind.apply {m : Sql α} (hm : Blind m) {s t : Store} (hsame : SameButParameters s t)
    {r : α × Store} (hs : m s = some r) : ∃ t', m t = some (r.1, t') ∧ SameButParameters r.2 t' := by
  have ht := hm s t.connectionParameters
  rw [hsame, hs] at ht
  exact ⟨_, ht, rfl⟩

theorem blind_pure (a : α) : Blind (pure a) := fun _ _ => rfl

theorem blind_refused : Blind (refused : Sql α) := fun _ _ => rfl

theorem blind_bind {m : Sql α} {f : α → Sql β} (hm : Blind m) (hf : ∀ a, Blind (f a)) : Blind (m >>= f) := by
  intro s p
  rw [bind_apply, bind_apply, hm s p]
  cases m s with
  | none => rfl
  | some r => exact hf r.1 r.2 p

theorem blind_select {f : Store → α} (hf : ∀ s p, f (s.withParameters p) = f s) : Blind (select f) := by
  intro s p
  simp only [select, hf, Option.map_some]

theorem blind_modify' {f : Store → Store}
    (hf : ∀ s p, f (s.withParameters p) = (f s).withParameters p) : Blind (modify' f) := by
  intro s p
  simp only [modify', hf, Option.map_some]

theorem blind_scalar (xs : List α) : Blind (scalar xs) := by
  match xs with
  | [] => exact blind_pure none
  | [a] => exact blind_pure (some a)
  | _ :: _ :: _ => exact blind_refused

theorem blind_selectEntityId (name : String) : Blind (selectEntityId name) :=
  blind_bind (blind_select fun _ _ => rfl) fun _ => blind_scalar _

theorem blind_selectConnectionId (name : String) : Blind (selectConnectionId name) :=
  blind_bind (blind_select fun _ _ => rfl) fun _ => blind_scalar _

theorem blind_insertEntity (name : String) : Blind (insertEntity name) := by
  intro s p
  have hnamed : (s.withParameters p).entitiesNamed name = s.entitiesNamed name := rfl
  cases hfree : (s.entitiesNamed name).isEmpty with
  | false => simp [insertEntity, hnamed, hfree]
  | true =>
      simp only [insertEntity, hnamed, hfree, if_true, Option.map_map]
      rfl

theorem blind_insertUser (entityId : ℕ+) (password : PasswordHash) :
    Blind (insertUser entityId password) := by
  intro s p
  have huser : (s.withParameters p).userOf entityId = s.userOf entityId := rfl
  cases hfree : (s.userOf entityId).isNone with
  | false => simp [insertUser, huser, hfree]
  | true =>
      simp only [insertUser, huser, hfree, if_true, Option.map_map]
      rfl

theorem blind_insertConnectionPermission (connectionId entityId : Option ℕ+) :
    Blind (insertConnectionPermission connectionId entityId) := by
  unfold insertConnectionPermission
  split
  · exact blind_modify' fun _ _ => rfl
  · exact blind_refused

theorem blind_insertConnectionGroupPermission (connectionGroupId entityId : Option ℕ+) :
    Blind (insertConnectionGroupPermission connectionGroupId entityId) := by
  unfold insertConnectionGroupPermission
  split
  · exact blind_modify' fun _ _ => rfl
  · exact blind_refused

end blind

namespace GuacamolePostgresClient

theorem blind_createUser (username password salt : String) :
    Blind (createUser sha256 username password salt) := by
  refine blind_bind (blind_select fun _ _ => rfl) fun existing => ?_
  cases existing with
  | cons row _ => exact blind_pure _
  | nil =>
      refine blind_bind (blind_insertEntity username) fun entityId => ?_
      exact blind_bind (blind_insertUser entityId _) fun userId => blind_pure _

theorem blind_setUserPassword (username password salt : String) :
    Blind (setUserPassword sha256 username password salt) :=
  blind_bind (blind_selectEntityId username) fun _ => blind_modify' fun _ _ => rfl

theorem blind_setUserDisabled (username : String) (disabled : Bool) :
    Blind (setUserDisabled username disabled) :=
  blind_bind (blind_selectEntityId username) fun _ => blind_modify' fun _ _ => rfl

theorem blind_deleteUser (username : String) : Blind (deleteUser username) := by
  have hstatement : ∀ {f : Option ℕ+ → Store → Store} {rest : Sql Unit},
      (∀ e s p, f e (s.withParameters p) = (f e s).withParameters p) → Blind rest →
        Blind (selectEntityId username >>= fun e => modify' (f e) >>= fun _ => rest) :=
    fun hf hrest => blind_bind (blind_selectEntityId username) fun e =>
      blind_bind (blind_modify' (hf e)) fun _ => hrest
  refine hstatement (fun _ _ _ => rfl) (hstatement (fun _ _ _ => rfl) ?_)
  refine hstatement (fun _ _ _ => rfl) (hstatement (fun _ _ _ => rfl) ?_)
  exact blind_modify' fun _ _ => rfl

theorem blind_grantConnectionRead (connectionName guacUsername : String) :
    Blind (grantConnectionRead connectionName guacUsername) :=
  blind_bind (blind_selectConnectionId connectionName) fun _ =>
    blind_bind (blind_selectEntityId guacUsername) fun _ => blind_insertConnectionPermission _ _

theorem blind_revokeConnectionAccess (connectionName guacUsername : String) :
    Blind (revokeConnectionAccess connectionName guacUsername) :=
  blind_bind (blind_selectConnectionId connectionName) fun _ =>
    blind_bind (blind_selectEntityId guacUsername) fun _ => blind_modify' fun _ _ => rfl

theorem blind_grantRootGroupRead (guacUsername : String) : Blind (grantRootGroupRead guacUsername) :=
  blind_bind (blind_select fun _ _ => rfl) fun _ =>
    blind_bind (blind_selectEntityId guacUsername) fun _ =>
      blind_insertConnectionGroupPermission _ _

end GuacamolePostgresClient

/-! ## Methods that agree -/

theorem insertEntity_eq_some {s s' : Store} {name : String} {id : ℕ+}
    (hins : insertEntity name s = some (id, s')) :
    s'.entitiesNamed name = [⟨id, name, .user⟩] ∧ s'.users = s.users := by
  unfold insertEntity at hins
  split at hins
  · rename_i hfree
    obtain ⟨entities, hentities, heq⟩ := Option.map_eq_some_iff.mp hins
    cases heq
    unfold Table.insert? at hentities
    split at hentities
    · cases hentities
    · cases hentities
      have hnone : s.entitiesNamed name = [] := List.isEmpty_iff.mp hfree
      simp only [Store.entitiesNamed] at hnone
      simp [Store.entitiesNamed, List.filter_append, hnone]
  · cases hins

theorem insertUser_eq_some {s s' : Store} {entityId id : ℕ+} {password : PasswordHash}
    (hins : insertUser entityId password s = some (id, s')) :
    (s'.userOf entityId).map UserRow.userId = some id ∧ s'.entities = s.entities := by
  unfold insertUser at hins
  split at hins
  · rename_i hfree
    obtain ⟨users, husers, heq⟩ := Option.map_eq_some_iff.mp hins
    cases heq
    unfold Table.insert? at husers
    split at husers
    · cases husers
    · cases husers
      have hnone : s.userOf entityId = none := Option.isNone_iff_eq_none.mp hfree
      simp only [Store.userOf] at hnone
      simp [Store.userOf, List.find?_append, hnone]
  · cases hins

theorem getUserId_apply {s : Store} {name : String} {e : EntityRow}
    (hone : s.entitiesNamed name = [e]) : GuacamoleMySqlClient.getUserId name s =
      some (numberOf ((s.userOf e.entityId).map UserRow.userId), s) := by
  simp only [GuacamoleMySqlClient.getUserId, bind_apply, select, Option.bind_some,
    Store.usersNamed, hone, List.map_cons, List.map_nil]
  cases s.userOf e.entityId with
  | none => rfl
  | some u => rfl

theorem updateUserPassword_of_none {s : Store} {entityId : ℕ+} (password : PasswordHash)
    (hnone : s.userOf entityId = none) : updateUserPassword (some entityId) password s = some ((), s) := by
  have hrows : ∀ u ∈ s.users, decide (some u.entityId = some entityId) = false := by
    intro u hu
    have hne := List.find?_eq_none.mp hnone u hu
    simpa using hne
  simp only [updateUserPassword, modify', Table.updateWhere_eq_self hrows]

theorem createUser_agree {username password salt : String} {s : Store} {r r' : Nat × Store}
    (hpg : GuacamolePostgresClient.createUser sha256 username password salt s = some r)
    (hmy : GuacamoleMySqlClient.createUser sha256 username password salt s = some r') : r' = r := by
  simp only [GuacamolePostgresClient.createUser, GuacamoleMySqlClient.createUser, bind_apply,
    select, Option.bind_some] at hpg hmy
  cases hentities : s.entitiesNamed username with
  | nil =>
      simp only [Store.usersNamed, hentities, List.map_nil, bind_apply] at hpg hmy
      obtain ⟨⟨entityId, s₁⟩, hentity, hpg⟩ := Option.bind_eq_some_iff.mp hpg
      obtain ⟨⟨userId, s₂⟩, huser, hpg⟩ := Option.bind_eq_some_iff.mp hpg
      have hone : s₂.entitiesNamed username = [⟨entityId, username, .user⟩] := by
        rw [Store.entitiesNamed, (insertUser_eq_some huser).2]
        exact (insertEntity_eq_some hentity).1
      rw [hentity, Option.bind_some, huser, Option.bind_some, getUserId_apply hone,
        (insertUser_eq_some huser).1] at hmy
      cases hpg
      cases hmy
      rfl
  | cons e rest =>
      cases huser : s.userOf e.entityId with
      | some u =>
          simp only [Store.usersNamed, hentities, List.map_cons, huser, Option.map_some] at hpg hmy
          cases hpg
          cases hmy
          rfl
      | none =>
          simp only [Store.usersNamed, hentities, List.map_cons, huser, Option.map_none,
            GuacamoleMySqlClient.setUserPassword, selectEntityId, bind_apply, select,
            Option.bind_some] at hpg hmy
          cases rest with
          | cons e' rest => simp [scalar, refused] at hmy
          | nil =>
              have hset := updateUserPassword_of_none
                (sha256SaltedHashPassword sha256 password salt) huser
              simp only [scalar, List.map_nil] at hmy
              rw [show (pure (some e.entityId) : Sql (Option ℕ+)) s = some (some e.entityId, s)
                from rfl, Option.bind_some, hset, Option.bind_some, getUserId_apply hentities,
                huser] at hmy
              cases hpg
              cases hmy
              rfl

theorem scalar_eq_some {α : Type} {xs : List α} {s : Store} {r : Option α × Store}
    (hrun : scalar xs s = some r) : r = (scalarIgnore xs, s) := by
  match xs with
  | [] =>
      cases hrun
      rfl
  | [a] =>
      cases hrun
      rfl
  | _ :: _ :: _ => cases hrun

variable {r : Unit × Store} {connectionId : ℕ+} {entries : List (String × String)} {replies replies' : List Reply}
  {op : Operation}

theorem insertConnectionPermission_ignore {connectionId entityId : Option ℕ+} {s : Store} (hrun : insertConnectionPermission connectionId entityId s = some r) :
    insertIgnoreConnectionPermission connectionId entityId s = some r := by
  match connectionId, entityId with
  | some _, some _ => exact hrun
  | some _, none => cases hrun
  | none, _ => cases hrun

theorem insertConnectionGroupPermission_ignore {connectionGroupId entityId : Option ℕ+} {s : Store}
    (hrun : insertConnectionGroupPermission connectionGroupId entityId s = some r) :
    insertIgnoreConnectionGroupPermission connectionGroupId entityId s = some r := by
  match connectionGroupId, entityId with
  | some _, some _ => exact hrun
  | some _, none => cases hrun
  | none, _ => cases hrun

theorem grantConnectionRead_agree {connectionName guacUsername : String} {s : Store}
    (hpg : GuacamolePostgresClient.grantConnectionRead connectionName guacUsername s = some r) :
    GuacamoleMySqlClient.grantConnectionRead connectionName guacUsername s = some r := by
  rw [GuacamolePostgresClient.grantConnectionRead, bind_apply] at hpg
  obtain ⟨r₁, hconnection, hpg⟩ := Option.bind_eq_some_iff.mp hpg
  obtain rfl := scalar_eq_some hconnection
  rw [bind_apply] at hpg
  obtain ⟨r₂, hentity, hpg⟩ := Option.bind_eq_some_iff.mp hpg
  obtain rfl := scalar_eq_some hentity
  exact insertConnectionPermission_ignore hpg

theorem grantRootGroupRead_agree {guacUsername : String} {s : Store}
    (hpg : GuacamolePostgresClient.grantRootGroupRead guacUsername s = some r) :
    GuacamoleMySqlClient.grantRootGroupRead guacUsername s = some r := by
  rw [GuacamolePostgresClient.grantRootGroupRead, bind_apply, select, Option.bind_some,
    bind_apply] at hpg
  obtain ⟨r₁, hentity, hpg⟩ := Option.bind_eq_some_iff.mp hpg
  obtain rfl := scalar_eq_some hentity
  exact insertConnectionGroupPermission_ignore hpg

/-! ## Parameters -/

def ParametersOnly {α : Type} (m : Sql α) : Prop :=
  ∀ s r, m s = some r → SameButParameters s r.2

theorem parametersOnly_insertParameter (connectionId : ℕ+) (name value : String) :
    ParametersOnly (insertParameter connectionId name value) := by
  intro s r hrun
  obtain ⟨ps, -, rfl⟩ := Option.map_eq_some_iff.mp hrun
  rfl

theorem parametersOnly_upsertParameter (connectionId : ℕ+) (name value : String) :
    ParametersOnly (upsertParameter connectionId name value) := by
  intro s r hrun
  cases hrun
  rfl

theorem parametersOnly_forM {α : Type} {f : α → Sql PUnit} (hf : ∀ a, ParametersOnly (f a))
    (xs : List α) : ParametersOnly (forM xs f) := by
  induction xs with
  | nil =>
      intro s r hrun
      cases hrun
      exact SameButParameters.refl s
  | cons x xs ih =>
      intro s r hrun
      rw [List.forM_cons, bind_apply] at hrun
      obtain ⟨r₁, hx, hxs⟩ := Option.bind_eq_some_iff.mp hrun
      exact (hf x s r₁ hx).trans (ih r₁.2 r hxs)

theorem mem_of_forM_insertParameter :
    ∀ {s s' : Store}, (forM entries fun e => insertParameter connectionId e.1 e.2 : Sql PUnit) s = some ((), s') →
      (∀ p ∈ s.connectionParameters, p ∈ s'.connectionParameters) ∧
        ∀ e ∈ entries, (⟨connectionId, e.1, e.2⟩ : ConnectionParameterRow) ∈ s'.connectionParameters := by
  induction entries with
  | nil =>
      intro s s' hrun
      cases hrun
      exact ⟨fun _ hp => hp, fun _ he => absurd he List.not_mem_nil⟩
  | cons e entries ih =>
      intro s s' hrun
      rw [List.forM_cons, bind_apply] at hrun
      obtain ⟨⟨_, s₁⟩, hins, hrest⟩ := Option.bind_eq_some_iff.mp hrun
      obtain ⟨ps, hps, heq⟩ := Option.map_eq_some_iff.mp hins
      cases heq
      obtain ⟨-, hmem⟩ := Table.insert?_eq_some hps
      obtain ⟨hkeep, hentries⟩ := ih hrest
      refine ⟨fun p hp => hkeep p ((hmem p).mpr (.inl hp)), fun e' he' => ?_⟩
      rcases List.mem_cons.mp he' with rfl | he'
      · exact hkeep _ ((hmem _).mpr (.inr rfl))
      · exact hentries e' he'

theorem forM_upsertParameter_of_mem
    {s : Store} (hmem : ∀ e ∈ entries, (⟨connectionId, e.1, e.2⟩ : ConnectionParameterRow) ∈
      s.connectionParameters) :
    (forM entries fun e => upsertParameter connectionId e.1 e.2 : Sql PUnit) s = some ((), s) := by
  induction entries with
  | nil => rfl
  | cons e entries ih =>
      have hput : upsertParameter connectionId e.1 e.2 s = some ((), s) := by
        rw [upsertParameter, modify', Table.put_of_mem (hmem e List.mem_cons_self)]
      rw [List.forM_cons, bind_apply, hput]
      exact ih fun e' he' => hmem e' (List.mem_cons_of_mem e he')

/-! ## The methods on connections, case by case -/

section cases

variable {s : Store} {name protocol : String} {params : Params}

theorem SameButParameters.connectionsNamed {t : Store} (h : SameButParameters s t)
    (name : String) : t.connectionsNamed name = s.connectionsNamed name := by
  rw [← h]
  rfl

theorem updateConnectionParams_of_nil (hnamed : s.connectionsNamed name = []) :
    GuacamolePostgresClient.updateConnectionParams name params s =
      some (.error ⟨"Guacamole connection " ++ name ++ " not found"⟩, s) := by
  simp only [GuacamolePostgresClient.updateConnectionParams, bind_apply, select, Option.bind_some,
    hnamed]
  rfl

variable {row : ConnectionRow} {rest : List ConnectionRow}

theorem updateConnectionParams_of_cons (hnamed : s.connectionsNamed name = row :: rest) :
    GuacamolePostgresClient.updateConnectionParams name params s =
      ((forM params.rows fun e => upsertParameter row.connectionId e.1 e.2 : Sql PUnit) s).bind
        fun r => some (.ok (), r.2) := by
  simp only [GuacamolePostgresClient.updateConnectionParams, bind_apply, select, Option.bind_some,
    hnamed]
  rfl

theorem createConnection_of_cons (hnamed : s.connectionsNamed name = row :: rest) :
    GuacamolePostgresClient.createConnection name protocol params s = some (.ok row.connectionId, s) := by
  simp only [GuacamolePostgresClient.createConnection, bind_apply, select, Option.bind_some, hnamed]
  rfl

theorem createConnection_of_nil (hnamed : s.connectionsNamed name = []) :
    GuacamolePostgresClient.createConnection name protocol params s =
      (insertConnection name protocol s).bind fun r =>
        ((forM params.rows fun e => insertParameter r.1 e.1 e.2 : Sql PUnit) r.2).bind fun r' =>
          some (.ok r.1, r'.2) := by
  simp only [GuacamolePostgresClient.createConnection, bind_apply, select, Option.bind_some, hnamed]
  rfl

theorem mySql_createConnection_of_nil (hnamed : s.connectionsNamed name = []) :
    GuacamoleMySqlClient.createConnection name protocol params s =
      GuacamolePostgresClient.createConnection name protocol params s := by
  simp only [GuacamolePostgresClient.createConnection, GuacamoleMySqlClient.createConnection,
    bind_apply, select, Option.bind_some, hnamed]

theorem mySql_createConnection_of_cons (hnamed : s.connectionsNamed name = row :: rest) :
    GuacamoleMySqlClient.createConnection name protocol params s =
      ((forM params.rows fun e => upsertParameter row.connectionId e.1 e.2 : Sql PUnit) s).bind
        fun r => some (.ok row.connectionId, r.2) := by
  simp only [GuacamoleMySqlClient.createConnection, GuacamoleMySqlClient.updateConnectionParams,
    bind_apply, select, Option.bind_some, hnamed, Option.bind_assoc]
  rfl

theorem parametersOnly_updateConnectionParams (name : String) (params : Params) :
    ParametersOnly (GuacamolePostgresClient.updateConnectionParams name params) := by
  intro s r hrun
  cases hnamed : s.connectionsNamed name with
  | nil =>
      rw [updateConnectionParams_of_nil hnamed] at hrun
      cases hrun
      exact SameButParameters.refl s
  | cons row rest =>
      rw [updateConnectionParams_of_cons hnamed] at hrun
      obtain ⟨r₁, hloop, hrun⟩ := Option.bind_eq_some_iff.mp hrun
      cases hrun
      exact parametersOnly_forM (fun e => parametersOnly_upsertParameter row.connectionId e.1 e.2)
        params.rows s r₁ hloop

theorem insertConnection_eq_some {s' : Store} {id : ℕ+} (hnew : s.connectionsNamed name = [])
    (hins : insertConnection name protocol s = some (id, s')) :
    s'.connectionsNamed name = [⟨id, name, none, protocol⟩] := by
  obtain ⟨connections, hconnections, heq⟩ := Option.map_eq_some_iff.mp hins
  cases heq
  unfold Table.insert? at hconnections
  split at hconnections
  · cases hconnections
  · cases hconnections
    simp only [Store.connectionsNamed] at hnew
    simp [Store.connectionsNamed, List.filter_append, hnew]

theorem blind_insertConnection (name protocol : String) : Blind (insertConnection name protocol) := by
  intro s p
  simp only [insertConnection, Store.withParameters, Option.map_map]
  rfl

/-- **MySQL's `createConnection` is PostgreSQL's, with `updateConnectionParams` after it.** -/
theorem createConnection_refreshes {r : Except GuacamoleDbError ℕ+ × Store}
    (hmy : GuacamoleMySqlClient.createConnection name protocol params s = some r) :
    ∃ s₁, GuacamolePostgresClient.createConnection name protocol params s = some (r.1, s₁) ∧
      GuacamolePostgresClient.updateConnectionParams name params s₁ = some (.ok (), r.2) := by
  cases hnamed : s.connectionsNamed name with
  | cons row rest =>
      rw [mySql_createConnection_of_cons hnamed] at hmy
      obtain ⟨r₁, hloop, hmy⟩ := Option.bind_eq_some_iff.mp hmy
      cases hmy
      refine ⟨s, createConnection_of_cons hnamed, ?_⟩
      rw [updateConnectionParams_of_cons hnamed, hloop]
      rfl
  | nil =>
      rw [mySql_createConnection_of_nil hnamed] at hmy
      refine ⟨r.2, hmy, ?_⟩
      rw [createConnection_of_nil hnamed] at hmy
      obtain ⟨⟨id, s₁⟩, hins, hmy⟩ := Option.bind_eq_some_iff.mp hmy
      obtain ⟨r₂, hloop, hmy⟩ := Option.bind_eq_some_iff.mp hmy
      cases hmy
      have honly := parametersOnly_forM (fun e : String × String =>
        parametersOnly_insertParameter id e.1 e.2) params.rows s₁ _ hloop
      have hfound : r₂.2.connectionsNamed name = [⟨id, name, none, protocol⟩] :=
        (honly.connectionsNamed name).trans (insertConnection_eq_some hnamed hins)
      rw [updateConnectionParams_of_cons hfound,
        forM_upsertParameter_of_mem (mem_of_forM_insertParameter hloop).2]
      rfl

end cases

/-! ## Stores that differ in their parameters only -/

section same

variable {s t : Store} {name protocol : String} {params : Params}

theorem createConnection_same {r r' : Except GuacamoleDbError ℕ+ × Store} (hsame : SameButParameters s t)
    (hs : GuacamolePostgresClient.createConnection name protocol params s = some r)
    (ht : GuacamolePostgresClient.createConnection name protocol params t = some r') :
    r'.1 = r.1 ∧ SameButParameters r.2 r'.2 := by
  cases hrows : s.connectionsNamed name with
  | cons row rest =>
      rw [createConnection_of_cons hrows] at hs
      rw [createConnection_of_cons ((hsame.connectionsNamed name).trans hrows)] at ht
      cases hs
      cases ht
      exact ⟨rfl, hsame⟩
  | nil =>
      rw [createConnection_of_nil hrows] at hs
      rw [createConnection_of_nil ((hsame.connectionsNamed name).trans hrows)] at ht
      obtain ⟨⟨id, s₁⟩, hins, hs⟩ := Option.bind_eq_some_iff.mp hs
      obtain ⟨r₂, hloop, hs⟩ := Option.bind_eq_some_iff.mp hs
      obtain ⟨⟨id', t₁⟩, hins', ht⟩ := Option.bind_eq_some_iff.mp ht
      obtain ⟨r₂', hloop', ht⟩ := Option.bind_eq_some_iff.mp ht
      cases hs
      cases ht
      obtain ⟨t₂, hins₂, hsame₁⟩ := (blind_insertConnection name protocol).apply hsame hins
      rw [hins'] at hins₂
      cases hins₂
      have honly := fun u => parametersOnly_forM (fun e : String × String =>
        parametersOnly_insertParameter id e.1 e.2) params.rows u
      exact ⟨rfl, (honly s₁ r₂ hloop).symm.trans (hsame₁.trans (honly t₁ r₂' hloop'))⟩

theorem updateConnectionParams_same {r r' : Except GuacamoleDbError Unit × Store}
    (hsame : SameButParameters s t)
    (hs : GuacamolePostgresClient.updateConnectionParams name params s = some r)
    (ht : GuacamolePostgresClient.updateConnectionParams name params t = some r') :
    r'.1 = r.1 ∧ SameButParameters r.2 r'.2 := by
  have hleft := parametersOnly_updateConnectionParams name params s r hs
  have hright := parametersOnly_updateConnectionParams name params t r' ht
  refine ⟨?_, hleft.symm.trans (hsame.trans hright)⟩
  cases hrows : s.connectionsNamed name with
  | nil =>
      rw [updateConnectionParams_of_nil hrows] at hs
      rw [updateConnectionParams_of_nil ((hsame.connectionsNamed name).trans hrows)] at ht
      cases hs
      cases ht
      rfl
  | cons row rest =>
      rw [updateConnectionParams_of_cons hrows] at hs
      rw [updateConnectionParams_of_cons ((hsame.connectionsNamed name).trans hrows)] at ht
      obtain ⟨r₁, -, hs⟩ := Option.bind_eq_some_iff.mp hs
      obtain ⟨r₂, -, ht⟩ := Option.bind_eq_some_iff.mp ht
      cases hs
      cases ht
      rfl

theorem deleteConnection_same {r : Bool × Store} (hsame : SameButParameters s t)
    (hs : GuacamolePostgresClient.deleteConnection name s = some r) :
    ∃ t', GuacamolePostgresClient.deleteConnection name t = some (r.1, t') ∧ SameButParameters r.2 t' := by
  obtain ⟨p, rfl⟩ : ∃ p, t = s.withParameters p := ⟨t.connectionParameters, Eq.symm hsame⟩
  cases hs
  exact ⟨_, rfl, rfl⟩

end same

/-! ## The simulation -/

/-- What PostgreSQL does for an operation of MySQL: `createConnection` is followed by
`updateConnectionParams` with the same parameters. -/
def Operation.refreshed : Operation → List Operation
  | .createConnection name protocol params =>
      [.createConnection name protocol params, .updateConnectionParams name params]
  | op => [op]

/-- The operation is `revokeRootGroupRead`. -/
def Operation.isRevokeRootGroupRead : Operation → Bool
  | .revokeRootGroupRead _ => true
  | _ => false

theorem map_apply {α β : Type} (f : α → β) (m : Sql α) (s : Store) :
    (f <$> m) s = (m s).bind fun r => some (f r.1, r.2) := by
  rw [map_eq_pure_bind]
  rfl

theorem run_cons (client : GuacamoleDbClient) (op : Operation) (ops : List Operation) (s : Store) :
    client.run (op :: ops) s = (client.perform op s).bind fun r =>
      (client.run ops r.2).bind fun r' => some (r.1 :: r'.1, r'.2) := rfl

theorem run_append (client : GuacamoleDbClient) {ops ops' : List Operation} {s s₁ s₂ : Store} (hrun : client.run ops s = some (replies, s₁))
    (hrun' : client.run ops' s₁ = some (replies', s₂)) :
    client.run (ops ++ ops') s = some (replies ++ replies', s₂) := by
  induction ops generalizing s replies with
  | nil =>
      cases hrun
      exact hrun'
  | cons op ops ih =>
      rw [run_cons] at hrun
      obtain ⟨r, hop, hrest⟩ := Option.bind_eq_some_iff.mp hrun
      obtain ⟨r', hops, heq⟩ := Option.bind_eq_some_iff.mp hrest
      cases heq
      rw [List.cons_append, run_cons, hop, Option.bind_some, ih hops]
      rfl

structure StepAgrees (sha256 : String → String) (op : Operation) (t : Store) (r r' : Reply × Store) :
    Prop where
  reply : r'.1 = r.1
  same : SameButParameters r.2 r'.2
  refreshed : ∃ replies, (postgresClient sha256).run op.refreshed t = some (replies, r'.2)

theorem StepAgrees.of_blind {α : Type} {pg my : Sql α} {reply : α → Reply}
    {s t : Store} {r r' : Reply × Store} (hsame : SameButParameters s t)
    (hblind : Blind pg) (hagree : ∀ u r r', pg u = some r → my u = some r' → r' = r)
    (hpg : (postgresClient sha256).perform op = reply <$> pg) (hop : op.refreshed = [op])
    (hs : (reply <$> pg) s = some r) (ht : (reply <$> my) t = some r') : StepAgrees sha256 op t r r' := by
  rw [map_apply] at hs ht
  obtain ⟨a, ha, heq⟩ := Option.bind_eq_some_iff.mp hs
  obtain ⟨b, hb, heq'⟩ := Option.bind_eq_some_iff.mp ht
  cases heq
  cases heq'
  obtain ⟨t', ht', hsame'⟩ := hblind.apply hsame ha
  obtain rfl := hagree t _ b ht' hb
  refine ⟨rfl, hsame', [reply a.1], ?_⟩
  rw [hop, run_cons, hpg, map_apply, ht']
  rfl

theorem perform_agrees {s t : Store} {r r' : Reply × Store}
    (hop : op.isRevokeRootGroupRead = false) (hsame : SameButParameters s t)
    (hs : (postgresClient sha256).perform op s = some r)
    (ht : (mySqlClient sha256).perform op t = some r') : StepAgrees sha256 op t r r' := by
  have hequal : ∀ {α : Type} {m : Sql α} (u : Store) (r r' : α × Store),
      m u = some r → m u = some r' → r' = r := by
    intro α m u r r' hr hr'
    exact Option.some.inj (hr'.symm.trans hr)
  cases op with
  | createUser username password salt =>
      exact .of_blind hsame (GuacamolePostgresClient.blind_createUser username password salt)
        (fun _ _ _ => createUser_agree) rfl rfl hs ht
  | setUserPassword username password salt =>
      exact .of_blind hsame (GuacamolePostgresClient.blind_setUserPassword username password salt)
        hequal rfl rfl hs ht
  | setUserDisabled username disabled =>
      exact .of_blind hsame (GuacamolePostgresClient.blind_setUserDisabled username disabled)
        hequal rfl rfl hs ht
  | deleteUser username =>
      exact .of_blind hsame (GuacamolePostgresClient.blind_deleteUser username) hequal rfl rfl hs ht
  | grantConnectionRead name username =>
      exact .of_blind hsame (GuacamolePostgresClient.blind_grantConnectionRead name username)
        (fun _ _ _ hpg hmy => Option.some.inj (hmy.symm.trans (grantConnectionRead_agree hpg)))
        rfl rfl hs ht
  | revokeConnectionAccess name username =>
      exact .of_blind hsame (GuacamolePostgresClient.blind_revokeConnectionAccess name username)
        hequal rfl rfl hs ht
  | grantRootGroupRead username =>
      exact .of_blind hsame (GuacamolePostgresClient.blind_grantRootGroupRead username)
        (fun _ _ _ hpg hmy => Option.some.inj (hmy.symm.trans (grantRootGroupRead_agree hpg)))
        rfl rfl hs ht
  | revokeRootGroupRead username => cases hop
  | createConnection name protocol params =>
      obtain ⟨a, ha, heq⟩ := Option.bind_eq_some_iff.mp ((map_apply _ _ s).symm.trans hs)
      obtain ⟨b, hb, heq'⟩ := Option.bind_eq_some_iff.mp ((map_apply _ _ t).symm.trans ht)
      cases heq
      cases heq'
      obtain ⟨t₁, hcreate, hupdate⟩ := createConnection_refreshes hb
      obtain ⟨hreply, hsame₁⟩ := createConnection_same hsame ha hcreate
      have honly := parametersOnly_updateConnectionParams name params t₁ _ hupdate
      refine ⟨congrArg Reply.connectionId hreply, hsame₁.trans honly,
        [.connectionId b.1, .updated (.ok ())], ?_⟩
      simp only [Operation.refreshed, run_cons, GuacamoleDbClient.perform, postgresClient, map_apply,
        hcreate, hupdate, Option.bind_some]
      rfl
  | updateConnectionParams name params =>
      obtain ⟨a, ha, heq⟩ := Option.bind_eq_some_iff.mp ((map_apply _ _ s).symm.trans hs)
      obtain ⟨b, hb, heq'⟩ := Option.bind_eq_some_iff.mp ((map_apply _ _ t).symm.trans ht)
      cases heq
      cases heq'
      obtain ⟨hreply, hsame₁⟩ := updateConnectionParams_same hsame ha hb
      refine ⟨congrArg Reply.updated hreply, hsame₁, [.updated b.1], ?_⟩
      show (postgresClient sha256).run [.updateConnectionParams name params] t = _
      rw [run_cons]
      exact Option.bind_eq_some_iff.mpr ⟨_, ht, rfl⟩
  | deleteConnection name =>
      obtain ⟨a, ha, heq⟩ := Option.bind_eq_some_iff.mp ((map_apply _ _ s).symm.trans hs)
      obtain ⟨b, hb, heq'⟩ := Option.bind_eq_some_iff.mp ((map_apply _ _ t).symm.trans ht)
      cases heq
      cases heq'
      obtain ⟨t₁, hdelete, hsame₁⟩ := deleteConnection_same hsame ha
      obtain rfl := Option.some.inj (hdelete.symm.trans hb)
      refine ⟨rfl, hsame₁, [.deleted a.1], ?_⟩
      show (postgresClient sha256).run [.deleteConnection name] t = _
      rw [run_cons]
      exact Option.bind_eq_some_iff.mpr ⟨_, ht, rfl⟩

theorem run_agrees {ops : List Operation} {s t s' t' : Store}
    (hops : ∀ op ∈ ops, op.isRevokeRootGroupRead = false) (hsame : SameButParameters s t)
    (hs : (postgresClient sha256).run ops s = some (replies, s'))
    (ht : (mySqlClient sha256).run ops t = some (replies', t')) :
    replies' = replies ∧ SameButParameters s' t' ∧ ∃ all,
      (postgresClient sha256).run (ops.flatMap Operation.refreshed) t = some (all, t') := by
  induction ops generalizing s t replies replies' with
  | nil =>
      cases hs
      cases ht
      exact ⟨rfl, hsame, [], rfl⟩
  | cons op ops ih =>
      rw [run_cons] at hs ht
      obtain ⟨⟨reply, s₁⟩, hop, hs⟩ := Option.bind_eq_some_iff.mp hs
      obtain ⟨⟨rest, s₂⟩, hrest, heq⟩ := Option.bind_eq_some_iff.mp hs
      obtain ⟨⟨reply', t₁⟩, hop', ht⟩ := Option.bind_eq_some_iff.mp ht
      obtain ⟨⟨rest', t₂⟩, hrest', heq'⟩ := Option.bind_eq_some_iff.mp ht
      cases heq
      cases heq'
      have hstep := perform_agrees (hops op List.mem_cons_self) hsame hop hop'
      obtain ⟨first, hfirst⟩ := hstep.refreshed
      obtain ⟨hreplies, hsame', all, hall⟩ :=
        ih (fun op' hop' => hops op' (List.mem_cons_of_mem op hop')) hstep.same hrest hrest'
      refine ⟨?_, hsame', first ++ all, ?_⟩
      · rw [hreplies, show reply' = reply from hstep.reply]
      · rw [List.flatMap_cons]
        exact run_append _ hfirst hall

/-- **The two engines implement the same store, up to the parameters that `createConnection`
refreshes on MySQL.**  From the same contents, without SQL errors and without
`revokeRootGroupRead`, the results are the same, the contents differ in the connection
parameters at most, and MySQL's contents are those PostgreSQL reaches when every
`createConnection` is followed by `updateConnectionParams` with the same parameters. -/
theorem mySqlClient_refines (sha256 : String → String) (ops : List Operation) (s : Store)
    (hops : ∀ op ∈ ops, op.isRevokeRootGroupRead = false) (replies replies' : List Reply) (s' t' : Store)
    (hpg : (postgresClient sha256).run ops s = some (replies, s'))
    (hmy : (mySqlClient sha256).run ops s = some (replies', t')) :
    replies' = replies ∧ SameButParameters s' t' ∧ ∃ all,
      (postgresClient sha256).run (ops.flatMap Operation.refreshed) s = some (all, t') :=
  run_agrees hops (SameButParameters.refl s) hpg hmy

/-! ## A refreshed connection -/

structure StoreView where
  users : List (String × PasswordHash × Bool)
  connections : List (String × String × List (String × String))
  reads : List (String × String)
  deriving DecidableEq

def Store.view (s : Store) : StoreView where
  users := s.users.rows.flatMap fun u =>
    (s.entities.rows.filter fun e => decide (e.entityId = u.entityId)).map fun e =>
      (e.name, u.password, u.disabled)
  connections := s.connections.rows.map fun c => (c.connectionName, c.protocol,
    (s.connectionParameters.rows.filter fun p => decide (p.connectionId = c.connectionId)).map
      fun p => (p.parameterName, p.parameterValue))
  reads := (s.connectionPermissions.rows.filter fun p => decide (p.permission = .read)).flatMap
    fun p => (s.connections.rows.filter fun c => decide (c.connectionId = p.connectionId)).flatMap
      fun c => (s.entities.rows.filter fun e => decide (e.entityId = p.entityId)).map
        fun e => (c.connectionName, e.name)

def sampleParams (hostname : String) : Params :=
  ⟨[("hostname", hostname), ("port", "22")], by simp⟩

def sampleOperations : List Operation :=
  [.createUser "px_alice" "secret" "00", .createConnection "proxvm-web" "ssh" (sampleParams "10.0.0.5"),
    .grantConnectionRead "proxvm-web" "px_alice",
    .createConnection "proxvm-web" "ssh" (sampleParams "10.0.0.6")]

theorem mySqlClient_refines_sample : ∃ replies s' t',
    (postgresClient fun text => text).run sampleOperations Store.empty = some (replies, s') ∧
      (mySqlClient fun text => text).run sampleOperations Store.empty = some (replies, t') ∧
        SameButParameters s' t' := by
  have hpg : ((postgresClient fun text => text).run sampleOperations Store.empty).isSome = true := by
    decide +kernel
  have hmy : ((mySqlClient fun text => text).run sampleOperations Store.empty).isSome = true := by
    decide +kernel
  obtain ⟨⟨replies, s'⟩, hpg⟩ := Option.isSome_iff_exists.mp hpg
  obtain ⟨⟨replies', t'⟩, hmy⟩ := Option.isSome_iff_exists.mp hmy
  obtain ⟨rfl, hsame, -⟩ := mySqlClient_refines (fun text => text) sampleOperations Store.empty
    (by decide) replies replies' s' t' hpg hmy
  exact ⟨_, s', t', hpg, hmy, hsame⟩

/-- With `createConnection` on a name that exists the engines part. -/
theorem not_mySqlClient_agrees : ¬ ∀ (sha256 : String → String) (ops : List Operation) (s : Store)
    (replies replies' : List Reply) (s' t' : Store), (postgresClient sha256).run ops s = some (replies, s') →
      (mySqlClient sha256).run ops s = some (replies', t') → replies' = replies ∧ t'.view = s'.view := by
  intro hall
  have hpg : ((postgresClient fun text => text).run sampleOperations Store.empty).map
      (fun r => r.2.view.connections) =
        some [("proxvm-web", "ssh", [("hostname", "10.0.0.5"), ("port", "22")])] := by decide +kernel
  have hmy : ((mySqlClient fun text => text).run sampleOperations Store.empty).map
      (fun r => r.2.view.connections) =
        some [("proxvm-web", "ssh", [("hostname", "10.0.0.6"), ("port", "22")])] := by decide +kernel
  obtain ⟨⟨replies, s'⟩, hpg, hview⟩ := Option.map_eq_some_iff.mp hpg
  obtain ⟨⟨replies', t'⟩, hmy, hview'⟩ := Option.map_eq_some_iff.mp hmy
  have hagree := (hall _ _ _ replies replies' s' t' hpg hmy).2
  rw [hagree, hview] at hview'
  revert hview'
  decide

end ProxVM.Guac
