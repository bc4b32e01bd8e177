import ProxVM.Guacamole.Engines

/-!
# Granting and revoking

What the four operations on permissions do to the permissions of all the users.  `revokeConnectionAccess` drops
every kind of permission on the connection.  `revokeRootGroupRead` drops all the group permissions of the user on
MySQL; on PostgreSQL it deletes from the other table, and so drops the user's permissions on connections.
-/

namespace ProxVM.Guac

open Tables

/-! ## The permission in question -/

namespace Store

variable (s : Store) (connectionName guacUsername : String)

def entityId : Option ℕ+ := scalarIgnore ((s.entitiesNamed guacUsername).map EntityRow.entityId)

def connectionId : Option ℕ+ := scalarIgnore ((s.connectionsNamed connectionName).map ConnectionRow.connectionId)

def connectionRead : Option ConnectionPermissionRow :=
  (s.entityId guacUsername).bind fun e => (s.connectionId connectionName).map fun c => ⟨e, c, .read⟩

def rootRead : Option ConnectionGroupPermissionRow :=
  (s.entityId guacUsername).bind fun e => s.rootGroup.map fun g => ⟨e, g, .read⟩

end Store

def ConnectionsBecome (s s' : Store) (rows : ConnectionPermissionRow → Prop) : Prop :=
  (∀ p, p ∈ s'.connectionPermissions ↔ rows p) ∧ s' = { s with connectionPermissions := s'.connectionPermissions }

def GroupsBecome (s s' : Store) (rows : ConnectionGroupPermissionRow → Prop) : Prop :=
  (∀ p, p ∈ s'.connectionGroupPermissions ↔ rows p) ∧
    s' = { s with connectionGroupPermissions := s'.connectionGroupPermissions }

/-- Whenever the operations are carried out, they add or remove the permission in question and nothing else, also
one after the other. -/
structure Framed (client : GuacamoleDbClient) (s : Store) (connectionName guacUsername : String) : Prop where
  grantConnection : ∀ s', client.grantConnectionRead connectionName guacUsername s = some ((), s') →
    ConnectionsBecome s s' fun p => p ∈ s.connectionPermissions ∨ some p = s.connectionRead connectionName guacUsername
  revokeConnection : ∀ s', client.revokeConnectionAccess connectionName guacUsername s = some ((), s') →
    ConnectionsBecome s s' fun p => p ∈ s.connectionPermissions ∧ some p ≠ s.connectionRead connectionName guacUsername
  connection : ∀ s₁ s₂, client.grantConnectionRead connectionName guacUsername s = some ((), s₁) →
    client.revokeConnectionAccess connectionName guacUsername s₁ = some ((), s₂) →
      ConnectionsBecome s s₂ fun p => p ∈ s.connectionPermissions ∧ some p ≠ s.connectionRead connectionName guacUsername
  grantRoot : ∀ s', client.grantRootGroupRead guacUsername s = some ((), s') →
    GroupsBecome s s' fun p => p ∈ s.connectionGroupPermissions ∨ some p = s.rootRead guacUsername
  revokeRoot : ∀ s', client.revokeRootGroupRead guacUsername s = some ((), s') →
    GroupsBecome s s' fun p => p ∈ s.connectionGroupPermissions ∧ some p ≠ s.rootRead guacUsername
  root : ∀ s₁ s₂, client.grantRootGroupRead guacUsername s = some ((), s₁) →
    client.revokeRootGroupRead guacUsername s₁ = some ((), s₂) →
      GroupsBecome s s₂ fun p => p ∈ s.connectionGroupPermissions ∧ some p ≠ s.rootRead guacUsername

variable {s s' s₁ s₂ : Store} {connectionName guacUsername : String} {e c : ℕ+}

/-! ## What the operations do -/

theorem eq_singleton_of_scalarIgnore {α : Type} {xs : List α} {a : α} (h : scalarIgnore xs = some a) : xs = [a] := by
  match xs, h with
  | [_], rfl => rfl

theorem selectEntityId_eq_some {r : Option ℕ+ × Store} (hrun : selectEntityId guacUsername s = some r) :
    r = (s.entityId guacUsername, s) :=
  scalar_eq_some hrun

theorem selectEntityId_of_some (he : s.entityId guacUsername = some e) :
    selectEntityId guacUsername s = some (some e, s) := by
  rw [selectEntityId, bind_apply, select, Option.bind_some, eq_singleton_of_scalarIgnore he]
  rfl

theorem selectConnectionId_of_some (hc : s.connectionId connectionName = some c) :
    selectConnectionId connectionName s = some (some c, s) := by
  rw [selectConnectionId, bind_apply, select, Option.bind_some, eq_singleton_of_scalarIgnore hc]
  rfl

namespace GuacamoleMySqlClient

theorem grantConnectionRead_become (hrun : grantConnectionRead connectionName guacUsername s = some ((), s')) :
    ConnectionsBecome s s' fun p => p ∈ s.connectionPermissions ∨ some p = s.connectionRead connectionName guacUsername := by
  have hinsert : insertIgnoreConnectionPermission (s.connectionId connectionName) (s.entityId guacUsername) s =
      some ((), s') := hrun
  unfold Store.connectionRead
  cases hc : s.connectionId connectionName with
  | none =>
      rw [hc] at hinsert
      cases hinsert
      refine ⟨fun p => ?_, rfl⟩
      cases s.entityId guacUsername <;> simp
  | some c =>
      cases he : s.entityId guacUsername with
      | none =>
          rw [hc, he] at hinsert
          cases hinsert
          exact ⟨fun p => by simp, rfl⟩
      | some e =>
          rw [hc, he] at hinsert
          cases hinsert
          exact ⟨fun p => by simp [Table.mem_put]; tauto, rfl⟩

theorem grantRootGroupRead_become (hrun : grantRootGroupRead guacUsername s = some ((), s')) :
    GroupsBecome s s' fun p => p ∈ s.connectionGroupPermissions ∨ some p = s.rootRead guacUsername := by
  have hinsert : insertIgnoreConnectionGroupPermission s.rootGroup (s.entityId guacUsername) s = some ((), s') := hrun
  unfold Store.rootRead
  cases hg : s.rootGroup with
  | none =>
      rw [hg] at hinsert
      cases hinsert
      refine ⟨fun p => ?_, rfl⟩
      cases s.entityId guacUsername <;> simp
  | some g =>
      cases he : s.entityId guacUsername with
      | none =>
          rw [hg, he] at hinsert
          cases hinsert
          exact ⟨fun p => by simp, rfl⟩
      | some e =>
          rw [hg, he] at hinsert
          cases hinsert
          exact ⟨fun p => by simp [Table.mem_put]; tauto, rfl⟩

end GuacamoleMySqlClient

/-- The rows that `revokeConnectionAccess` deletes. -/
def ofAccess (s : Store) (connectionName guacUsername : String) (p : ConnectionPermissionRow) : Prop :=
  some p.connectionId = s.connectionId connectionName ∧ some p.entityId = s.entityId guacUsername

theorem revokeConnectionAccess_become
    (hrun : GuacamoleMySqlClient.revokeConnectionAccess connectionName guacUsername s = some ((), s')) :
    ConnectionsBecome s s' fun p => p ∈ s.connectionPermissions ∧ ¬ ofAccess s connectionName guacUsername p := by
  rw [GuacamoleMySqlClient.revokeConnectionAccess, bind_apply] at hrun
  obtain ⟨r₁, hconnection, hrun⟩ := Option.bind_eq_some_iff.mp hrun
  obtain rfl := scalar_eq_some hconnection
  rw [bind_apply] at hrun
  obtain ⟨r₂, hentity, hrun⟩ := Option.bind_eq_some_iff.mp hrun
  obtain rfl := selectEntityId_eq_some hentity
  cases hrun
  refine ⟨fun p => ?_, rfl⟩
  simp only [Table.mem_deleteWhere, ofAccess, Bool.and_eq_false_iff, decide_eq_false_iff_not, not_and_or]
  rfl

theorem revokeConnectionAccess_runs (hc : s.connectionId connectionName = some c) (he : s.entityId guacUsername = some e) :
    ∃ s', GuacamoleMySqlClient.revokeConnectionAccess connectionName guacUsername s = some ((), s') := by
  rw [GuacamoleMySqlClient.revokeConnectionAccess, bind_apply, selectConnectionId_of_some hc, Option.bind_some,
    bind_apply, selectEntityId_of_some he]
  exact ⟨_, rfl⟩

theorem revokeRootGroupRead_become (hrun : GuacamoleMySqlClient.revokeRootGroupRead guacUsername s = some ((), s')) :
    GroupsBecome s s' fun p => p ∈ s.connectionGroupPermissions ∧ ¬ some p.entityId = s.entityId guacUsername := by
  rw [GuacamoleMySqlClient.revokeRootGroupRead, bind_apply] at hrun
  obtain ⟨r, hentity, hrun⟩ := Option.bind_eq_some_iff.mp hrun
  obtain rfl := selectEntityId_eq_some hentity
  cases hrun
  exact ⟨fun p => Table.mem_deleteWhere.trans (and_congr_right fun _ => decide_eq_false_iff_not), rfl⟩

theorem revokeRootGroupRead_runs (he : s.entityId guacUsername = some e) :
    ∃ s', GuacamoleMySqlClient.revokeRootGroupRead guacUsername s = some ((), s') := by
  rw [GuacamoleMySqlClient.revokeRootGroupRead, bind_apply, selectEntityId_of_some he]
  exact ⟨_, rfl⟩

/-! ## What they should remove -/

theorem removed_iff {ρ κ : Type} {key : ρ → κ} {t : Table key} {q : Option ρ} {gone : ρ → Prop}
    (hq : ∀ p, some p = q → gone p) :
    (∀ p, (p ∈ t ∧ ¬ gone p ↔ p ∈ t ∧ some p ≠ q)) ↔ ∀ p ∈ t, gone p → some p = q := by
  constructor
  · intro hsame p hp hgone
    by_contra hne
    exact ((hsame p).mpr ⟨hp, hne⟩).2 hgone
  · exact fun hall p => and_congr_right fun hp => not_congr ⟨hall p hp, hq p⟩

theorem ofAccess_of_connectionRead {p : ConnectionPermissionRow}
    (hread : some p = s.connectionRead connectionName guacUsername) : ofAccess s connectionName guacUsername p := by
  obtain ⟨e, he, hmap⟩ := Option.bind_eq_some_iff.mp hread.symm
  obtain ⟨c, hc, rfl⟩ := Option.map_eq_some_iff.mp hmap
  exact ⟨hc.symm, he.symm⟩

theorem entityId_of_rootRead {p : ConnectionGroupPermissionRow} (hread : some p = s.rootRead guacUsername) :
    some p.entityId = s.entityId guacUsername := by
  obtain ⟨e, he, hmap⟩ := Option.bind_eq_some_iff.mp hread.symm
  obtain ⟨g, -, rfl⟩ := Option.map_eq_some_iff.mp hmap
  exact he.symm

def OnlyRead (s : Store) (connectionName guacUsername : String) : Prop :=
  ∀ p ∈ s.connectionPermissions, ofAccess s connectionName guacUsername p → some p = s.connectionRead connectionName guacUsername

def OnlyRootRead (s : Store) (guacUsername : String) : Prop :=
  ∀ p ∈ s.connectionGroupPermissions, some p.entityId = s.entityId guacUsername → some p = s.rootRead guacUsername

theorem revokeConnectionAccess_removes_iff :
    (∀ s', GuacamoleMySqlClient.revokeConnectionAccess connectionName guacUsername s = some ((), s') →
      ConnectionsBecome s s' fun p => p ∈ s.connectionPermissions ∧ some p ≠ s.connectionRead connectionName guacUsername) ↔
      OnlyRead s connectionName guacUsername := by
  have hsame := removed_iff (t := s.connectionPermissions) fun p (hread : some p =
    s.connectionRead connectionName guacUsername) => ofAccess_of_connectionRead hread
  constructor
  · intro hall p hp haccess
    obtain ⟨s', hrun⟩ := revokeConnectionAccess_runs haccess.1.symm haccess.2.symm
    refine hsame.mp (fun r => ?_) p hp haccess
    exact ((revokeConnectionAccess_become hrun).1 r).symm.trans ((hall s' hrun).1 r)
  · intro honly s' hrun
    obtain ⟨hrows, hrest⟩ := revokeConnectionAccess_become hrun
    exact ⟨fun p => (hrows p).trans (hsame.mpr honly p), hrest⟩

theorem revokeRootGroupRead_removes_iff :
    (∀ s', GuacamoleMySqlClient.revokeRootGroupRead guacUsername s = some ((), s') →
      GroupsBecome s s' fun p => p ∈ s.connectionGroupPermissions ∧ some p ≠ s.rootRead guacUsername) ↔
      OnlyRootRead s guacUsername := by
  have hsame := removed_iff (t := s.connectionGroupPermissions) fun p (hread : some p =
    s.rootRead guacUsername) => entityId_of_rootRead hread
  constructor
  · intro hall p hp hentity
    obtain ⟨s', hrun⟩ := revokeRootGroupRead_runs hentity.symm
    refine hsame.mp (fun r => ?_) p hp hentity
    exact ((revokeRootGroupRead_become hrun).1 r).symm.trans ((hall s' hrun).1 r)
  · intro honly s' hrun
    obtain ⟨hrows, hrest⟩ := revokeRootGroupRead_become hrun
    exact ⟨fun p => (hrows p).trans (hsame.mpr honly p), hrest⟩

theorem connection_undone (honly : OnlyRead s connectionName guacUsername)
    (hgrant : GuacamoleMySqlClient.grantConnectionRead connectionName guacUsername s = some ((), s₁))
    (hrevoke : GuacamoleMySqlClient.revokeConnectionAccess connectionName guacUsername s₁ = some ((), s₂)) :
    ConnectionsBecome s s₂ fun p => p ∈ s.connectionPermissions ∧ some p ≠ s.connectionRead connectionName guacUsername := by
  obtain ⟨hgranted, hs₁⟩ := GuacamoleMySqlClient.grantConnectionRead_become hgrant
  obtain ⟨hrevoked, hs₂⟩ := revokeConnectionAccess_become hrevoke
  have haccess : ofAccess s₁ connectionName guacUsername = ofAccess s connectionName guacUsername := by
    rw [hs₁]
    rfl
  refine ⟨fun p => (hrevoked p).trans ?_, by rw [hs₂, hs₁]⟩
  rw [haccess]
  refine (and_congr_left' (hgranted p)).trans ?_
  constructor
  · rintro ⟨hp | hread, hnot⟩
    · exact ⟨hp, fun hread => hnot (ofAccess_of_connectionRead hread)⟩
    · exact absurd (ofAccess_of_connectionRead hread) hnot
  · exact fun ⟨hp, hne⟩ => ⟨.inl hp, fun hgone => hne (honly p hp hgone)⟩

theorem root_undone (honly : OnlyRootRead s guacUsername)
    (hgrant : GuacamoleMySqlClient.grantRootGroupRead guacUsername s = some ((), s₁))
    (hrevoke : GuacamoleMySqlClient.revokeRootGroupRead guacUsername s₁ = some ((), s₂)) :
    GroupsBecome s s₂ fun p => p ∈ s.connectionGroupPermissions ∧ some p ≠ s.rootRead guacUsername := by
  obtain ⟨hgranted, hs₁⟩ := GuacamoleMySqlClient.grantRootGroupRead_become hgrant
  obtain ⟨hrevoked, hs₂⟩ := revokeRootGroupRead_become hrevoke
  have hentity : s₁.entityId guacUsername = s.entityId guacUsername := by
    rw [hs₁]
    rfl
  refine ⟨fun p => (hrevoked p).trans ?_, by rw [hs₂, hs₁]⟩
  rw [hentity]
  refine (and_congr_left' (hgranted p)).trans ?_
  constructor
  · rintro ⟨hp | hread, hnot⟩
    · exact ⟨hp, fun hread => hnot (entityId_of_rootRead hread)⟩
    · exact absurd (entityId_of_rootRead hread) hnot
  · exact fun ⟨hp, hne⟩ => ⟨.inl hp, fun hgone => hne (honly p hp hgone)⟩

variable {sha256 : String → String}

theorem framed_mySqlClient_iff : Framed (mySqlClient sha256) s connectionName guacUsername ↔
      OnlyRead s connectionName guacUsername ∧ OnlyRootRead s guacUsername := by
  constructor
  · intro hframed
    exact ⟨revokeConnectionAccess_removes_iff.mp hframed.revokeConnection,
      revokeRootGroupRead_removes_iff.mp hframed.revokeRoot⟩
  · rintro ⟨honly, hroot⟩
    exact
      { grantConnection := fun _ => GuacamoleMySqlClient.grantConnectionRead_become
        revokeConnection := revokeConnectionAccess_removes_iff.mpr honly
        connection := fun _ _ => connection_undone honly
        grantRoot := fun _ => GuacamoleMySqlClient.grantRootGroupRead_become
        revokeRoot := revokeRootGroupRead_removes_iff.mpr hroot
        root := fun _ _ => root_undone hroot }

/-! ## PostgreSQL -/

namespace GuacamolePostgresClient

theorem revokeRootGroupRead_connections (hrun : revokeRootGroupRead guacUsername s = some ((), s')) :
    s' = { s with
      connectionPermissions := s.connectionPermissions.deleteWhere fun p =>
        decide (some p.entityId = s.entityId guacUsername) } := by
  rw [revokeRootGroupRead, bind_apply] at hrun
  obtain ⟨r, hentity, hrun⟩ := Option.bind_eq_some_iff.mp hrun
  obtain rfl := selectEntityId_eq_some hentity
  cases hrun
  rfl

theorem revokeRootGroupRead_runs (he : s.entityId guacUsername = some e) :
    ∃ s', revokeRootGroupRead guacUsername s = some ((), s') := by
  rw [revokeRootGroupRead, bind_apply, selectEntityId_of_some he]
  exact ⟨_, rfl⟩

theorem grantRootGroupRead_runs_iff : (∃ s', grantRootGroupRead guacUsername s = some ((), s')) ↔
    ∃ p, s.rootRead guacUsername = some p := by
  unfold Store.rootRead grantRootGroupRead
  rw [bind_apply, select, Option.bind_some, bind_apply]
  constructor
  · rintro ⟨s', hrun⟩
    obtain ⟨r, hentity, hinsert⟩ := Option.bind_eq_some_iff.mp hrun
    obtain rfl := selectEntityId_eq_some hentity
    cases hg : s.rootGroup with
    | none =>
        rw [hg] at hinsert
        cases hinsert
    | some g =>
        cases he : s.entityId guacUsername with
        | none =>
            rw [hg, he] at hinsert
            cases hinsert
        | some e => exact ⟨⟨e, g, .read⟩, rfl⟩
  · rintro ⟨p, hread⟩
    obtain ⟨e, he, hmap⟩ := Option.bind_eq_some_iff.mp hread
    obtain ⟨g, hg, -⟩ := Option.map_eq_some_iff.mp hmap
    rw [selectEntityId_of_some he, hg]
    exact ⟨_, rfl⟩

end GuacamolePostgresClient

theorem deleteWhere_eq_self {ρ κ : Type} {key : ρ → κ} {t : Table key} {gone : ρ → Bool}
    (hnone : ∀ r ∈ t, gone r = false) : t.deleteWhere gone = t := by
  have hrows : t.rows.filter (fun r => !gone r) = t.rows := List.filter_eq_self.mpr fun r hr => by rw [hnone r hr]; rfl
  unfold Table.deleteWhere
  cases t
  simp only [hrows]

theorem framed_postgresClient_iff : Framed (postgresClient sha256) s connectionName guacUsername ↔
      s.rootRead guacUsername = none ∧
        ∀ p ∈ s.connectionPermissions, some p.entityId ≠ s.entityId guacUsername := by
  constructor
  · intro hframed
    constructor
    · by_contra hsome
      obtain ⟨p, hread⟩ := Option.ne_none_iff_exists'.mp hsome
      obtain ⟨s₁, hgrant⟩ := GuacamolePostgresClient.grantRootGroupRead_runs_iff.mpr ⟨p, hread⟩
      obtain ⟨hgranted, hs₁⟩ := hframed.grantRoot s₁ hgrant
      have hentity : s₁.entityId guacUsername = some p.entityId := by
        rw [hs₁]
        exact (entityId_of_rootRead hread.symm).symm
      obtain ⟨s₂, hrevoke⟩ := GuacamolePostgresClient.revokeRootGroupRead_runs hentity
      have hkept : p ∈ s₂.connectionGroupPermissions := by
        rw [GuacamolePostgresClient.revokeRootGroupRead_connections hrevoke]
        exact (hgranted p).mpr (.inr hread.symm)
      exact (((hframed.root s₁ s₂ hgrant hrevoke).1 p).mp hkept).2 hread.symm
    · intro p hp hentity
      obtain ⟨s', hrevoke⟩ := GuacamolePostgresClient.revokeRootGroupRead_runs hentity.symm
      have hsame : s'.connectionPermissions = s.connectionPermissions := by rw [(hframed.revokeRoot s' hrevoke).2]
      rw [GuacamolePostgresClient.revokeRootGroupRead_connections hrevoke] at hsame
      rw [← hsame] at hp
      exact of_decide_eq_false (Table.mem_deleteWhere.mp hp).2 hentity
  · rintro ⟨hnone, hfree⟩
    have honly : OnlyRead s connectionName guacUsername := fun p hp haccess => absurd haccess.2 (hfree p hp)
    exact
      { grantConnection := fun _ hrun =>
          GuacamoleMySqlClient.grantConnectionRead_become (grantConnectionRead_agree hrun)
        revokeConnection := revokeConnectionAccess_removes_iff.mpr honly
        connection := fun _ _ hgrant hrevoke => connection_undone honly (grantConnectionRead_agree hgrant) hrevoke
        grantRoot := fun _ hrun => GuacamoleMySqlClient.grantRootGroupRead_become (grantRootGroupRead_agree hrun)
        revokeRoot := fun s' hrun => by
          have hself : s' = s := by
            rw [GuacamolePostgresClient.revokeRootGroupRead_connections hrun,
              deleteWhere_eq_self fun p hp => decide_eq_false (hfree p hp)]
          rw [hself, hnone]
          exact ⟨fun p => by simp, rfl⟩
        root := fun s₁ _ hgrant _ => by
          obtain ⟨p, hread⟩ := GuacamolePostgresClient.grantRootGroupRead_runs_iff.mp ⟨s₁, hgrant⟩
          rw [hnone] at hread
          cases hread }

/-- **When the operations undo each other and touch nothing else.**  On MySQL: to read is all that the user may do
with the connection and with groups. -/
theorem framed_iff (sha256 : String → String) (s : Store) (connectionName guacUsername : String) :
    (Framed (mySqlClient sha256) s connectionName guacUsername ↔
      OnlyRead s connectionName guacUsername ∧ OnlyRootRead s guacUsername) ∧
    (Framed (postgresClient sha256) s connectionName guacUsername ↔
      s.rootRead guacUsername = none ∧ ∀ p ∈ s.connectionPermissions, some p.entityId ≠ s.entityId guacUsername) :=
  ⟨framed_mySqlClient_iff, framed_postgresClient_iff⟩

def rootedStore : Store :=
  { Store.empty with
    entities := ⟨[⟨Nat.succPNat 0, "alice", .user⟩], by decide⟩
    connectionGroups := ⟨[⟨Nat.succPNat 0, none⟩], by decide⟩ }

theorem not_framed_rootedStore :
    ¬ ∀ (sha256 : String → String) (s : Store) (connectionName guacUsername : String),
      Framed (mySqlClient sha256) s connectionName guacUsername ∧
        Framed (postgresClient sha256) s connectionName guacUsername := by
  intro hall
  have hnone : rootedStore.rootRead "alice" = none := (framed_postgresClient_iff.mp (hall id rootedStore "vm" "alice").2).1
  exact absurd hnone (by decide)

end ProxVM.Guac
