import Mathlib.Data.PNat.Basic
import ProxVM.Lib.Table

/-!
# The Guacamole database

The tables of Guacamole's own schema that `guacamole/db.ts` reads or
writes, and the statements it sends, one definition each.  Both engines run the same
statements up to placeholders; where they do not, the statement has two definitions.

A statement that the database refuses (a key that is taken, NULL in a key column, a scalar
subquery with several rows) is an SQL error, and a program of statements ends there.  The
foreign keys of the schema are `ON DELETE CASCADE`.  Serial and `AUTO_INCREMENT` columns
count from 1.
-/

namespace ProxVM.Guac

open Tables

/-! ## Tables -/

/-- `guacamole_entity_type`. -/
inductive EntityType
  | user
  | userGroup
  deriving DecidableEq, Repr

/-- A row of `guacamole_entity`. -/
structure EntityRow where
  entityId : ℕ+
  name : String
  type : EntityType
  deriving DecidableEq

/-- The columns `password_hash` and `password_salt`, the salt as the uppercase hexadecimal
text that is hashed with the password. -/
structure PasswordHash where
  hash : String
  salt : String
  deriving DecidableEq, Repr

/-- A row of `guacamole_user`. -/
structure UserRow where
  userId : ℕ+
  entityId : ℕ+
  password : PasswordHash
  disabled : Bool
  expired : Bool
  deriving DecidableEq

/-- A row of `guacamole_connection`. -/
structure ConnectionRow where
  connectionId : ℕ+
  connectionName : String
  parentId : Option ℕ+
  protocol : String
  deriving DecidableEq

/-- A row of `guacamole_connection_parameter`. -/
structure ConnectionParameterRow where
  connectionId : ℕ+
  parameterName : String
  parameterValue : String
  deriving DecidableEq

/-- `guacamole_object_permission_type`. -/
inductive ObjectPermission
  | read
  | update
  | delete
  | administer
  deriving DecidableEq, Repr

/-- A row of `guacamole_connection_permission`. -/
structure ConnectionPermissionRow where
  entityId : ℕ+
  connectionId : ℕ+
  permission : ObjectPermission
  deriving DecidableEq

/-- A row of `guacamole_connection_group`. -/
structure ConnectionGroupRow where
  connectionGroupId : ℕ+
  parentId : Option ℕ+
  deriving DecidableEq

/-- A row of `guacamole_connection_group_permission`. -/
structure ConnectionGroupPermissionRow where
  entityId : ℕ+
  connectionGroupId : ℕ+
  permission : ObjectPermission
  deriving DecidableEq

/-- A row of `guacamole_user_permission`. -/
structure UserPermissionRow where
  entityId : ℕ+
  affectedUserId : ℕ+
  permission : ObjectPermission
  deriving DecidableEq

def ConnectionParameterRow.key (r : ConnectionParameterRow) : ℕ+ × String :=
  (r.connectionId, r.parameterName)

structure Store where
  entities : Table EntityRow.entityId
  users : Table UserRow.userId
  connections : Table ConnectionRow.connectionId
  connectionParameters : Table ConnectionParameterRow.key
  connectionPermissions : Table (id : ConnectionPermissionRow → ConnectionPermissionRow)
  connectionGroups : Table ConnectionGroupRow.connectionGroupId
  connectionGroupPermissions :
    Table (id : ConnectionGroupPermissionRow → ConnectionGroupPermissionRow)
  userPermissions : Table (id : UserPermissionRow → UserPermissionRow)
  lastEntityId : Nat
  lastUserId : Nat
  lastConnectionId : Nat

def Store.empty : Store where
  entities := Table.empty
  users := Table.empty
  connections := Table.empty
  connectionParameters := Table.empty
  connectionPermissions := Table.empty
  connectionGroups := Table.empty
  connectionGroupPermissions := Table.empty
  userPermissions := Table.empty
  lastEntityId := 0
  lastUserId := 0
  lastConnectionId := 0

/-- `Record<string, string>`. -/
abbrev Params := Table (Prod.fst : String × String → String)

/-! ## Programs of statements -/

/-- Statements in sequence; `none` is an SQL error. -/
abbrev Sql (α : Type) := StateT Store Option α

def refused {α : Type} : Sql α := fun _ => none

/-- A `SELECT`. -/
def select {α : Type} (f : Store → α) : Sql α := fun s => some (f s, s)

def modify' (f : Store → Store) : Sql Unit := fun s => some ((), f s)

theorem bind_apply {α β : Type} (m : Sql α) (f : α → Sql β) (s : Store) :
    (m >>= f) s = (m s).bind fun r => f r.1 r.2 := rfl

def scalar {α : Type} : List α → Sql (Option α)
  | [] => pure none
  | [a] => pure (some a)
  | _ :: _ :: _ => refused

/-! ## Selections -/

def Store.entitiesNamed (s : Store) (name : String) : List EntityRow :=
  s.entities.rows.filter fun e => decide (e.name = name) && decide (e.type = .user)

def Store.connectionsNamed (s : Store) (name : String) : List ConnectionRow :=
  s.connections.rows.filter fun c => decide (c.connectionName = name)

/-- The `guacamole_user` row of an entity. -/
def Store.userOf (s : Store) (entityId : ℕ+) : Option UserRow :=
  s.users.rows.find? fun u => decide (u.entityId = entityId)

/-- `(SELECT entity_id FROM guacamole_entity WHERE name = … AND type = 'USER')`. -/
def selectEntityId (name : String) : Sql (Option ℕ+) := do
  let rows ← select fun s => s.entitiesNamed name
  scalar (rows.map EntityRow.entityId)

/-- `(SELECT connection_id FROM guacamole_connection WHERE connection_name = …)`. -/
def selectConnectionId (name : String) : Sql (Option ℕ+) := do
  let rows ← select fun s => s.connectionsNamed name
  scalar (rows.map ConnectionRow.connectionId)

def Store.rootGroup (s : Store) : Option ℕ+ :=
  ((s.connectionGroups.rows.filter fun g => decide (g.parentId = none)).map
    ConnectionGroupRow.connectionGroupId).min?

/-! ## Statements on users -/

/-- `INSERT INTO guacamole_entity`; `(type, name)` is unique. -/
def insertEntity (name : String) : Sql ℕ+ := fun s =>
  if (s.entitiesNamed name).isEmpty then
    (s.entities.insert? ⟨s.lastEntityId.succPNat, name, .user⟩).map fun entities =>
      (s.lastEntityId.succPNat, { s with entities, lastEntityId := s.lastEntityId + 1 })
  else
    none

/-- `INSERT INTO guacamole_user`; `entity_id` is unique. -/
def insertUser (entityId : ℕ+) (password : PasswordHash) : Sql ℕ+ := fun s =>
  if (s.userOf entityId).isNone then
    (s.users.insert? ⟨s.lastUserId.succPNat, entityId, password, false, false⟩).map fun users =>
      (s.lastUserId.succPNat, { s with users, lastUserId := s.lastUserId + 1 })
  else
    none

/-- `UPDATE guacamole_user SET password_hash = …, password_salt = … WHERE entity_id = …`. -/
def updateUserPassword (entityId : Option ℕ+) (password : PasswordHash) : Sql Unit :=
  modify' fun s => { s with
    users := s.users.updateWhere (fun u => decide (some u.entityId = entityId))
      (fun u => { u with password }) fun _ => rfl }

/-- `UPDATE guacamole_user SET disabled = … WHERE entity_id = …`. -/
def updateUserDisabled (entityId : Option ℕ+) (disabled : Bool) : Sql Unit :=
  modify' fun s => { s with
    users := s.users.updateWhere (fun u => decide (some u.entityId = entityId))
      (fun u => { u with disabled }) fun _ => rfl }

/-- `DELETE FROM guacamole_user_permission WHERE entity_id = …`. -/
def deleteUserPermissions (entityId : Option ℕ+) : Sql Unit :=
  modify' fun s => { s with
    userPermissions := s.userPermissions.deleteWhere fun p => decide (some p.entityId = entityId) }

/-- `DELETE FROM guacamole_connection_permission WHERE entity_id = …`. -/
def deleteConnectionPermissions (entityId : Option ℕ+) : Sql Unit :=
  modify' fun s => { s with
    connectionPermissions := s.connectionPermissions.deleteWhere fun p =>
      decide (some p.entityId = entityId) }

/-- `DELETE FROM guacamole_connection_group_permission WHERE entity_id = …`. -/
def deleteConnectionGroupPermissions (entityId : Option ℕ+) : Sql Unit :=
  modify' fun s => { s with
    connectionGroupPermissions := s.connectionGroupPermissions.deleteWhere fun p =>
      decide (some p.entityId = entityId) }

/-- `DELETE FROM guacamole_user WHERE entity_id = …`, with the permissions on the users. -/
def deleteUserRows (entityId : Option ℕ+) : Sql Unit :=
  modify' fun s => { s with
    users := s.users.deleteWhere fun u => decide (some u.entityId = entityId)
    userPermissions := s.userPermissions.deleteWhere fun p =>
      s.users.rows.any fun u => decide (some u.entityId = entityId) &&
        decide (u.userId = p.affectedUserId) }

/-- `DELETE FROM guacamole_entity WHERE name = … AND type = 'USER'`, with what refers to the
entities. -/
def deleteEntities (name : String) : Sql Unit :=
  modify' fun s =>
    let gone := fun id => (s.entitiesNamed name).any fun e => decide (e.entityId = id)
    { s with
      entities := s.entities.deleteWhere fun e => decide (e.name = name) && decide (e.type = .user)
      users := s.users.deleteWhere fun u => gone u.entityId
      connectionPermissions := s.connectionPermissions.deleteWhere fun p => gone p.entityId
      connectionGroupPermissions := s.connectionGroupPermissions.deleteWhere fun p =>
        gone p.entityId
      userPermissions := s.userPermissions.deleteWhere fun p => gone p.entityId ||
        s.users.rows.any fun u => gone u.entityId && decide (u.userId = p.affectedUserId) }

/-! ## Statements on connections -/

/-- `INSERT INTO guacamole_connection (connection_name, parent_id, protocol)` with a NULL
parent, which leaves `(connection_name, parent_id)` without a unique constraint. -/
def insertConnection (name protocol : String) : Sql ℕ+ := fun s =>
  (s.connections.insert? ⟨s.lastConnectionId.succPNat, name, none, protocol⟩).map fun connections =>
    (s.lastConnectionId.succPNat,
      { s with connections, lastConnectionId := s.lastConnectionId + 1 })

/-- `INSERT INTO guacamole_connection_parameter`. -/
def insertParameter (connectionId : ℕ+) (name value : String) : Sql Unit := fun s =>
  (s.connectionParameters.insert? ⟨connectionId, name, value⟩).map fun connectionParameters =>
    ((), { s with connectionParameters })

/-- `INSERT INTO guacamole_connection_parameter … DO UPDATE SET parameter_value`, which is
`ON DUPLICATE KEY UPDATE` in the other dialect. -/
def upsertParameter (connectionId : ℕ+) (name value : String) : Sql Unit :=
  modify' fun s => { s with
    connectionParameters := s.connectionParameters.put ⟨connectionId, name, value⟩ }

/-- `DELETE FROM guacamole_connection WHERE connection_name = …`, with what refers to the
connections; the number of rows deleted. -/
def deleteConnections (name : String) : Sql Nat := fun s =>
  let gone := fun id => (s.connectionsNamed name).any fun c => decide (c.connectionId = id)
  some ((s.connectionsNamed name).length, { s with
    connections := s.connections.deleteWhere fun c => decide (c.connectionName = name)
    connectionParameters := s.connectionParameters.deleteWhere fun p => gone p.connectionId
    connectionPermissions := s.connectionPermissions.deleteWhere fun p => gone p.connectionId })

/-! ## Statements on permissions -/

/-- `INSERT INTO guacamole_connection_permission … ON CONFLICT DO NOTHING`. -/
def insertConnectionPermission (connectionId entityId : Option ℕ+) : Sql Unit :=
  match connectionId, entityId with
  | some connectionId, some entityId => modify' fun s => { s with
      connectionPermissions := s.connectionPermissions.put ⟨entityId, connectionId, .read⟩ }
  | _, _ => refused

/-- `INSERT IGNORE INTO guacamole_connection_permission`. -/
def insertIgnoreConnectionPermission (connectionId entityId : Option ℕ+) : Sql Unit :=
  match connectionId, entityId with
  | some connectionId, some entityId => modify' fun s => { s with
      connectionPermissions := s.connectionPermissions.put ⟨entityId, connectionId, .read⟩ }
  | _, _ => pure ()

/-- `DELETE FROM guacamole_connection_permission WHERE connection_id = … AND entity_id = …`. -/
def deleteConnectionPermission (connectionId entityId : Option ℕ+) : Sql Unit :=
  modify' fun s => { s with
    connectionPermissions := s.connectionPermissions.deleteWhere fun p =>
      decide (some p.connectionId = connectionId) && decide (some p.entityId = entityId) }

/-- `INSERT INTO guacamole_connection_group_permission … ON CONFLICT DO NOTHING`. -/
def insertConnectionGroupPermission (connectionGroupId entityId : Option ℕ+) : Sql Unit :=
  match connectionGroupId, entityId with
  | some connectionGroupId, some entityId => modify' fun s => { s with
      connectionGroupPermissions :=
        s.connectionGroupPermissions.put ⟨entityId, connectionGroupId, .read⟩ }
  | _, _ => refused

/-- `INSERT IGNORE INTO guacamole_connection_group_permission`. -/
def insertIgnoreConnectionGroupPermission (connectionGroupId entityId : Option ℕ+) : Sql Unit :=
  match connectionGroupId, entityId with
  | some connectionGroupId, some entityId => modify' fun s => { s with
      connectionGroupPermissions :=
        s.connectionGroupPermissions.put ⟨entityId, connectionGroupId, .read⟩ }
  | _, _ => pure ()

/-- The value of a scalar subquery under `IGNORE`, where several rows are a warning and the
value is NULL. -/
def scalarIgnore {α : Type} : List α → Option α
  | [a] => some a
  | _ => none

end ProxVM.Guac
