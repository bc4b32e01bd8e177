import ProxVM.Guacamole.Schema

/-!
# The two database clients

`GuacamolePostgresClient` and `GuacamoleMySqlClient` of `guacamole/db.ts`,
method by method.  A method is a program of statements: `none` when the database refuses one
of them, otherwise what the method returns or throws and the contents it leaves.

Both clients draw a fresh salt for every password they hash.  The salt is an argument here,
so that two runs can be compared under the same draws.
-/

namespace ProxVM.Guac

open Tables

structure GuacamoleDbError where
  message : String
  deriving DecidableEq, Repr

/-- `sha256SaltedHashPassword`: the password and the salt, hashed together. -/
def sha256SaltedHashPassword (sha256 : String → String) (password salt : String) : PasswordHash :=
  ⟨sha256 (password ++ salt), salt⟩

/-- `GuacamoleDbClient`, the methods that write. -/
structure GuacamoleDbClient where
  createUser : (username password salt : String) → Sql Nat
  setUserPassword : (username password salt : String) → Sql Unit
  setUserDisabled : (username : String) → (disabled : Bool) → Sql Unit
  deleteUser : (username : String) → Sql Unit
  createConnection : (name protocol : String) → (params : Params) →
    Sql (Except GuacamoleDbError ℕ+)
  updateConnectionParams : (connectionName : String) → (params : Params) →
    Sql (Except GuacamoleDbError Unit)
  deleteConnection : (connectionName : String) → Sql Bool
  grantConnectionRead : (connectionName guacUsername : String) → Sql Unit
  revokeConnectionAccess : (connectionName guacUsername : String) → Sql Unit
  grantRootGroupRead : (guacUsername : String) → Sql Unit
  revokeRootGroupRead : (guacUsername : String) → Sql Unit

/-- The entities of the name, each with the id of its user: the `LEFT JOIN` of `createUser`. -/
def Store.usersNamed (s : Store) (name : String) : List (ℕ+ × Option ℕ+) :=
  (s.entitiesNamed name).map fun e => (e.entityId, (s.userOf e.entityId).map UserRow.userId)

/-- `Number(value ?? 0)`, of an id that may be NULL. -/
def numberOf (id : Option ℕ+) : Nat := id.elim 0 PNat.val

/-! ## PostgreSQL -/

namespace GuacamolePostgresClient

variable (sha256 : String → String)

def createUser (username password salt : String) : Sql Nat := do
  let existing ← select fun s => s.usersNamed username
  match existing with
  | row :: _ => pure (numberOf row.2)
  | [] => do
    let entityId ← insertEntity username
    let userId ← insertUser entityId (sha256SaltedHashPassword sha256 password salt)
    pure userId.val

def setUserPassword (username password salt : String) : Sql Unit := do
  let entityId ← selectEntityId username
  updateUserPassword entityId (sha256SaltedHashPassword sha256 password salt)

def setUserDisabled (username : String) (disabled : Bool) : Sql Unit := do
  let entityId ← selectEntityId username
  updateUserDisabled entityId disabled

def deleteUser (username : String) : Sql Unit := do
  let entityId ← selectEntityId username
  deleteUserPermissions entityId
  let entityId ← selectEntityId username
  deleteConnectionPermissions entityId
  let entityId ← selectEntityId username
  deleteConnectionGroupPermissions entityId
  let entityId ← selectEntityId username
  deleteUserRows entityId
  deleteEntities username

def createConnection (name protocol : String) (params : Params) :
    Sql (Except GuacamoleDbError ℕ+) := do
  let existing ← select fun s => s.connectionsNamed name
  match existing with
  | row :: _ => pure (.ok row.connectionId)
  | [] => do
    let connectionId ← insertConnection name protocol
    forM params.rows fun entry => insertParameter connectionId entry.1 entry.2
    pure (.ok connectionId)

def updateConnectionParams (connectionName : String) (params : Params) :
    Sql (Except GuacamoleDbError Unit) := do
  let conn ← select fun s => s.connectionsNamed connectionName
  match conn with
  | [] => pure (.error ⟨"Guacamole connection " ++ connectionName ++ " not found"⟩)
  | row :: _ => do
    forM params.rows fun entry => upsertParameter row.connectionId entry.1 entry.2
    pure (.ok ())

def deleteConnection (connectionName : String) : Sql Bool := do
  let rowCount ← deleteConnections connectionName
  pure (decide (0 < rowCount))

def grantConnectionRead (connectionName guacUsername : String) : Sql Unit := do
  let connectionId ← selectConnectionId connectionName
  let entityId ← selectEntityId guacUsername
  insertConnectionPermission connectionId entityId

def revokeConnectionAccess (connectionName guacUsername : String) : Sql Unit := do
  let connectionId ← selectConnectionId connectionName
  let entityId ← selectEntityId guacUsername
  deleteConnectionPermission connectionId entityId

def grantRootGroupRead (guacUsername : String) : Sql Unit := do
  let connectionGroupId ← select fun s => s.rootGroup
  let entityId ← selectEntityId guacUsername
  insertConnectionGroupPermission connectionGroupId entityId

def revokeRootGroupRead (guacUsername : String) : Sql Unit := do
  let entityId ← selectEntityId guacUsername
  deleteConnectionPermissions entityId

end GuacamolePostgresClient

/-- `new GuacamolePostgresClient`. -/
def postgresClient (sha256 : String → String) : GuacamoleDbClient where
  createUser := GuacamolePostgresClient.createUser sha256
  setUserPassword := GuacamolePostgresClient.setUserPassword sha256
  setUserDisabled := GuacamolePostgresClient.setUserDisabled
  deleteUser := GuacamolePostgresClient.deleteUser
  createConnection := GuacamolePostgresClient.createConnection
  updateConnectionParams := GuacamolePostgresClient.updateConnectionParams
  deleteConnection := GuacamolePostgresClient.deleteConnection
  grantConnectionRead := GuacamolePostgresClient.grantConnectionRead
  revokeConnectionAccess := GuacamolePostgresClient.revokeConnectionAccess
  grantRootGroupRead := GuacamolePostgresClient.grantRootGroupRead
  revokeRootGroupRead := GuacamolePostgresClient.revokeRootGroupRead

/-! ## MySQL and MariaDB -/

namespace GuacamoleMySqlClient

variable (sha256 : String → String)

/-- `getUserId` and `getUserIdFrom`, the same query on two connections. -/
def getUserId (username : String) : Sql Nat := do
  let rows ← select fun s => (s.usersNamed username).filterMap Prod.snd
  pure (numberOf rows.head?)

def setUserPassword (username password salt : String) : Sql Unit := do
  let entityId ← selectEntityId username
  updateUserPassword entityId (sha256SaltedHashPassword sha256 password salt)

def createUser (username password salt : String) : Sql Nat := do
  let existing ← select fun s => s.usersNamed username
  match existing with
  | (_, some userId) :: _ => pure userId.val
  | (_, none) :: _ => do
    setUserPassword sha256 username password salt
    getUserId username
  | [] => do
    let entityId ← insertEntity username
    let _ ← insertUser entityId (sha256SaltedHashPassword sha256 password salt)
    getUserId username

def setUserDisabled (username : String) (disabled : Bool) : Sql Unit := do
  let entityId ← selectEntityId username
  updateUserDisabled entityId disabled

def deleteUser (username : String) : Sql Unit := do
  let entityId ← selectEntityId username
  deleteUserPermissions entityId
  let entityId ← selectEntityId username
  deleteConnectionPermissions entityId
  let entityId ← selectEntityId username
  deleteConnectionGroupPermissions entityId
  let entityId ← selectEntityId username
  deleteUserRows entityId
  deleteEntities username

def updateConnectionParams (connectionName : String) (params : Params) :
    Sql (Except GuacamoleDbError Unit) := do
  let rows ← select fun s => s.connectionsNamed connectionName
  match rows with
  | [] => pure (.error ⟨"Guacamole connection " ++ connectionName ++ " not found"⟩)
  | row :: _ => do
    forM params.rows fun entry => upsertParameter row.connectionId entry.1 entry.2
    pure (.ok ())

def createConnection (name protocol : String) (params : Params) :
    Sql (Except GuacamoleDbError ℕ+) := do
  let existing ← select fun s => s.connectionsNamed name
  match existing with
  | row :: _ => do
    let updated ← updateConnectionParams name params
    match updated with
    | .ok _ => pure (.ok row.connectionId)
    | .error e => pure (.error ⟨"Failed to create Guacamole connection: " ++ e.message⟩)
  | [] => do
    let connectionId ← insertConnection name protocol
    forM params.rows fun entry => insertParameter connectionId entry.1 entry.2
    pure (.ok connectionId)

def deleteConnection (connectionName : String) : Sql Bool := do
  let affectedRows ← deleteConnections connectionName
  pure (decide (0 < affectedRows))

def grantConnectionRead (connectionName guacUsername : String) : Sql Unit := do
  let connections ← select fun s => (s.connectionsNamed connectionName).map
    ConnectionRow.connectionId
  let entities ← select fun s => (s.entitiesNamed guacUsername).map EntityRow.entityId
  insertIgnoreConnectionPermission (scalarIgnore connections) (scalarIgnore entities)

def revokeConnectionAccess (connectionName guacUsername : String) : Sql Unit := do
  let connectionId ← selectConnectionId connectionName
  let entityId ← selectEntityId guacUsername
  deleteConnectionPermission connectionId entityId

def grantRootGroupRead (guacUsername : String) : Sql Unit := do
  let connectionGroupId ← select fun s => s.rootGroup
  let entities ← select fun s => (s.entitiesNamed guacUsername).map EntityRow.entityId
  insertIgnoreConnectionGroupPermission connectionGroupId (scalarIgnore entities)

def revokeRootGroupRead (guacUsername : String) : Sql Unit := do
  let entityId ← selectEntityId guacUsername
  deleteConnectionGroupPermissions entityId

end GuacamoleMySqlClient

/-- `new GuacamoleMySqlClient`. -/
def mySqlClient (sha256 : String → String) : GuacamoleDbClient where
  createUser := GuacamoleMySqlClient.createUser sha256
  setUserPassword := GuacamoleMySqlClient.setUserPassword sha256
  setUserDisabled := GuacamoleMySqlClient.setUserDisabled
  deleteUser := GuacamoleMySqlClient.deleteUser
  createConnection := GuacamoleMySqlClient.createConnection
  updateConnectionParams := GuacamoleMySqlClient.updateConnectionParams
  deleteConnection := GuacamoleMySqlClient.deleteConnection
  grantConnectionRead := GuacamoleMySqlClient.grantConnectionRead
  revokeConnectionAccess := GuacamoleMySqlClient.revokeConnectionAccess
  grantRootGroupRead := GuacamoleMySqlClient.grantRootGroupRead
  revokeRootGroupRead := GuacamoleMySqlClient.revokeRootGroupRead

/-! ## Sequences of operations -/

inductive Operation
  | createUser (username password salt : String)
  | setUserPassword (username password salt : String)
  | setUserDisabled (username : String) (disabled : Bool)
  | deleteUser (username : String)
  | createConnection (name protocol : String) (params : Params)
  | updateConnectionParams (connectionName : String) (params : Params)
  | deleteConnection (connectionName : String)
  | grantConnectionRead (connectionName guacUsername : String)
  | revokeConnectionAccess (connectionName guacUsername : String)
  | grantRootGroupRead (guacUsername : String)
  | revokeRootGroupRead (guacUsername : String)

inductive Reply
  | done
  | userId (id : Nat)
  | connectionId (id : Except GuacamoleDbError ℕ+)
  | updated (outcome : Except GuacamoleDbError Unit)
  | deleted (any : Bool)

namespace GuacamoleDbClient

variable (client : GuacamoleDbClient)

def perform : Operation → Sql Reply
  | .createUser username password salt => Reply.userId <$> client.createUser username password salt
  | .setUserPassword username password salt =>
      (fun _ => Reply.done) <$> client.setUserPassword username password salt
  | .setUserDisabled username disabled =>
      (fun _ => Reply.done) <$> client.setUserDisabled username disabled
  | .deleteUser username => (fun _ => Reply.done) <$> client.deleteUser username
  | .createConnection name protocol params =>
      Reply.connectionId <$> client.createConnection name protocol params
  | .updateConnectionParams name params =>
      Reply.updated <$> client.updateConnectionParams name params
  | .deleteConnection name => Reply.deleted <$> client.deleteConnection name
  | .grantConnectionRead name username =>
      (fun _ => Reply.done) <$> client.grantConnectionRead name username
  | .revokeConnectionAccess name username =>
      (fun _ => Reply.done) <$> client.revokeConnectionAccess name username
  | .grantRootGroupRead username => (fun _ => Reply.done) <$> client.grantRootGroupRead username
  | .revokeRootGroupRead username => (fun _ => Reply.done) <$> client.revokeRootGroupRead username

def run : List Operation → Sql (List Reply)
  | [] => pure []
  | op :: ops => do
    let reply ← client.perform op
    let replies ← run ops
    pure (reply :: replies)

end GuacamoleDbClient

end ProxVM.Guac
