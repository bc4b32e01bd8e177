import ProxVM.Guacamole.Service
import ProxVM.Lib.Snapshot
import ProxVM.Util.Text

/-!
# Settings

The typed projections of `SettingsService` of `services/settings.ts` that the
infrastructure clients are built from.  A settings table is the value of each key, as `getPlain`
returns it; each `getPlain` is a statement of its own, and the projections ask for one key after
the other.
-/

namespace ProxVM

open Interaction

abbrev Settings : Type := String → Option String

abbrev SettingsReader (α : Type) : Type := Reader String (Option String) AppError α

structure StoredProxmoxSettings where
  url : String
  tokenId : String
  tokenSecret : String
  verifySsl : Bool
  defaultNode : Option String
  defaultStorage : Option String
  defaultNetwork : Option String
  deriving DecidableEq, Repr

/-- `StoredGuacamoleSettings`; the port is the text `Number` is applied to. -/
structure StoredGuacamoleSettings where
  engine : GuacamoleDbEngine
  url : String
  publicUrl : Option String
  dbHost : String
  dbPort : String
  dbName : String
  dbUser : String
  dbPassword : String
  dbSsl : Bool
  deriving DecidableEq, Repr

namespace SettingsService

def getPlain (key : String) : SettingsReader (Option String) :=
  Prog.perform (F := readsOf String (Option String)) key

def proxmox : SettingsReader (Option StoredProxmoxSettings) := do
  match ← getPlain "proxmox.url" with
  | none => pure none
  | some url =>
    if url = "" then pure none else
    match ← getPlain "proxmox.token_secret" with
    | none => pure none
    | some tokenSecret =>
      let tokenId ← getPlain "proxmox.token_id"
      let verifySsl ← getPlain "proxmox.verify_ssl"
      let defaultNode ← getPlain "proxmox.default_node"
      let defaultStorage ← getPlain "proxmox.default_storage"
      let defaultNetwork ← getPlain "proxmox.default_network"
      pure (some
        { url, tokenSecret, tokenId := tokenId.getD "", verifySsl := decide (verifySsl ≠ some "false")
          defaultNode, defaultStorage, defaultNetwork })

def engineOf (engineRaw : String) : GuacamoleDbEngine :=
  if engineRaw = "mariadb" then .mariadb else if engineRaw = "mysql" then .mysql else .postgresql

def guacamole : SettingsReader (Option StoredGuacamoleSettings) := do
  match ← getPlain "guacamole.url" with
  | none => pure none
  | some url =>
    if url = "" then pure none else
    match ← getPlain "guacamole.db_password" with
    | none => pure none
    | some dbPassword =>
      let engineRaw ← getPlain "guacamole.db_engine"
      let publicUrl ← getPlain "guacamole.public_url"
      let dbHost ← getPlain "guacamole.db_host"
      let dbPort ← getPlain "guacamole.db_port"
      let dbName ← getPlain "guacamole.db_name"
      let dbUser ← getPlain "guacamole.db_user"
      let dbSsl ← getPlain "guacamole.db_ssl"
      pure (some
        { engine := engineOf (engineRaw.getD "postgresql"), url, publicUrl, dbHost := dbHost.getD ""
          dbPort := dbPort.getD "5432", dbName := dbName.getD "", dbUser := dbUser.getD "", dbPassword
          dbSsl := decide (dbSsl = some "true") })

end SettingsService

end ProxVM
