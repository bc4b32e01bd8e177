import ProxVM.Guacamole.Launch
import ProxVM.Guacamole.Names
import ProxVM.Lib.Answered
import ProxVM.Shares.Revocation

/-!
# The redemption of a share link

`GET /s/:token` of `routes/vms.ts`: a use of the link is consumed, its VM is started if it is
stopped, and the redeemer is sent to a session of the Guacamole account of the creator of the
link.
-/

namespace ProxVM

open Tables Fallible Interaction

/-! ## The state -/

structure GuacSession where
  authToken : String
  username : String
  deriving DecidableEq, Repr

/-- `GuacamoleApiClient`, by what it answers. -/
structure GuacamoleApi where
  requestToken : String → String → Except AppError Tokens.GuacamoleToken
  findConnectionIdentifier : String → String → String → Except AppError (Option String)
  deleteToken : String → Except AppError Unit

def GuacamoleApi.absent : GuacamoleApi where
  requestToken _ _ := .error (AppError.external "Guacamole" "no client")
  findConnectionIdentifier _ _ _ := .error (AppError.external "Guacamole" "no client")
  deleteToken _ := .error (AppError.external "Guacamole" "no client")

section route

variable (hashShareToken : String → String) (deps : GuacamoleServiceDeps) (env : RedeemContext)

end route

/-! ## What a session can open -/

def Guac.Store.Reads (guac : Guac.Store) (username : String) (c : Guac.ConnectionRow) : Prop :=
  c ∈ guac.connections ∧ ∃ p ∈ (guac.account username).connectionPermissions,
    p.connectionId = c.connectionId ∧ p.permission = .read

def GuacSession.Opens (session : GuacSession) (guac : Guac.Store) (c : Guac.ConnectionRow) : Prop :=
  guac.Reads session.username c

section redemption

variable {hashShareToken : String → String} {deps : GuacamoleServiceDeps} {env : RedeemContext}
  {token : String} {w : RedeemWorld}

variable {guacIdentifier : VmConnectionRow → Option String} {guacApi : GuacamoleApi}
  {connection : Tokens.LaunchConnection} {vmId : VmId} {link : Shares.ShareLink}

end redemption

/-! ## A creator with two VMs -/

end ProxVM
