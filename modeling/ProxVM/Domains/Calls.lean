import ProxVM.Domains.Names
import ProxVM.Lib.Solo

/-!
# Domains: what the services call

The settings, Redis, the Cloudflare API, the DNS check, the filter broker, the audit trail and the
notifications, as `services/domains.ts` and `services/domainrotate.ts` use
them.

What Redis keeps under the keys of the rotation is a number.
-/

namespace ProxVM.Domains

open Interaction

inductive SettingKey
  | canonicalDomain
  | domainAliases
  | autoRotate
  | securlyUseremail
  | cloudflareApiToken
  | cloudflareZoneId
  | cloudflareAccountId
  | cloudflareTunnelId
  deriving DecidableEq, Repr

abbrev Settings := SettingKey → Option Text

abbrev Day := Nat

/-- `COOLDOWN_KEY`, and the keys with a day. -/
inductive RedisKey
  | cooldown
  | capped (day : Day)
  | count (day : Day)
  deriving DecidableEq, Repr

/-- `CloudflareZone`. -/
structure Zone where
  id : Text
  name : Text
  deriving DecidableEq, Repr

/-- `CloudflareDnsRecord`. -/
structure DnsRecord where
  id : Text
  type : Text
  name : Text
  content : Text
  proxied : Bool
  deriving DecidableEq, Repr

structure TunnelIngressRule where
  hostname : Option Text
  service : Text
  path : Option Text := none
  originRequest : Option Text := none
  deriving DecidableEq, Repr

structure DomainVerification where
  dnsOk : Bool
  httpsOk : Bool
  detail : String
  deriving DecidableEq, Repr

inductive FilterStatus
  | clean
  | blocked
  | unknown
  deriving DecidableEq, Repr

structure FilterCheckResult where
  status : FilterStatus
  ruleId : Option Text
  detail : String
  deriving DecidableEq, Repr

inductive Thrown
  | app (e : AppError)
  | other (message : String)
  deriving DecidableEq, Repr

def Thrown.message : Thrown → String
  | .app e => e.message
  | .other message => message

/-- `AppError.validation`. -/
def refusal (message : String) : Thrown := .app (AppError.validation message)

inductive Call
  | getSetting (key : SettingKey)
  | setSetting (key : SettingKey) (value : Text)
  | redisGet (key : RedisKey)
  | redisSet (key : RedisKey) (seconds : Nat)
  | redisIncr (key : RedisKey)
  | redisExpire (key : RedisKey) (seconds : Nat)
  | dayKey
  | getCloudflareClient
  | getZone (zoneId : Text)
  | listDnsRecords (zoneId : Text)
  | updateDnsRecord (zoneId recordId content : Text) (proxied : Bool)
  | createDnsRecord (zoneId type name content : Text) (proxied : Bool)
  | getTunnelIngress (accountId tunnelId : Text)
  | putTunnelIngress (accountId tunnelId : Text) (rules : List TunnelIngressRule)
  | verifyDomain (fqdn : Text)
  | check (hostname useremail : Text)
  | record (detail : List (String × String))
  | notify (title body : String)
  | sendGotifyMessage (title message : String) (priority : Nat)

@[reducible] def Call.Reply : Call → Type
  | .getSetting _ => Option Text
  | .redisGet _ => Option Nat
  | .dayKey => Day
  | .getZone _ => Zone
  | .listDnsRecords _ => List DnsRecord
  | .updateDnsRecord _ _ _ _ => DnsRecord
  | .createDnsRecord _ _ _ _ _ => DnsRecord
  | .getTunnelIngress _ _ => List TunnelIngressRule
  | .verifyDomain _ => DomainVerification
  | .check _ _ => FilterCheckResult
  | _ => Unit

@[reducible] def calls : Signature := ⟨Call, Call.Reply⟩

abbrev Task (α : Type) := Prog calls Thrown α

def ask (c : Call) : Task c.Reply := Prog.perform (F := calls) c

def checked (outcome : Except AppError Unit) : Task Unit := Prog.ofExcept (outcome.mapError Thrown.app)

end ProxVM.Domains
