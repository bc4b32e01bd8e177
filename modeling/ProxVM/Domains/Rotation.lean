import ProxVM.Domains.Config

/-!
# Switching the domain

`performDomainSwitch` and `runFilterRotatePass` of `services/domainrotate.ts`,
`ensureTunnelIngressRule` and `tunnelServiceFor` of `cloudflare/client.ts`, and `alertAdmins` of
`services/gotify.ts`.

Log lines are left out, and so is what the tunnel configuration holds beside its rules.
-/

namespace ProxVM.Domains

open Interaction

structure Environment where
  zoneId : Option Text
  accountId : Option Text
  tunnelId : Option Text
  useremail : Option Text

/-- `CloudflareConfig`, without the token. -/
structure CloudflareConfig where
  zoneId : Option Text
  accountId : Option Text
  tunnelId : Option Text

def getCloudflareConfig (env : Environment) : Task CloudflareConfig := do
  let _ : Option Text ← ask (.getSetting .cloudflareApiToken)
  let zone : Option Text ← ask (.getSetting .cloudflareZoneId)
  let account : Option Text ← ask (.getSetting .cloudflareAccountId)
  let tunnel : Option Text ← ask (.getSetting .cloudflareTunnelId)
  pure ⟨env.zoneId <|> zone, env.accountId <|> account, env.tunnelId <|> tunnel⟩

def present (value : Option Text) : Option Text := value.filter fun v => decide (v ≠ [])

def shown (text : Text) : String := String.ofList text

def shownOr (text : Option Text) : String := (text.map shown).getD "null"

def ruleNote (ruleId : Option Text) : String :=
  match present ruleId with
  | some id => s!" (rule {shown id})"
  | none => ""

/-! ## Tunnel rules -/

section ingress

variable (api : TextApi)

def isRuleOf (host : Text) (rule : TunnelIngressRule) : Bool := decide (api.lower (rule.hostname.getD []) = host)

def insertRule (rule : TunnelIngressRule) : List TunnelIngressRule → List TunnelIngressRule
  | [] => [rule]
  | r :: rest => if present r.hostname = none then rule :: r :: rest else r :: insertRule rule rest

def replaceService (host service : Text) : List TunnelIngressRule → List TunnelIngressRule
  | [] => []
  | r :: rest => if isRuleOf api host r then { r with service } :: rest else r :: replaceService host service rest

/-- `ensureTunnelIngressRule`: the rules and whether they have changed. -/
def ensureTunnelIngressRule (rules : List TunnelIngressRule) (hostname service : Text) :
    List TunnelIngressRule × Bool :=
  let host := api.lower (trim hostname)
  match rules.find? (isRuleOf api host) with
  | some current =>
      if current.service = service then (rules, false) else (replaceService api host service rules, true)
  | none => (insertRule { hostname := some host, service } rules, true)

def tunnelServiceFor (rules : List TunnelIngressRule) (hostname : Text) : Option Text :=
  (rules.find? (isRuleOf api (api.lower (trim hostname)))).map TunnelIngressRule.service

end ingress

/-! ## Targets -/

def sameLetter (c d : Char) : Bool := decide (c.toLower = d)

def startsWithLetters (letters : String) (text : Text) : Bool :=
  decide (letters.length ≤ text.length) && (text.zip letters.toList).all fun (c, d) => sameLetter c d

/-- `/^https?:\/\//i`. -/
def isHttpUrl (text : Text) : Bool := startsWithLetters "http://" text || startsWithLetters "https://" text

/-- `/^\d{1,3}(\.\d{1,3}){3}$/`. -/
def isDottedQuad (text : Text) : Bool :=
  decide ((text.splitOn '.').length = 4) &&
    (text.splitOn '.').all fun part => decide (1 ≤ part.length ∧ part.length ≤ 3) && part.all isDigit

def isPrivateTarget (text : Text) : Bool :=
  ["10.", "127.", "192.168.", "169.254.", "0."].any (fun p => p.toList.isPrefixOf text) ||
    (List.range 16).any fun n => ("172." ++ toString (16 + n) ++ ".").toList.isPrefixOf text

def isHexOrColon (c : Char) : Bool :=
  isDigit c || decide ('a' ≤ c ∧ c ≤ 'f') || decide ('A' ≤ c ∧ c ≤ 'F') || decide (c = ':')

def isLetterOrDigit (c : Char) : Bool := decide ('A' ≤ c ∧ c ≤ 'Z') || isHostnameChar c

def typeA : Text := "A".toList

def typeAAAA : Text := "AAAA".toList

def typeCNAME : Text := "CNAME".toList

def targetError (type target : Text) : Option String :=
  if isHttpUrl target then
    some "Target must be a bare IP address or hostname, not a URL (no http://, no port, no path)"
  else if type = typeA ∧ isDottedQuad target = false then
    some "A records need a bare IPv4 address (e.g. 203.0.113.10)"
  else if type = typeA ∧ isPrivateTarget target = true then
    some ("That is a private LAN address — it is unreachable on the public internet, so publishing it would break the domain. " ++
      "Use your public IP (or tunnel hostname via CNAME), copied from an existing record below.")
  else if type = typeAAAA ∧ (target = [] ∨ target.all isHexOrColon = false) then
    some "AAAA records need a bare IPv6 address"
  else if type = typeCNAME ∧ (target = [] ∨ (target.all fun c => isLetterOrDigit c || ['.', '-'].contains c) = false) then
    some "CNAME records need a bare hostname"
  else none

/-- `/^[a-zA-Z][a-zA-Z0-9+.-]*:\/\//`. -/
def isSchemeService (text : Text) : Bool :=
  match cutScheme text with
  | some (first :: scheme, _) =>
      isLetterOrDigit first && !isDigit first && scheme.all fun c => isLetterOrDigit c || ['+', '.', '-'].contains c
  | _ => false

/-- `/^http_status:\d{3}$/i`. -/
def isStatusService (text : Text) : Bool :=
  startsWithLetters "http_status:" text && decide (text.length = 15) && (text.drop 12).all isDigit

def serviceError (service : Text) : Option String :=
  if isSchemeService service ∨ isStatusService service ∨ service = "hello-world".toList then none
  else some (s!"Service target \"{shown service}\" is not a valid tunnel service — use scheme://host form (e.g. http://localhost:8080), " ++
    "http_status:404, or hello-world. Pick one from the existing routes below instead of typing.")

def refuseIf (wrong : Option String) : Task Unit :=
  match wrong with
  | some message => .raise (refusal message)
  | none => pure ()

/-! ## The switch -/

structure SwitchDomainInput where
  name : Text
  target : Option Text
  recordType : Option Text
  copyFrom : Option Text
  proxied : Option Bool
  service : Option Text

structure TunnelState where
  managed : Bool
  ruleEnsured : Bool
  service : Option Text
  deriving DecidableEq, Repr

structure SwitchDomainResult where
  flipped : Bool
  fqdn : Text
  record : DnsRecord
  tunnel : TunnelState
  verification : DomainVerification
  canonical : Option Text
  aliases : List Text
  abortReason : Option String
  deriving DecidableEq, Repr

section switch

variable (api : TextApi) (env : Environment)

def templateOf (copyFrom : Option Text) (records : List DnsRecord) : Task (Option DnsRecord) :=
  match present copyFrom with
  | none => pure none
  | some id =>
      match records.find? fun r => decide (r.id = id) with
      | some record => pure (some record)
      | none => .raise (refusal "Selected source record no longer exists")

def recordNamed (name : Text) (records : List DnsRecord) : Option DnsRecord :=
  records.find? fun r => decide (api.lower r.name = name)

def existingRecord (fqdn : Text) (records : List DnsRecord) : Option DnsRecord :=
  records.find? fun r => decide (api.lower r.name = fqdn ∧ r.type ∈ [typeA, typeAAAA, typeCNAME])

def writeRecord (zoneId fqdn target type : Text) (records : List DnsRecord) (template : Option DnsRecord)
    (proxied : Option Bool) : Task DnsRecord :=
  match existingRecord api fqdn records with
  | some existing => ask (.updateDnsRecord zoneId existing.id target (proxied.getD existing.proxied))
  | none => ask (.createDnsRecord zoneId type fqdn target
      (proxied.getD ((template.map DnsRecord.proxied).getD true)))

def localTunnel : String :=
  "This tunnel runs on a local config.yml, so ProxVM cannot manage its ingress. " ++
    "Convert it to a cloud-managed tunnel once in the Cloudflare dashboard (or add the hostname there by hand), then Switch again."

def tunnelRules (accountId tunnelId : Text) : Task (List TunnelIngressRule) :=
  Prog.tryCatch (ask (.getTunnelIngress accountId tunnelId)) fun err =>
    match err with
    | .app e => if e.statusCode = 404 then .raise (refusal localTunnel) else .raise err
    | .other _ => .raise err

def noService : String :=
  "No ingress rule exists for the current domain and no service target was given — pick the service from an existing route below (same target your current domain uses)."

def routeTunnel (config : DomainConfig) (fqdn : Text) (service : Option Text) : Task TunnelState := do
  let cf ← getCloudflareConfig env
  match present cf.accountId, present cf.tunnelId with
  | some accountId, some tunnelId => do
      let ingress ← tunnelRules accountId tunnelId
      let explicit := present (service.map trim)
      refuseIf (explicit.bind serviceError)
      let target ← Prog.orRaise (present (explicit <|> config.canonical.bind (tunnelServiceFor api ingress))) (refusal noService)
      if (ensureTunnelIngressRule api ingress fqdn target).2 then do
        ask (.putTunnelIngress accountId tunnelId (ensureTunnelIngressRule api ingress fqdn target).1)
        pure ⟨true, true, some target⟩
      else pure ⟨true, true, some target⟩
  | _, _ => pure ⟨false, false, none⟩

def verifyAndFlip (config : DomainConfig) (fqdn : Text) (record : DnsRecord) (tunnel : TunnelState) :
    Task SwitchDomainResult := do
  let verification : DomainVerification ← ask (.verifyDomain fqdn)
  if verification.dnsOk = false then
    pure
      { flipped := false, fqdn, record, tunnel, verification, canonical := config.canonical, aliases := config.aliases
        abortReason := some (s!"DNS for {shown fqdn} does not resolve yet ({verification.detail}). The DNS record was saved — " ++
          "wait for propagation (or fix the target) and Switch again. Nothing was flipped.") }
  else do
    let updated ← setCanonicalDomain api fqdn
    pure
      { flipped := true, fqdn, record, tunnel, verification, canonical := updated.canonical, aliases := updated.aliases
        abortReason := none }

def noTarget : String :=
  "No target given and no current domain set yet — pick 'copy from existing record' or enter the target explicitly"

def writeTarget (body : SwitchDomainInput) (zoneId fqdn : Text) (records : List DnsRecord) (config : DomainConfig) :
    Task DnsRecord := do
  let current := config.canonical.bind fun canonical => recordNamed api canonical records
  let template ← templateOf body.copyFrom records
  let target ← Prog.orRaise
    (present (body.target.map trim) <|> present (template.map DnsRecord.content) <|> present (current.map DnsRecord.content))
    (refusal noTarget)
  let type := (body.recordType <|> template.map DnsRecord.type <|> current.map DnsRecord.type).getD typeA
  refuseIf (targetError type target)
  writeRecord api zoneId fqdn target type records template body.proxied

def switchWithin (body : SwitchDomainInput) (zone : Zone) : Task SwitchDomainResult := do
  checked (assertValidHostname (qualifyName api body.name zone.name))
  let records : List DnsRecord ← ask (.listDnsRecords zone.id)
  let (config, _) ← getDomainConfig api
  let record ← writeTarget api body zone.id (qualifyName api body.name zone.name) records config
  let tunnel ← routeTunnel api env config (qualifyName api body.name zone.name) body.service
  verifyAndFlip api config (qualifyName api body.name zone.name) record tunnel

def noZone : String := "No Cloudflare Zone ID configured (env or Domains settings)"

def performDomainSwitch (body : SwitchDomainInput) : Task SwitchDomainResult := do
  let cf ← getCloudflareConfig env
  let cfZoneId ← Prog.orRaise (present cf.zoneId) (refusal noZone)
  ask .getCloudflareClient
  let zone : Zone ← ask (.getZone cfZoneId)
  switchWithin api env body zone

end switch

/-! ## The automatic rotation -/

/-- `AutoRotateOutcome`. -/
inductive Outcome
  | disabled
  | noCanonical
  | noUseremail
  | cooldown
  | clean
  | unknown
  | rotated
  | noCleanCandidate
  | brokerDown
  | aborted
  | failed
  | capped
  deriving DecidableEq, Repr

structure AutoRotateResult where
  outcome : Outcome
  from? : Option Text := none
  to? : Option Text := none
  ruleId : Option Text := none
  detail : Option String := none
  deriving DecidableEq, Repr

/-- `AutoRotateOpts`, with its defaults. -/
structure AutoRotateOpts where
  cooldownS : Nat := 15 * 60
  maxPerDay : Nat := 5

def autoRotateMaxCandidates : Nat := 10

def retryCooldownS : Nat := 30 * 60

def failureCooldownS : Nat := 60 * 60

def cappedTtlS : Nat := 26 * 60 * 60

def countTtlS : Nat := 2 * 24 * 60 * 60

def quietly (c : Call) : Task Unit := Prog.tryCatch (ask c >>= fun _ => pure ()) fun _ => pure ()

def safeAudit (detail : List (String × String)) : Task Unit := quietly (.record (("section", "domains") :: detail))

def alertAdmins (title body : String) (priority : Nat) : Task Unit := do
  quietly (.notify title body)
  quietly (.sendGotifyMessage title body priority)

/-- `redis.set(..).catch(..)` of the cooldown. -/
def coolDown (seconds : Nat) : Task Unit := quietly (.redisSet .cooldown seconds)

def getSecurlyConfig (env : Environment) : Task (Option Text) :=
  match env.useremail with
  | some email => pure (some email)
  | none => do
      let stored : Option Text ← ask (.getSetting .securlyUseremail)
      pure (present (stored.map trim))

inductive Search
  | found (name : Text)
  | brokerDirty
  | exhausted
  deriving DecidableEq, Repr

def excerpt (message : String) : String := String.ofList (message.toList.take 300)

section rotate

variable (api : TextApi) (env : Environment) (opts : AutoRotateOpts)

def searchCandidate (canonical useremail : Text) : Nat → List Text → Task Search
  | 0, _ => pure .exhausted
  | n + 1, probed =>
      match nextRotatedHostname api canonical probed autoRotateMaxCandidates with
      | none => pure .exhausted
      | some next => do
          let verdict : FilterCheckResult ← ask (.check next useremail)
          match verdict.status with
          | .clean => pure (.found next)
          | .unknown => pure .brokerDirty
          | .blocked => searchCandidate canonical useremail n (probed ++ [next])

def reportCapped (canonical : Text) (ruleId : Option Text) (done : Nat) : Task AutoRotateResult := do
  let day : Day ← ask .dayKey
  let told : Option Nat ← ask (.redisGet (.capped day))
  if told = none then do
    alertAdmins s!"Auto-rotate paused — daily cap reached ({done}/{opts.maxPerDay})"
      (s!"Securly still reports {shown canonical} blocked{ruleNote ruleId}, but {done} automatic rotation(s) already happened " ++
        "today. Rotate manually on the Domains page or raise the cap once things settle.") 7
    quietly (.redisSet (.capped day) cappedTtlS)
    pure { outcome := .capped, from? := some canonical, ruleId, detail := some s!"{done}/{opts.maxPerDay}" }
  else pure { outcome := .capped, from? := some canonical, ruleId, detail := some s!"{done}/{opts.maxPerDay}" }

def reportNoCandidate (canonical : Text) (brokerDirty : Bool) : Task AutoRotateResult := do
  let detail :=
    if brokerDirty then s!"Securly's broker returned an unknown verdict while checking the next name after {shown canonical}, so auto-rotate will not switch blind."
    else s!"Securly also blocks the next {autoRotateMaxCandidates} name(s) after {shown canonical} — the whole numbering pattern looks listed."
  safeAudit [("autoRotate", "no-clean-candidate"), ("canonical", shown canonical), ("reason", detail)]
  alertAdmins
    (if brokerDirty then "Auto-rotate paused — Securly broker giving unclear answers" else "Auto-rotate stopped — the next names are blocked too")
    s!"{detail} Nothing was switched; the next attempt is after a cooldown." 8
  coolDown retryCooldownS
  pure { outcome := if brokerDirty then .brokerDown else .noCleanCandidate, from? := some canonical }

def reportNoRecord (canonical : Text) : Task AutoRotateResult := do
  let detail := s!"No DNS record exists for {shown canonical} in the zone, so there is no target to copy — rotating would publish a dead address."
  safeAudit [("autoRotate", "failed"), ("canonical", shown canonical), ("reason", detail)]
  alertAdmins "Auto-rotate stopped — no current DNS record to copy" detail 8
  coolDown failureCooldownS
  pure { outcome := .failed, from? := some canonical, detail := some detail }

def reportAborted (canonical : Text) (switchResult : SwitchDomainResult) : Task AutoRotateResult := do
  safeAudit [("switchAborted", shown switchResult.fqdn), ("autoRotate", "true"), ("reason", switchResult.verification.detail)]
  alertAdmins s!"Auto-rotate waiting on DNS for {shown switchResult.fqdn}"
    (switchResult.abortReason.getD "null" ++ " The record exists; once it resolves, auto-rotate flips automatically.") 7
  coolDown opts.cooldownS
  pure { outcome := .aborted, from? := some canonical, detail := some switchResult.verification.detail }

def reportRotated (canonical candidate : Text) (ruleId : Option Text) (day : Day) (switchResult : SwitchDomainResult) :
    Task AutoRotateResult := do
  coolDown opts.cooldownS
  quietly (.redisIncr (.count day))
  quietly (.redisExpire (.count day) countTtlS)
  safeAudit [("autoRotated", "true"), ("from", shown canonical), ("to", shownOr switchResult.canonical),
    ("ruleId", shownOr ruleId)]
  alertAdmins s!"Domain auto-rotated: {shown canonical} → {shownOr switchResult.canonical}"
    (s!"Securly reports {shown canonical} blocked{ruleNote ruleId}. " ++
      s!"Auto-rotate created the DNS record for {shownOr switchResult.canonical} " ++
      s!"(same target: {shown switchResult.record.content})" ++
      (if switchResult.tunnel.managed then ", ensured the tunnel route" else "") ++
      ", and verified DNS. Old URLs redirect to the new domain automatically.") 7
  pure { outcome := .rotated, from? := some canonical, to? := switchResult.canonical <|> some candidate, ruleId }

def rotateInput (candidate : Text) (currentRecord : DnsRecord) : SwitchDomainInput where
  name := candidate
  target := some currentRecord.content
  recordType := some (if currentRecord.type ∈ [typeA, typeAAAA, typeCNAME] then currentRecord.type else typeA)
  copyFrom := none
  proxied := some currentRecord.proxied
  service := none

def rotateTo (canonical candidate : Text) (ruleId : Option Text) (day : Day) : Task AutoRotateResult := do
  let cf ← getCloudflareConfig env
  let cfZoneId ← Prog.orRaise (present cf.zoneId) (refusal noZone)
  ask .getCloudflareClient
  let zone : Zone ← ask (.getZone cfZoneId)
  let records : List DnsRecord ← ask (.listDnsRecords zone.id)
  match recordNamed api canonical records with
  | none => reportNoRecord canonical
  | some currentRecord => do
      let switchResult ← performDomainSwitch api env (rotateInput candidate currentRecord)
      if switchResult.flipped = false then reportAborted opts canonical switchResult
      else reportRotated opts canonical candidate ruleId day switchResult

def rotateBlocked (config : DomainConfig) (canonical useremail : Text) (ruleId : Option Text) : Task AutoRotateResult := do
  let day : Day ← ask .dayKey
  let done : Option Nat ← ask (.redisGet (.count day))
  if opts.maxPerDay ≤ done.getD 0 then reportCapped opts canonical ruleId (done.getD 0)
  else do
    let search ← searchCandidate api canonical useremail autoRotateMaxCandidates (canonical :: config.aliases)
    match search with
    | .found candidate => rotateTo api env opts canonical candidate ruleId day
    | .brokerDirty => reportNoCandidate canonical true
    | .exhausted => reportNoCandidate canonical false

def probeCanonical (config : DomainConfig) (canonical useremail : Text) : Task AutoRotateResult := do
  let cooling : Option Nat ← ask (.redisGet .cooldown)
  if cooling ≠ none then pure { outcome := .cooldown, from? := some canonical }
  else do
    let verdict : FilterCheckResult ← ask (.check canonical useremail)
    match verdict.status with
    | .clean => pure { outcome := .clean, from? := some canonical }
    | .unknown => pure { outcome := .unknown, from? := some canonical, detail := some verdict.detail }
    | .blocked => rotateBlocked api env opts config canonical useremail verdict.ruleId

def rotateEnabled : Task AutoRotateResult := do
  let (config, _) ← getDomainConfig api
  match config.canonical with
  | none => pure { outcome := .noCanonical }
  | some canonical => do
      let useremail ← getSecurlyConfig env
      match useremail with
      | none => pure { outcome := .noUseremail }
      | some useremail => probeCanonical api env opts config canonical useremail

def tryRotate : Task AutoRotateResult := do
  let enabled : Option Text ← ask (.getSetting .autoRotate)
  if enabled ≠ some "true".toList then pure { outcome := .disabled }
  else rotateEnabled api env opts

def reportFailed (detail : String) : Task AutoRotateResult := do
  safeAudit [("autoRotate", "failed"), ("error", excerpt detail)]
  alertAdmins "Domain auto-rotate failed" s!"{excerpt detail} Nothing was switched; the next attempt is after a cooldown." 7
  coolDown failureCooldownS
  pure { outcome := .failed, detail := some (excerpt detail) }

def runFilterRotatePass : Task AutoRotateResult :=
  Prog.tryCatch (tryRotate api env opts) fun err => reportFailed err.message

end rotate

/-! ## What only asks, and tells -/

def Call.Passive : Call → Prop
  | .setSetting _ _ => False
  | .redisIncr _ => False
  | .updateDnsRecord _ _ _ _ => False
  | .createDnsRecord _ _ _ _ _ => False
  | _ => True

section passive

variable {api : TextApi} {env : Environment}

theorem passive_checked {outcome : Except AppError Unit} : Only (F := calls) Call.Passive (checked outcome) :=
  only_ofExcept

theorem passive_getDomainConfig : Only (F := calls) Call.Passive (getDomainConfig api) := by
  refine Only.bind (only_perform.mpr trivial) fun _ => Only.bind (only_perform.mpr trivial) fun _ => ?_
  exact Only.bind (only_perform.mpr trivial) fun _ => trivial

theorem passive_getCloudflareConfig : Only (F := calls) Call.Passive (getCloudflareConfig env) := by
  refine Only.bind (only_perform.mpr trivial) fun _ => Only.bind (only_perform.mpr trivial) fun _ => ?_
  exact Only.bind (only_perform.mpr trivial) fun _ => Only.bind (only_perform.mpr trivial) fun _ => trivial

theorem passive_refuseIf {wrong : Option String} : Only (F := calls) Call.Passive (refuseIf wrong) := by
  cases wrong with
  | none => trivial
  | some message => trivial

theorem passive_templateOf {copyFrom : Option Text} {records : List DnsRecord} :
    Only (F := calls) Call.Passive (templateOf copyFrom records) := by
  unfold templateOf
  split
  · trivial
  · split
    · trivial
    · trivial

theorem passive_routeTunnel {config : DomainConfig} {fqdn : Text} {service : Option Text} :
    Only (F := calls) Call.Passive (routeTunnel api env config fqdn service) := by
  refine Only.bind passive_getCloudflareConfig fun cf => ?_
  split
  · refine Only.bind (Only.tryCatch (only_perform.mpr trivial) fun err => ?_) fun ingress => ?_
    · split
      · exact Only.ite trivial trivial
      · trivial
    · refine Only.bind passive_refuseIf fun _ => Only.bind only_orRaise fun target => Only.ite ?_ trivial
      exact Only.bind (only_perform.mpr trivial) fun _ => trivial
  · trivial

end passive

end ProxVM.Domains
