import Mathlib.Data.List.Infix
import Mathlib.Data.List.Sort

/-!
# Threat detection

The rules of `services/threats.ts` over a window of audit rows, and `detectThreats`, which runs
them all.

Every rule groups the rows it looks at by a subject (an account, an address, an actor) and makes at most one finding
of a group; the identifier of a finding is the rule's prefix and the slug of its subject.

Times are milliseconds.  The deployment's shared egress addresses are a predicate.
-/

namespace ProxVM.Threats

/-! ## Rows and findings -/

inductive AuditEvent
  | login
  | loginFailed
  | scanDetected
  | roleAssigned
  | groupRoleAssigned
  | permissionChanged
  | userCreated
  | temporaryAccessGranted
  | passwordRevealed
  | passwordCopied
  | userDeleted
  | vmDeleted
  | vmFirewallChanged
  | provisioningStarted
  | settingsChanged
  | other (name : String)
  deriving DecidableEq, Repr

inductive DetailValue
  | text (s : String)
  | number (n : Int)
  | flag (b : Bool)
  | other
  deriving DecidableEq, Repr

/-- `AuditRecord`, the fields that the rules read. -/
structure AuditRecord where
  event : AuditEvent
  actorUsername : Option String
  ip : Option String
  detail : List (String × DetailValue)
  createdAt : Int
  deriving DecidableEq, Repr

inductive ThreatCategory
  | bruteForce
  | privilege
  | secrets
  | anomaly
  | infra
  deriving DecidableEq, Repr

inductive ThreatSeverity
  | critical
  | high
  | medium
  | low
  deriving DecidableEq, Repr

/-- `SEVERITY_RANK`. -/
def ThreatSeverity.rank : ThreatSeverity → Nat
  | critical => 0
  | high => 1
  | medium => 2
  | low => 3

structure ThreatFinding where
  id : String
  category : ThreatCategory
  severity : ThreatSeverity
  title : String
  summary : String
  actorUsername : Option String
  ip : Option String
  count : Int
  firstSeen : Int
  lastSeen : Int
  events : List AuditEvent
  deriving DecidableEq, Repr

/-! ## Slugs -/

/-- `toLowerCase` as far as it yields `a` to `z`: two letters outside ASCII do so. -/
def lowered (c : Char) : List Char :=
  if c = '\u212A' then ['k']
  else if c = '\u0130' then ['i', '\u0307']
  else [c.toLower]

def inSlug (c : Char) : Bool := decide ('a' ≤ c ∧ c ≤ 'z') || decide ('0' ≤ c ∧ c ≤ '9')

/-- `.replace(/[^a-z0-9]+/g, "-")`; `inRun` tells that the run has its dash. -/
def dashed : (inRun : Bool) → List Char → List Char
  | _, [] => []
  | inRun, c :: rest =>
    if inSlug c then c :: dashed false rest
    else if inRun then dashed true rest
    else '-' :: dashed true rest

/-- `.replace(/^-+|-+$/g, "")`. -/
def undashed (text : List Char) : List Char :=
  ((text.dropWhile (· = '-')).reverse.dropWhile (· = '-')).reverse

def slug (s : String) : String :=
  let short := (undashed (dashed false (s.toList.flatMap lowered))).take 48
  if short = [] then "unknown" else String.ofList short

variable {text : List Char} {rows : List AuditRecord} {rule : Rule} {f : ThreatFinding}

theorem dashed_eq_self (hkept : ∀ c ∈ text, inSlug c = true) : dashed false text = text := by
  induction text with
  | nil => rfl
  | cons c rest ih =>
      rw [dashed, if_pos (hkept c List.mem_cons_self), ih fun c hc => hkept c (List.mem_cons_of_mem _ hc)]

theorem dropWhile_dash_eq_self (hkept : ∀ c ∈ text, inSlug c = true) : text.dropWhile (· = '-') = text := by
  cases text with
  | nil => rfl
  | cons c rest =>
      have hc : c ≠ '-' := by
        rintro rfl
        exact absurd (hkept _ List.mem_cons_self) (by decide)
      rw [List.dropWhile_cons_of_neg]
      simpa using hc

theorem slug_eq_self {s : String} (hkept : ∀ c ∈ s.toList, inSlug c = true) (hne : s ≠ "")
    (hshort : s.toList.length ≤ 48) : slug s = s := by
  have hlowered : s.toList.flatMap lowered = s.toList := by
    have hself : ∀ c ∈ s.toList, lowered c = [c] := by
      intro c hc
      have hlower := hkept c hc
      simp only [inSlug, Bool.or_eq_true, decide_eq_true_eq] at hlower
      rw [lowered, if_neg, if_neg]
      · unfold Char.toLower
        rw [dif_neg]
        rintro ⟨hle, hge⟩
        simp only [Char.le_def, UInt32.le_iff_toNat_le] at hlower hle hge
        change 65 ≤ c.val.toNat at hle
        change c.val.toNat ≤ 90 at hge
        obtain ⟨hlo, -⟩ | ⟨-, hhi⟩ := hlower
        · change 97 ≤ c.val.toNat at hlo
          omega
        · change c.val.toNat ≤ 57 at hhi
          omega
      · rintro rfl
        exact absurd hlower (by decide)
      · rintro rfl
        exact absurd hlower (by decide)
    rw [List.flatMap_congr hself, List.flatMap_singleton']
  have hstripped : undashed s.toList = s.toList := by
    rw [undashed, dropWhile_dash_eq_self hkept,
      dropWhile_dash_eq_self (fun c hc => hkept c (List.mem_reverse.mp hc)), List.reverse_reverse]
  have hlist : s.toList ≠ [] := fun hnil => hne (String.toList_eq_nil_iff.mp hnil)
  simp only [slug, hlowered, dashed_eq_self hkept, hstripped, List.take_of_length_le hshort, if_neg hlist,
    String.ofList_toList]

/-! ## Grouping -/

/-- `groupBy`, in the order in which the keys first appear. -/
def groupBy (rows : List AuditRecord) (key : AuditRecord → String) : List (String × List AuditRecord) :=
  (rows.map key).eraseDups.map fun k => (k, rows.filter fun r => decide (key r = k))

/-- `span(rows).firstSeen`. -/
def firstSeen : List AuditRecord → Int
  | [] => 0
  | r :: rest => rest.foldl (fun first r => min first r.createdAt) r.createdAt

/-- `span(rows).lastSeen`. -/
def lastSeen : List AuditRecord → Int
  | [] => 0
  | r :: rest => rest.foldl (fun last r => max last r.createdAt) r.createdAt

def fires (limit : Int) (rows : List AuditRecord) : Bool :=
  let times := (rows.map AuditRecord.createdAt).insertionSort (· ≤ ·)
  (times.zip (times.drop 4)).any fun t => decide (t.2 - t.1 ≤ limit)

/-- `getUTCHours()`. -/
def utcHours (time : Int) : Int := time / 3600000 % 24

def atNight (r : AuditRecord) : Bool := decide (0 ≤ utcHours r.createdAt ∧ utcHours r.createdAt < 5)

def addresses (rows : List AuditRecord) : List String :=
  ((rows.filterMap AuditRecord.ip).filter fun ip => decide (ip ≠ "")).eraseDups

def hasIp (r : AuditRecord) : Bool := r.ip.any fun ip => decide (ip ≠ "")

def events (rows : List AuditRecord) : List AuditEvent := (rows.map AuditRecord.event).eraseDups

def AuditRecord.detail? (r : AuditRecord) (key : String) : Option DetailValue := r.detail.lookup key

/-- `actorUsername: actor === "system" ? null : actor`. -/
def actorOf (actor : String) : Option String := if actor = "system" then none else some actor

/-! ## The findings of the rules -/

def bruteForceFinding (username : String) (attempts : List AuditRecord) : Option ThreatFinding :=
  let ips := addresses attempts
  let source :=
    if ips = [] then ""
    else " from " ++ (if ips.length = 1 then ips.headD "" else s!"{ips.length} IPs")
  if username = "unknown" ∨ attempts.length < 5 ∨ fires (15 * 60000) attempts = false then none
  else some {
    id := "brute-force-account-" ++ slug username
    category := .bruteForce
    severity := .high
    title := s!"Possible brute force on account \"{username}\""
    summary := s!"{attempts.length} failed logins in 15 minutes{source}. " ++
      "If this is not the account owner, lock the account" ++
      (if ips = [] then "" else " and block the source") ++ "."
    actorUsername := some username
    ip := if ips.length = 1 then ips.head? else none
    count := attempts.length
    firstSeen := firstSeen attempts
    lastSeen := lastSeen attempts
    events := [.loginFailed] }

def passwordSprayFinding (ip : String) (attempts : List AuditRecord) : Option ThreatFinding :=
  let users := (attempts.map fun r => r.actorUsername.getD "unknown").eraseDups
  if attempts.length < 5 ∨ users.length < 3 ∨ fires (15 * 60000) attempts = false then none
  else some {
    id := "password-spray-" ++ slug ip
    category := .bruteForce
    severity := .high
    title := s!"Possible password spray from {ip}"
    summary := s!"{attempts.length} failed logins across {users.length} accounts in 15 minutes. " ++
      "Block the source IP if it is not a known NAT egress."
    actorUsername := none
    ip := some ip
    count := attempts.length
    firstSeen := firstSeen attempts
    lastSeen := lastSeen attempts
    events := [.loginFailed] }

/-- The first two parts of `key.split("@")`; an account with an `@` in it is cut short. -/
def loginParts (key : String) : String × String :=
  let parts := key.toList.splitOn '@'
  (String.ofList (parts.headD []), String.ofList (parts.tail.headD []))

def compromisedLoginFinding (key : String) (items : List AuditRecord) : Option ThreatFinding :=
  let username := (loginParts key).1
  let ip := (loginParts key).2
  if username = "unknown" then none
  else some {
    id := "compromised-login-" ++ (slug username ++ "-" ++ slug ip)
    category := .bruteForce
    severity := .critical
    title := s!"Successful login for \"{username}\" from attacking IP {ip}"
    summary := s!"{items.length} successful login(s) from an IP with a recent failure burst. " ++
      "Treat as a possible compromise: confirm with the user, rotate their credentials, and review their sessions."
    actorUsername := some username
    ip := some ip
    count := items.length
    firstSeen := firstSeen items
    lastSeen := lastSeen items
    events := [.login, .loginFailed] }

/-- `n + (typeof d?.count === "number" ? d.count : 1)`. -/
def scanCount (r : AuditRecord) : Int :=
  match r.detail? "count" with
  | some (.number n) => n
  | _ => 1

def scanFinding (ip : String) (items : List AuditRecord) : Option ThreatFinding :=
  let actors := ((items.filterMap AuditRecord.actorUsername).filter fun a => decide (a ≠ "")).eraseDups
  let names := ", ".intercalate actors
  let total := (items.map scanCount).foldl (· + ·) 0
  let seen := s!"{total} denied/error responses across {items.length} burst(s)"
  if ip = "unknown" then none
  else some {
    id := "recon-scan-" ++ slug ip
    category := .bruteForce
    severity := if 0 < actors.length then .high else .medium
    title := if 0 < actors.length then s!"Authenticated probing from {ip} ({names})"
      else s!"Reconnaissance scan from {ip}"
    summary := if 0 < actors.length then seen ++ ", some under a login — possible privilege probing."
      else seen ++ ". Block the source if it is not a known scanner or NAT egress."
    actorUsername := if actors.length = 1 then actors.head? else none
    ip := some ip
    count := total
    firstSeen := firstSeen items
    lastSeen := lastSeen items
    events := [.scanDetected] }

/-- What `lockedAccountProbes` makes of the attempts on an account with one of its two reasons. -/
def lockedProbeFinding (reason state : String) (username : String) (attempts : List AuditRecord) :
    Option ThreatFinding :=
  if username = "unknown" then none
  else some {
    id := "locked-probe-" ++ slug reason ++ "-" ++ slug username
    category := .bruteForce
    severity := .medium
    title := s!"Login attempts against {state} account \"{username}\""
    summary := s!"{attempts.length} attempt(s) against an account that cannot authenticate. " ++
      "Either the owner needs help, or an attacker has not noticed the lock."
    actorUsername := some username
    ip := if attempts.length = 1 then attempts.head?.bind AuditRecord.ip else none
    count := attempts.length
    firstSeen := firstSeen attempts
    lastSeen := lastSeen attempts
    events := [.loginFailed] }

def privilegeGrantsFinding (actor : String) (items : List AuditRecord) : Option ThreatFinding :=
  let offHours := items.filter atNight
  some {
    id := "privilege-grants-" ++ slug actor
    category := .privilege
    severity := if 0 < offHours.length then .medium else .low
    title := s!"{items.length} privilege grant(s) by {actor}"
    summary := if 0 < offHours.length
      then s!"{offHours.length} of them between 00:00–05:00 UTC. Verify these were intentional."
      else "Routine elevation activity. Review if the granter or targets are unexpected."
    actorUsername := actorOf actor
    ip := none
    count := items.length
    firstSeen := firstSeen items
    lastSeen := lastSeen items
    events := events items }

def massSecretAccessFinding (actor : String) (items : List AuditRecord) : Option ThreatFinding :=
  if actor = "system" ∨ items.length < 5 ∨ fires (60 * 60000) items = false then none
  else some {
    id := "mass-secret-access-" ++ slug actor
    category := .secrets
    severity := .medium
    title := s!"{actor} read credentials {items.length} times in an hour"
    summary := "Bulk password reveals/copies can be legitimate rotation work, or harvesting. " ++
      "Confirm with the operator."
    actorUsername := some actor
    ip := none
    count := items.length
    firstSeen := firstSeen items
    lastSeen := lastSeen items
    events := events items }

def actorFinding (ident : String) (category : ThreatCategory) (severity : ThreatSeverity) (title summary : String)
    (actor : String) (seen : List AuditEvent) (items : List AuditRecord) : ThreatFinding where
  id := ident ++ slug actor
  category := category
  severity := severity
  title := title
  summary := summary
  actorUsername := actorOf actor
  ip := none
  count := items.length
  firstSeen := firstSeen items
  lastSeen := lastSeen items
  events := seen

def offHoursFinding (actor : String) (items : List AuditRecord) : Option ThreatFinding :=
  some (actorFinding "off-hours-" .anomaly .low
    s!"{items.length} privileged action(s) by {actor} at night (UTC)"
    "Off-hours admin activity. Expected for scheduled maintenance; otherwise verify." actor (events items) items)

def vmDeletionsFinding (actor : String) (items : List AuditRecord) : Option ThreatFinding :=
  some (actorFinding "vm-deletions-" .infra .low s!"{items.length} VM deletion(s) by {actor}"
    "Deletions are audited per VM. Unusual volume here warrants a look." actor [.vmDeleted] items)

def firewallWeakenedFinding (actor : String) (items : List AuditRecord) : Option ThreatFinding :=
  some (actorFinding "firewall-weakened-" .infra .medium
    s!"{actor} removed network isolation {items.length} time(s)"
    "Guests lost default-deny protection. Confirm each removal was intentional." actor
    [.vmFirewallChanged] items)

/-! ## The rules -/

/-- The rules; `lockedAccountProbes` and `infraChanges` are two each. -/
inductive Rule
  | bruteForceAccounts
  | passwordSpray
  | compromisedLogin
  | scanFindings
  | lockedAccount
  | disabledAccount
  | privilegeGrants
  | massSecretAccess
  | offHoursActivity
  | vmDeletions
  | firewallWeakened
  deriving DecidableEq, Repr

def privilegeEvents : List AuditEvent :=
  [.roleAssigned, .groupRoleAssigned, .permissionChanged, .userCreated, .temporaryAccessGranted]

def isPrivilegeGrant (row : AuditRecord) : Bool :=
  if row.event ∉ privilegeEvents then false
  else if row.event = .userCreated then
    decide (row.detail? "role" = some (.text "ADMIN") ∨ row.detail? "role" = some (.text "OPERATOR"))
  else true

def privilegedEvents : List AuditEvent :=
  privilegeEvents ++ [.userDeleted, .vmDeleted, .vmFirewallChanged, .provisioningStarted, .settingsChanged]

def failedLogins (rows : List AuditRecord) : List AuditRecord :=
  rows.filter fun r => decide (r.event = .loginFailed)

def hostile (rows : List AuditRecord) : List String :=
  (groupBy ((failedLogins rows).filter hasIp) fun r => r.ip.getD "").filterMap fun g =>
    if 5 ≤ g.2.length ∧ fires (15 * 60000) g.2 = true then some g.1 else none

namespace Rule

def hits (rule : Rule) (rows : List AuditRecord) : List AuditRecord :=
  match rule with
  | bruteForceAccounts => failedLogins rows
  | passwordSpray => (failedLogins rows).filter hasIp
  | compromisedLogin => rows.filter fun r =>
      decide (r.event = .login) && hasIp r && (hostile rows).contains (r.ip.getD "")
  | scanFindings => rows.filter fun r => decide (r.event = .scanDetected)
  | lockedAccount => (failedLogins rows).filter fun r =>
      decide (r.detail? "reason" = some (.text "account-locked"))
  | disabledAccount => (failedLogins rows).filter fun r =>
      decide (r.detail? "reason" = some (.text "account-disabled"))
  | privilegeGrants => rows.filter isPrivilegeGrant
  | massSecretAccess => rows.filter fun r => decide (r.event = .passwordRevealed ∨ r.event = .passwordCopied)
  | offHoursActivity => rows.filter fun r => decide (r.event ∈ privilegedEvents) && atNight r
  | vmDeletions => rows.filter fun r => decide (r.event = .vmDeleted)
  | firewallWeakened => rows.filter fun r =>
      decide (r.event = .vmFirewallChanged ∧ r.detail? "isolated" = some (.flag false))

def key (rule : Rule) (r : AuditRecord) : String :=
  match rule with
  | bruteForceAccounts | lockedAccount | disabledAccount => r.actorUsername.getD "unknown"
  | passwordSpray => r.ip.getD ""
  | compromisedLogin => r.actorUsername.getD "unknown" ++ "@" ++ r.ip.getD ""
  | scanFindings => r.ip.getD "unknown"
  | privilegeGrants | massSecretAccess | offHoursActivity | vmDeletions | firewallWeakened =>
    r.actorUsername.getD "system"

def finding (rule : Rule) (subject : String) (items : List AuditRecord) : Option ThreatFinding :=
  match rule with
  | bruteForceAccounts => bruteForceFinding subject items
  | passwordSpray => passwordSprayFinding subject items
  | compromisedLogin => compromisedLoginFinding subject items
  | scanFindings => scanFinding subject items
  | lockedAccount => lockedProbeFinding "account-locked" "locked" subject items
  | disabledAccount => lockedProbeFinding "account-disabled" "disabled" subject items
  | privilegeGrants => privilegeGrantsFinding subject items
  | massSecretAccess => massSecretAccessFinding subject items
  | offHoursActivity => offHoursFinding subject items
  | vmDeletions => vmDeletionsFinding subject items
  | firewallWeakened => firewallWeakenedFinding subject items

def findings (rule : Rule) (rows : List AuditRecord) : List ThreatFinding :=
  (groupBy (rule.hits rows) rule.key).filterMap fun g => rule.finding g.1 g.2

def ident : Rule → String
  | bruteForceAccounts => "brute-force-account-"
  | passwordSpray => "password-spray-"
  | compromisedLogin => "compromised-login-"
  | scanFindings => "recon-scan-"
  | lockedAccount => "locked-probe-account-locked-"
  | disabledAccount => "locked-probe-account-disabled-"
  | privilegeGrants => "privilege-grants-"
  | massSecretAccess => "mass-secret-access-"
  | offHoursActivity => "off-hours-"
  | vmDeletions => "vm-deletions-"
  | firewallWeakened => "firewall-weakened-"

def tag (rule : Rule) (subject : String) : String :=
  match rule with
  | compromisedLogin => slug (loginParts subject).1 ++ "-" ++ slug (loginParts subject).2
  | _ => slug subject

end Rule

def bruteForceAccounts (rows : List AuditRecord) : List ThreatFinding := Rule.bruteForceAccounts.findings rows

def passwordSpray (rows : List AuditRecord) : List ThreatFinding := Rule.passwordSpray.findings rows

def compromisedLogin (rows : List AuditRecord) : List ThreatFinding := Rule.compromisedLogin.findings rows

def scanFindings (rows : List AuditRecord) : List ThreatFinding := Rule.scanFindings.findings rows

def lockedAccountProbes (rows : List AuditRecord) : List ThreatFinding :=
  Rule.lockedAccount.findings rows ++ Rule.disabledAccount.findings rows

def privilegeGrants (rows : List AuditRecord) : List ThreatFinding := Rule.privilegeGrants.findings rows

def massSecretAccess (rows : List AuditRecord) : List ThreatFinding := Rule.massSecretAccess.findings rows

def offHoursActivity (rows : List AuditRecord) : List ThreatFinding := Rule.offHoursActivity.findings rows

def infraChanges (rows : List AuditRecord) : List ThreatFinding :=
  Rule.vmDeletions.findings rows ++ Rule.firewallWeakened.findings rows

/-! ## Detection -/

def dayMs : Int := 86400000

def windowStart (rows : List AuditRecord) (nowMs days : Int) : List AuditRecord :=
  rows.filter fun r => decide (nowMs - days * dayMs ≤ r.createdAt ∧ r.createdAt ≤ nowMs)

/-- `stripSharedEgress`; `shared` tells the shared egress addresses. -/
def stripSharedEgress (shared : String → Bool) (rows : List AuditRecord) : List AuditRecord :=
  rows.map fun r => if (r.ip.any fun ip => decide (ip ≠ "") && shared ip) = true then { r with ip := none } else r

def Ahead (a b : ThreatFinding) : Prop :=
  a.severity.rank < b.severity.rank ∨ (a.severity.rank = b.severity.rank ∧ b.lastSeen ≤ a.lastSeen)

instance : DecidableRel Ahead := fun _ _ => inferInstanceAs (Decidable (_ ∨ _))

/-- `detectThreats`; the sort is stable. -/
def detectThreats (shared : String → Bool) (rows : List AuditRecord) (nowMs windowDays : Int) : List ThreatFinding :=
  let windowed := stripSharedEgress shared (windowStart rows nowMs windowDays)
  (bruteForceAccounts windowed ++ passwordSpray windowed ++ compromisedLogin windowed ++ scanFindings windowed ++
    lockedAccountProbes windowed ++ privilegeGrants windowed ++ massSecretAccess windowed ++
    offHoursActivity windowed ++ infraChanges windowed).insertionSort Ahead

/-! ## Subjects and identifiers -/

theorem exists_mem_groupBy (key : AuditRecord → String) {r : AuditRecord} (hmem : r ∈ rows) :
    ∃ items, (key r, items) ∈ groupBy rows key :=
  ⟨_, List.mem_map.mpr ⟨key r, List.mem_eraseDups.mpr (List.mem_map_of_mem hmem), rfl⟩⟩

def Produces (rule : Rule) (rows : List AuditRecord) (subject : String) (f : ThreatFinding) : Prop :=
  ∃ items, (subject, items) ∈ groupBy (rule.hits rows) rule.key ∧ rule.finding subject items = some f

theorem Rule.mem_findings : f ∈ rule.findings rows ↔ ∃ subject, Produces rule rows subject f := by
  simp only [Rule.findings, List.mem_filterMap, Prod.exists, Produces]

theorem mem_detectThreats {shared : String → Bool} {nowMs days : Int} :
    f ∈ detectThreats shared rows nowMs days ↔
      ∃ rule subject, Produces rule (stripSharedEgress shared (windowStart rows nowMs days)) subject f := by
  rw [detectThreats, List.mem_insertionSort]
  constructor
  · intro hmem
    simp only [List.mem_append, bruteForceAccounts, passwordSpray, compromisedLogin, scanFindings,
      lockedAccountProbes, privilegeGrants, massSecretAccess, offHoursActivity, infraChanges,
      Rule.mem_findings] at hmem
    obtain (((((((hf | hf) | hf) | hf) | hf | hf) | hf) | hf) | hf) | hf | hf := hmem
    all_goals exact ⟨_, hf⟩
  · rintro ⟨rule, subject, hf⟩
    have hmem : f ∈ rule.findings _ := Rule.mem_findings.mpr ⟨subject, hf⟩
    cases rule <;> simp only [List.mem_append, bruteForceAccounts, passwordSpray, compromisedLogin, scanFindings,
      lockedAccountProbes, privilegeGrants, massSecretAccess, offHoursActivity, infraChanges, hmem, true_or, or_true]

theorem Produces.id_eq {subject : String}
    (h : Produces rule rows subject f) : f.id = rule.ident ++ rule.tag subject := by
  obtain ⟨items, -, hf⟩ := h
  cases rule with
  | bruteForceAccounts | passwordSpray | massSecretAccess | compromisedLogin | scanFindings | lockedAccount
    | disabledAccount =>
      simp only [Rule.finding, bruteForceFinding, passwordSprayFinding, massSecretAccessFinding,
        compromisedLoginFinding, scanFinding, lockedProbeFinding] at hf
      split at hf
      · cases hf
      · rw [← Option.some.inj hf]
        rfl
  | privilegeGrants | offHoursActivity | vmDeletions | firewallWeakened =>
      rw [← Option.some.inj hf]
      rfl

theorem Rule.ident_apart : ∀ rule rule' : Rule, rule ≠ rule' → ¬ rule.ident.toList <+: rule'.ident.toList := by
  intro rule rule'
  cases rule <;> cases rule' <;> decide

theorem Rule.eq_of_ident {rule rule' : Rule} {t t' : String} (heq : rule.ident ++ t = rule'.ident ++ t') :
    rule = rule' := by
  have hlist : rule.ident.toList ++ t.toList = rule'.ident.toList ++ t'.toList := by
    rw [← String.toList_append, ← String.toList_append, heq]
  by_contra hne
  obtain hpre | hpre := List.prefix_or_prefix_of_prefix
    (List.prefix_append rule.ident.toList t.toList) (hlist ▸ List.prefix_append rule'.ident.toList t'.toList)
  · exact Rule.ident_apart rule rule' hne hpre
  · exact Rule.ident_apart rule' rule (fun h => hne h.symm) hpre

end ProxVM.Threats
