import ProxVM.Util.Errors

/-!
# Isolation rules

The rules that isolate a VM, as `buildIsolationRules` of `services/firewall.ts`
makes them of the options, and the checks of addresses and ports before it does.
-/

namespace ProxVM.Firewall

inductive RuleAction
  | accept
  | drop
  | reject
  deriving DecidableEq, Repr

namespace RuleAction

def text : RuleAction → String
  | .accept => "ACCEPT"
  | .drop => "DROP"
  | .reject => "REJECT"

end RuleAction

/-- The `type` of a rule, `in` or `out`. -/
inductive Direction
  | inbound
  | outbound
  deriving DecidableEq, Repr

namespace Direction

def text : Direction → String
  | .inbound => "in"
  | .outbound => "out"

end Direction

structure IsolationRule where
  action : RuleAction
  type : Direction
  proto : Option String := none
  dport : Option String := none
  sport : Option String := none
  source : Option String := none
  dest : Option String := none
  comment : Option String := none
  deriving DecidableEq, Repr

structure IsolationOptions where
  allowFrom : Option String := none
  inboundPorts : List String := []
  allowDnsTo : Option String := none
  allowInternet : Option Bool := none
  extraRules : List IsolationRule := []
  deriving DecidableEq, Repr

def proxvmRuleComment : String := "proxvm-isolation"

/-- `isProxvmRule`, of the comment of a rule. -/
def isProxvmRule (comment : Option String) : Bool :=
  comment.any fun text => proxvmRuleComment.toList.isPrefixOf text.toList

def defaultInboundPorts : List String := ["22", "3389", "5900:5910"]

def privateEgressRanges : List String :=
  ["10.0.0.0/8", "172.16.0.0/12", "192.168.0.0/16", "169.254.0.0/16", "127.0.0.0/8"]

/-! ## Checks -/

/-- `Number` of a text of digits. -/
def decimal (digits : List Char) : Nat := digits.foldl (fun n c => 10 * n + (c.toNat - 48)) 0

/-- `\d{1,3}`. -/
def octet? (digits : List Char) : Option Nat :=
  if 1 ≤ digits.length ∧ digits.length ≤ 3 ∧ digits.all Char.isDigit then some (decimal digits)
  else none

/-- `[0-9]|[12][0-9]|3[0-2]`. -/
def prefixLength? (digits : List Char) : Option Nat :=
  match digits with
  | [c] => if c.isDigit then some (decimal [c]) else none
  | [c, d] =>
      if c.isDigit ∧ d.isDigit ∧ c ≠ '0' ∧ decimal [c, d] ≤ 32 then some (decimal [c, d]) else none
  | _ => none

def octets? (value : List Char) : Option (List Nat) :=
  match value.splitOn '.' with
  | [a, b, c, d] => [a, b, c, d].mapM octet?
  | _ => none

def ipv4? (value : List Char) : Option (List Nat × Option Nat) :=
  match value.splitOn '/' with
  | [address] => (octets? address).map fun octets => (octets, none)
  | [address, len] => do
      let octets ← octets? address
      let n ← prefixLength? len
      some (octets, some n)
  | _ => none

/-- `[a-z0-9]`, in either case. -/
def isAlnum (c : Char) : Bool := c.isDigit || c.isLower || c.isUpper

def isHostLabel (label : List Char) : Bool :=
  decide (1 ≤ label.length) && decide (label.length ≤ 63) &&
    label.all (fun c => isAlnum c || c == '-') &&
    label.head?.any isAlnum && label.getLast?.any isAlnum

def isHostname (value : List Char) : Bool :=
  let labels := value.splitOn '.'
  let labels := if 1 < labels.length ∧ labels.getLast? = some [] then labels.dropLast else labels
  decide (value.length ≤ 253) && labels.all isHostLabel

def proxmoxFirewallKeywords : List String := ["any", "all", "$allowlist", "$allow_list"]

/-- `assertAddress`.  No host name has a blank to trim. -/
def assertAddress (value field : String) : Except AppError Unit :=
  match ipv4? value.toList with
  | some (octets, len) =>
      if octets.any fun octet => decide (255 < octet) then
        .error (AppError.validation (field ++ " has an octet above 255"))
      else if len = some 0 then
        .error (AppError.validation
          (field ++ " must not be a 0.0.0.0/0 network (it would allow every source)"))
      else
        .ok ()
  | none =>
      if isHostname value.toList = false then
        .error (AppError.validation (field ++ " must be an IPv4 address, CIDR, or hostname " ++
          "(e.g. 192.168.1.22, 10.0.0.0/24, or guac.example.com)"))
      else if value.toLower ∈ proxmoxFirewallKeywords then
        .error (AppError.validation (field ++ " must not be the Proxmox keyword \"" ++ value ++
          "\" (it would allow every source)"))
      else
        .ok ()

def portRange? (part : List Char) : Option (List Nat) :=
  let pieces := part.splitOn ':'
  if pieces.length ≤ 2 ∧ pieces.all (fun piece => !piece.isEmpty && piece.all Char.isDigit) then
    some (pieces.map decimal)
  else
    none

def inverted (nums : List Nat) : Bool :=
  match nums with
  | [first, last] => decide (last < first)
  | _ => false

/-- `assertPortSpec`, of one part of the list. -/
def assertPortRange (field : String) (part : List Char) : Except AppError Unit :=
  match portRange? part with
  | none => .error (AppError.validation
      (field ++ " must be ports like 22, ranges like 5900:5910, comma-separated"))
  | some nums =>
      if nums.any (fun n => decide (65535 < n)) || inverted nums then
        .error (AppError.validation
          (field ++ " ports must be 0–65535 with range start ≤ end"))
      else
        .ok ()

def assertPortSpec (spec field : String) : Except AppError Unit :=
  if spec.length = 0 ∨ 64 < spec.length ∨
      spec.toList.any (fun c => !(c.isDigit || c == ',' || c == ':')) then
    .error (AppError.validation
      (field ++ " must be ports like 22, ranges like 5900:5910, comma-separated"))
  else
    (spec.toList.splitOn ',').forM (assertPortRange field)

/-! ## The rules -/

/-- `if (text)`: an empty text counts as none. -/
def given (text : Option String) : Option String := text.filter fun text => decide (text ≠ "")

def ruleComment (what : String) : Option String := some (proxvmRuleComment ++ ": " ++ what)

def remoteAccessRules (ports : List String) (allowFrom : String) : List IsolationRule :=
  ports.map fun dport =>
    { action := .accept, type := .inbound, proto := some "tcp", dport := some dport
      source := some allowFrom, comment := ruleComment ("remote access from " ++ allowFrom) }

def dnsRules (allowDnsTo : String) : List IsolationRule :=
  ["udp", "tcp"].map fun proto =>
    { action := .accept, type := .outbound, proto := some proto, dport := some "53"
      dest := some allowDnsTo, comment := ruleComment ("dns to " ++ allowDnsTo) }

def internetRules : List IsolationRule :=
  [{ action := .accept, type := .outbound, proto := some "udp", dport := some "67"
     comment := ruleComment "dhcp client" },
   { action := .accept, type := .inbound, proto := some "udp", dport := some "68"
     comment := ruleComment "dhcp replies" }] ++
  (privateEgressRanges.map fun dest =>
    { action := .drop, type := .outbound, dest := some dest
      comment := ruleComment ("no local network " ++ dest) }) ++
  [{ action := .accept, type := .outbound, comment := ruleComment "internet (non-local)" }]

/-- The checks of `buildIsolationRules`. -/
def checkIsolationOptions (opts : IsolationOptions) : Except AppError Unit := do
  (given opts.allowFrom).toList.forM fun value => assertAddress value "allowFrom"
  (given opts.allowDnsTo).toList.forM fun value => assertAddress value "allowDnsTo"
  opts.inboundPorts.forM fun spec => assertPortSpec spec "inboundPorts"

def buildIsolationRules (opts : IsolationOptions) : Except AppError (List IsolationRule) := do
  checkIsolationOptions opts
  let ports := if opts.inboundPorts.isEmpty then defaultInboundPorts else opts.inboundPorts
  pure (((given opts.allowFrom).toList.flatMap fun value => remoteAccessRules ports value) ++
    ((given opts.allowDnsTo).toList.flatMap dnsRules) ++
    (if opts.allowInternet = some false then [] else internetRules) ++
    opts.extraRules.map fun extra =>
      { extra with comment := some (extra.comment.getD proxvmRuleComment) })

end ProxVM.Firewall
