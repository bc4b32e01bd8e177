import Mathlib.Algebra.Group.Nat.Defs
import Mathlib.Data.List.Forall2
import ProxVM.Firewall.Rules
import ProxVM.Lib.FirstMatch

/-!
# What the isolation rules let through

The chain that `buildIsolationRules` of `services/firewall.ts` makes, as Proxmox
evaluates it for a packet that opens a connection: the first rule that matches decides, and the
policy of an isolated VM is to drop.

An address in a rule is read as an IPv4 address or network; what a host name stands for is a
parameter.  **`outbound_accepted_iff`** and **`inbound_accepted_iff`** say which packets get
through.
-/

namespace ProxVM.Firewall

open FirstMatch

/-! ## Packets -/

structure Packet where
  type : Direction
  proto : String
  source : Nat
  dest : Nat
  sport : Nat
  dport : Nat
  deriving DecidableEq, Repr

def addressOf (octets : List Nat) : Nat := octets.foldl (fun n octet => 256 * n + octet) 0

def inNetwork (network : List Nat × Option Nat) (address : Nat) : Bool :=
  let bits := 32 - network.2.getD 32
  decide (address / 2 ^ bits = addressOf network.1 / 2 ^ bits)

/-- A text of a rule stands for an address; `resolve` gives the addresses of a host name. -/
def standsFor (resolve : String → List Nat) (text : String) (address : Nat) : Bool :=
  match ipv4? text.toList with
  | some network => inNetwork network address
  | none => decide (address ∈ resolve text)

def rangeHas (part : List Char) (port : Nat) : Bool :=
  match portRange? part with
  | some [n] => decide (port = n)
  | some [first, last] => decide (first ≤ port) && decide (port ≤ last)
  | _ => false

def specHas (spec : String) (port : Nat) : Bool := (spec.toList.splitOn ',').any fun part => rangeHas part port

def IsolationRule.hits (resolve : String → List Nat) (p : Packet) (rule : IsolationRule) : Bool :=
  decide (rule.type = p.type) && rule.proto.all (fun proto => decide (proto = p.proto)) &&
    rule.dport.all (fun spec => specHas spec p.dport) &&
    rule.sport.all (fun spec => specHas spec p.sport) &&
    rule.source.all (fun text => standsFor resolve text p.source) &&
    rule.dest.all (fun text => standsFor resolve text p.dest)

def fate (resolve : String → List Nat) (rules : List IsolationRule) (p : Packet) : RuleAction :=
  verdict (IsolationRule.hits resolve p) IsolationRule.action .drop rules

/-- The networks no VM may reach: `10.0.0.0/8`, `172.16.0.0/12`, `192.168.0.0/16`,
`169.254.0.0/16` and `127.0.0.0/8`. -/
def IsPrivate (address : Nat) : Prop :=
  address / 2 ^ 24 = 10 ∨ address / 2 ^ 20 = 172 * 16 + 1 ∨ address / 2 ^ 16 = 192 * 256 + 168 ∨
    address / 2 ^ 16 = 169 * 256 + 254 ∨ address / 2 ^ 24 = 127

/-! ## The rules -/

section rules

variable {resolve : String → List Nat} {p : Packet}

theorem specHas_single {spec : String} {n : Nat} (hsplit : spec.toList.splitOn ',' = [spec.toList])
    (hrange : portRange? spec.toList = some [n]) (port : Nat) : specHas spec port = true ↔ port = n := by
  unfold specHas
  rw [hsplit]
  simp [rangeHas, hrange]

theorem specHas_53 (port : Nat) : specHas "53" port = true ↔ port = 53 :=
  specHas_single (by decide) (by decide) port

theorem specHas_67 (port : Nat) : specHas "67" port = true ↔ port = 67 :=
  specHas_single (by decide) (by decide) port

theorem specHas_68 (port : Nat) : specHas "68" port = true ↔ port = 68 :=
  specHas_single (by decide) (by decide) port

variable {text : String}

theorem exists_dnsRules : (∃ rule ∈ dnsRules text, rule.hits resolve p = true) ↔
      p.type = .outbound ∧ (p.proto = "udp" ∨ p.proto = "tcp") ∧ p.dport = 53 ∧
        standsFor resolve text p.dest = true := by
  simp only [dnsRules, List.map_cons, List.map_nil, List.mem_cons, List.not_mem_nil, or_false,
    exists_eq_or_imp, exists_eq_left, IsolationRule.hits, Option.all_some, Option.all_none,
    Bool.and_eq_true, decide_eq_true_eq, specHas_53, true_and, and_assoc]
  constructor
  · rintro (⟨htype, hproto, hport, hdest⟩ | ⟨htype, hproto, hport, hdest⟩)
    · exact ⟨htype.symm, .inl hproto.symm, hport, hdest⟩
    · exact ⟨htype.symm, .inr hproto.symm, hport, hdest⟩
  · rintro ⟨htype, hproto | hproto, hport, hdest⟩
    · exact .inl ⟨htype.symm, hproto.symm, hport, hdest⟩
    · exact .inr ⟨htype.symm, hproto.symm, hport, hdest⟩

theorem exists_remoteAccessRules {ports : List String} :
    (∃ rule ∈ remoteAccessRules ports text, rule.hits resolve p = true) ↔
      p.type = .inbound ∧ p.proto = "tcp" ∧ (∃ spec ∈ ports, specHas spec p.dport = true) ∧
        standsFor resolve text p.source = true := by
  simp only [remoteAccessRules, List.mem_map, exists_exists_and_eq_and, IsolationRule.hits, Option.all_some,
    Option.all_none, Bool.and_eq_true, decide_eq_true_eq, and_true, true_and, and_assoc]
  constructor
  · rintro ⟨spec, hspec, htype, hproto, hport, hsource⟩
    exact ⟨htype.symm, hproto.symm, ⟨spec, hspec, hport⟩, hsource⟩
  · rintro ⟨htype, hproto, ⟨spec, hspec, hport⟩, hsource⟩
    exact ⟨spec, hspec, htype.symm, hproto.symm, hport, hsource⟩

theorem standsFor_network {octets : List Nat} {len : Nat}
    (htext : ipv4? text.toList = some (octets, some len)) (address : Nat) :
    standsFor resolve text address = true ↔ address / 2 ^ (32 - len) = addressOf octets / 2 ^ (32 - len) := by
  unfold standsFor
  rw [htext]
  exact decide_eq_true_iff

theorem exists_privateEgressRanges {address : Nat} :
    (∃ range ∈ privateEgressRanges, standsFor resolve range address = true) ↔ IsPrivate address := by
  have h10 : standsFor resolve "10.0.0.0/8" address = true ↔ address / 2 ^ 24 = 10 :=
    standsFor_network (by decide : ipv4? "10.0.0.0/8".toList = some ([10, 0, 0, 0], some 8)) address
  have h172 : standsFor resolve "172.16.0.0/12" address = true ↔ address / 2 ^ 20 = 172 * 16 + 1 :=
    standsFor_network (by decide : ipv4? "172.16.0.0/12".toList = some ([172, 16, 0, 0], some 12)) address
  have h192 : standsFor resolve "192.168.0.0/16" address = true ↔ address / 2 ^ 16 = 192 * 256 + 168 :=
    standsFor_network (by decide : ipv4? "192.168.0.0/16".toList = some ([192, 168, 0, 0], some 16)) address
  have h169 : standsFor resolve "169.254.0.0/16" address = true ↔ address / 2 ^ 16 = 169 * 256 + 254 :=
    standsFor_network (by decide : ipv4? "169.254.0.0/16".toList = some ([169, 254, 0, 0], some 16)) address
  have h127 : standsFor resolve "127.0.0.0/8" address = true ↔ address / 2 ^ 24 = 127 :=
    standsFor_network (by decide : ipv4? "127.0.0.0/8".toList = some ([127, 0, 0, 0], some 8)) address
  simp only [privateEgressRanges, List.mem_cons, List.not_mem_nil, or_false, exists_eq_or_imp,
    exists_eq_left, h10, h172, h192, h169, h127, IsPrivate]

theorem buildIsolationRules_eq {opts : IsolationOptions} {rules : List IsolationRule}
    (hbuild : buildIsolationRules opts = .ok rules) (hextra : opts.extraRules = [])
    (hinternet : opts.allowInternet ≠ some false) : rules =
      ((given opts.allowFrom).toList.flatMap fun value => remoteAccessRules
        (if opts.inboundPorts.isEmpty then defaultInboundPorts else opts.inboundPorts) value) ++
      ((given opts.allowDnsTo).toList.flatMap dnsRules) ++ internetRules := by
  unfold buildIsolationRules at hbuild
  cases hcheck : checkIsolationOptions opts with
  | error e =>
      rw [hcheck] at hbuild
      cases hbuild
  | ok _ =>
      rw [hcheck] at hbuild
      cases hbuild
      rw [if_neg hinternet, hextra, List.map_nil, List.append_nil]

def privateDrops : List IsolationRule :=
  privateEgressRanges.map fun dest =>
    { action := .drop, type := .outbound, dest := some dest
      comment := ruleComment ("no local network " ++ dest) }

theorem exists_privateDrops :
    (∃ rule ∈ privateDrops, rule.hits resolve p = true) ↔ p.type = .outbound ∧ IsPrivate p.dest := by
  have hranges : (∃ range ∈ privateEgressRanges, standsFor resolve range p.dest = true) ↔
      IsPrivate p.dest := exists_privateEgressRanges
  rw [← hranges]
  simp only [privateDrops, List.mem_map, exists_exists_and_eq_and, IsolationRule.hits,
    Option.all_some, Option.all_none, Bool.and_eq_true, decide_eq_true_eq, and_true]
  constructor
  · rintro ⟨dest, hdest, htype, hstands⟩
    exact ⟨htype.symm, dest, hdest, hstands⟩
  · rintro ⟨htype, dest, hdest, hstands⟩
    exact ⟨dest, hdest, htype.symm, hstands⟩

theorem fate_internetRules : fate resolve internetRules p = .accept ↔
    (p.type = .outbound ∧ p.proto = "udp" ∧ p.dport = 67) ∨
      (p.type = .inbound ∧ p.proto = "udp" ∧ p.dport = 68) ∨ (p.type = .outbound ∧ ¬ IsPrivate p.dest) := by
  have hrules : internetRules =
      [{ action := .accept, type := .outbound, proto := some "udp", dport := some "67"
         comment := ruleComment "dhcp client" },
       { action := .accept, type := .inbound, proto := some "udp", dport := some "68"
         comment := ruleComment "dhcp replies" }] ++
      (privateDrops ++
      ([{ action := .accept, type := .outbound, comment := ruleComment "internet (non-local)" }] ++
        [])) := rfl
  unfold fate
  rw [hrules, verdict_append_of_forall (by simp), verdict_append_of_forall_ne (by simp [privateDrops]),
    verdict_append_of_forall (by simp), exists_privateDrops]
  simp only [List.mem_cons, List.not_mem_nil, or_false, exists_eq_or_imp, exists_eq_left,
    IsolationRule.hits, Option.all_some, Option.all_none, Bool.and_eq_true, decide_eq_true_eq,
    specHas_67, specHas_68, and_true, and_assoc, verdict_nil, reduceCtorEq]
  cases p.type <;> simp [eq_comm]

theorem fate_isolation {opts : IsolationOptions} {rules : List IsolationRule}
    (hbuild : buildIsolationRules opts = .ok rules) (hextra : opts.extraRules = [])
    (hinternet : opts.allowInternet ≠ some false) : fate resolve rules p = .accept ↔
      (∃ host, given opts.allowFrom = some host ∧ p.type = .inbound ∧ p.proto = "tcp" ∧
        (∃ spec ∈ if opts.inboundPorts.isEmpty then defaultInboundPorts else opts.inboundPorts,
          specHas spec p.dport = true) ∧ standsFor resolve host p.source = true) ∨
      (∃ resolver, given opts.allowDnsTo = some resolver ∧ p.type = .outbound ∧
        (p.proto = "udp" ∨ p.proto = "tcp") ∧ p.dport = 53 ∧
          standsFor resolve resolver p.dest = true) ∨ fate resolve internetRules p = .accept := by
  rw [buildIsolationRules_eq hbuild hextra hinternet, fate, List.append_assoc]
  have hremote : ∀ rule ∈ (given opts.allowFrom).toList.flatMap fun value => remoteAccessRules
      (if opts.inboundPorts.isEmpty then defaultInboundPorts else opts.inboundPorts) value,
      rule.action = .accept := by
    intro rule hrule
    obtain ⟨value, -, hrule⟩ := List.mem_flatMap.mp hrule
    obtain ⟨dport, -, rfl⟩ := List.mem_map.mp hrule
    rfl
  have hdns : ∀ rule ∈ (given opts.allowDnsTo).toList.flatMap dnsRules, rule.action = .accept := by
    intro rule hrule
    obtain ⟨value, -, hrule⟩ := List.mem_flatMap.mp hrule
    obtain ⟨proto, -, rfl⟩ := List.mem_map.mp hrule
    rfl
  have hexists : ∀ (text : Option String) (f : String → List IsolationRule),
      (∃ rule ∈ text.toList.flatMap f, rule.hits resolve p = true) ↔
        ∃ value, text = some value ∧ ∃ rule ∈ f value, rule.hits resolve p = true := by
    intro text f
    cases text with
    | none => simp
    | some value => simp
  rw [verdict_append_of_forall hremote, verdict_append_of_forall hdns, hexists, hexists]
  simp only [exists_remoteAccessRules, exists_dnsRules]
  rfl

end rules

/-! ## What gets through -/

section packets

variable {resolve : String → List Nat} {opts : IsolationOptions} {rules : List IsolationRule}
  {p : Packet}

/-- **An outbound packet gets through** exactly when it is DNS to the resolver, DHCP, or to an
address in no private network. -/
theorem outbound_accepted_iff (hbuild : buildIsolationRules opts = .ok rules)
    (hextra : opts.extraRules = []) (hinternet : opts.allowInternet ≠ some false)
    (hout : p.type = .outbound) : fate resolve rules p = .accept ↔
      (∃ resolver, given opts.allowDnsTo = some resolver ∧ (p.proto = "udp" ∨ p.proto = "tcp") ∧
        p.dport = 53 ∧ standsFor resolve resolver p.dest = true) ∨
      (p.proto = "udp" ∧ p.dport = 67) ∨ ¬ IsPrivate p.dest := by
  rw [fate_isolation hbuild hextra hinternet, fate_internetRules]
  simp only [hout, reduceCtorEq, false_and, and_false, exists_false, false_or, true_and]

/-- **An inbound packet gets through** exactly when it is TCP from the allowed host to a listed
port, or a DHCP reply. -/
theorem inbound_accepted_iff (hbuild : buildIsolationRules opts = .ok rules)
    (hextra : opts.extraRules = []) (hinternet : opts.allowInternet ≠ some false)
    (hin : p.type = .inbound) : fate resolve rules p = .accept ↔
      (∃ host, given opts.allowFrom = some host ∧ p.proto = "tcp" ∧
        (∃ spec ∈ if opts.inboundPorts.isEmpty then defaultInboundPorts else opts.inboundPorts,
          specHas spec p.dport = true) ∧ standsFor resolve host p.source = true) ∨
      (p.proto = "udp" ∧ p.dport = 68) := by
  rw [fate_isolation hbuild hextra hinternet, fate_internetRules]
  simp only [hin, reduceCtorEq, false_and, and_false, exists_false, false_or, true_and, or_false]

/-- **The isolation rules mean what the options say.** -/
theorem isolation_accepts_iff (hbuild : buildIsolationRules opts = .ok rules)
    (hextra : opts.extraRules = []) (hinternet : opts.allowInternet ≠ some false) :
    (p.type = .outbound → (fate resolve rules p = .accept ↔
      (∃ resolver, given opts.allowDnsTo = some resolver ∧ (p.proto = "udp" ∨ p.proto = "tcp") ∧
        p.dport = 53 ∧ standsFor resolve resolver p.dest = true) ∨
      (p.proto = "udp" ∧ p.dport = 67) ∨ ¬ IsPrivate p.dest)) ∧
    (p.type = .inbound → (fate resolve rules p = .accept ↔
      (∃ host, given opts.allowFrom = some host ∧ p.proto = "tcp" ∧
        (∃ spec ∈ if opts.inboundPorts.isEmpty then defaultInboundPorts else opts.inboundPorts,
          specHas spec p.dport = true) ∧ standsFor resolve host p.source = true) ∨
      (p.proto = "udp" ∧ p.dport = 68))) :=
  ⟨outbound_accepted_iff hbuild hextra hinternet, inbound_accepted_iff hbuild hextra hinternet⟩

/-- A VM that `192.168.1.22` may reach, and whose resolver is `10.0.0.53`. -/
def plainOptions : IsolationOptions :=
  { allowFrom := some "192.168.1.22", allowDnsTo := some "10.0.0.53" }

theorem isolation_accepts_iff_sample : fate (fun _ => [])
    ((buildIsolationRules plainOptions).toOption.getD [])
    ⟨.inbound, "tcp", 192 * 2 ^ 24 + 168 * 2 ^ 16 + 256 + 22, 0, 40000, 22⟩ = .accept := by
  have hbuild : buildIsolationRules plainOptions =
      .ok ((buildIsolationRules plainOptions).toOption.getD []) := by decide
  refine ((isolation_accepts_iff hbuild rfl (by decide)).2 rfl).mpr (.inl ⟨"192.168.1.22", ?_, rfl, ?_, ?_⟩)
  · decide
  · exact ⟨"22", by decide, by decide⟩
  · decide

end packets

end ProxVM.Firewall
