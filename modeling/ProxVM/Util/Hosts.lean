import Mathlib.Algebra.Group.Nat.Defs
import Mathlib.Order.Defs.LinearOrder
import ProxVM.Firewall.Rules

/-!
# Hosts the server must not dial

`isBlockedServerDestination` of `util/ssrf.ts` and `isBlockedWebhookHost` of
`services/threats.ts`, which mirrors it, and `isIP` of `node:net`.  Both look at
the host in lower case and without the brackets of an IPv6 literal.
-/

namespace ProxVM

/-! ## Numbers in hosts -/

/-- `[0-9a-f]`, in either case. -/
def isHexDigit (c : Char) : Bool :=
  c.isDigit || (decide ('a' ≤ c) && decide (c ≤ 'f')) || (decide ('A' ≤ c) && decide (c ≤ 'F'))

def hexValue (c : Char) : Nat :=
  if c.isDigit then c.toNat - 48 else if c.isLower then c.toNat - 87 else c.toNat - 55

/-- `parseInt(digits, base)`. -/
def parseDigits (base : Nat) (digits : List Char) : Nat :=
  digits.foldl (fun n c => base * n + hexValue c) 0

def partDigits (part : List Char) : Option (Nat × List Char) :=
  match part with
  | '0' :: x :: rest =>
      if (x = 'x' ∨ x = 'X') ∧ rest ≠ [] ∧ rest.all isHexDigit then some (16, rest)
      else if (x :: rest).all fun c => decide ('0' ≤ c) && decide (c ≤ '7') then some (8, x :: rest)
      else if part.all Char.isDigit then some (10, part)
      else none
  | _ => if part ≠ [] ∧ part.all Char.isDigit then some (10, part) else none

def parsePart (part : List Char) : Option Nat := do
  let (base, digits) ← partDigits part
  let n := parseDigits base digits
  if n ≤ 0xffffffff then some n else none

def octetsOf (n : Nat) : List Nat := [n / 2 ^ 24 % 256, n / 2 ^ 16 % 256, n / 2 ^ 8 % 256, n % 256]

def numericOctets (v4 : List Char) : Option (List Nat) := do
  let nums ← (v4.splitOn '.').mapM parsePart
  match nums with
  | [n] => some (octetsOf n)
  | [a, tail] => if 255 < a ∨ 2 ^ 24 ≤ tail then none else some (a :: (octetsOf tail).drop 1)
  | [a, b, tail] =>
      if 255 < a ∨ 255 < b ∨ 2 ^ 16 ≤ tail then none else some (a :: b :: (octetsOf tail).drop 2)
  | [a, b, c, d] => if [a, b, c, d].any fun n => decide (255 < n) then none else some [a, b, c, d]
  | _ => none

/-- What follows `::ffff:`. -/
def mappedTail (host : List Char) : Option (List Char) :=
  let tail := host.drop 7
  if (host.take 7).map Char.toLower = "::ffff:".toList ∧ tail ≠ [] ∧
      tail.all fun c => !(['\n', '\r', '\u2028', '\u2029'].contains c) then some tail
  else none

def hexGroups (tail : List Char) : Option (List Nat) :=
  match tail.splitOn ':' with
  | [g, g'] =>
      if [g, g'].all fun g => decide (1 ≤ g.length ∧ g.length ≤ 4) && g.all isHexDigit then
        some (octetsOf (parseDigits 16 g * 2 ^ 16 + parseDigits 16 g'))
      else none
  | _ => none

/-- `parseNumericParts`: a tail that cannot be parsed is taken for loopback. -/
def parseNumericParts (host : List Char) : Option (List Nat) :=
  match mappedTail host with
  | none => numericOctets host
  | some tail => if ':' ∈ tail then some ((hexGroups tail).getD [127, 0, 0, 1]) else numericOctets tail

/-! ## Blocked hosts -/

def blockedOctets : List Nat → Bool
  | a :: b :: _ => decide (a = 127 ∨ a = 0) || decide (a = 169 ∧ b = 254)
  | _ => false

def withoutLeft : List Char → List Char
  | '[' :: rest => rest
  | host => host

def withoutRight (host : List Char) : List Char :=
  if host.getLast? = some ']' then host.dropLast else host

/-- `host.replace(/^\[|\]$/g, "")`. -/
def unbracket (host : List Char) : List Char := withoutRight (withoutLeft host)

def bareHost (hostname : String) : List Char := unbracket (hostname.toList.map Char.toLower)

def isInternalName (host : List Char) : Bool :=
  decide (host = "localhost".toList) || decide (host = "metadata.google.internal".toList) ||
    ".metadata.google.internal".toList.isSuffixOf host

def blockedQuadPrefix (host : List Char) : Bool :=
  match host.splitOn '.' with
  | a :: b :: c :: d :: _ :: _ =>
      match [a, b, c, d].mapM Firewall.octet? with
      | some octets => octets.all (fun n => decide (n ≤ 255)) && blockedOctets octets
      | none => false
  | _ => false

def blockedV6 (host : List Char) : Bool :=
  decide (host = "::1".toList) || decide (host = "::".toList) || "fe80:".toList.isPrefixOf host ||
    "fc".toList.isPrefixOf host || "fd".toList.isPrefixOf host

def isBlockedServerDestination (hostname : String) : Bool :=
  let host := bareHost hostname
  isInternalName host || blockedQuadPrefix host ||
    match parseNumericParts host with
    | some numeric => blockedOctets numeric
    | none => decide (':' ∈ host) && (blockedV6 host || "::ffff:".toList.isPrefixOf host)

def isBlockedWebhookHost (hostname : String) : Bool :=
  let host := bareHost hostname
  isInternalName host || blockedQuadPrefix host ||
    match mappedTail host with
    | some tail =>
        if ':' ∈ tail then
          match hexGroups tail with
          | none => true
          | some numeric => blockedOctets numeric
        else
          match numericOctets tail with
          | some numeric => blockedOctets numeric
          | none => decide (':' ∈ host) && blockedV6 host
    | none =>
        match numericOctets host with
        | some numeric => blockedOctets numeric
        | none => decide (':' ∈ host) && blockedV6 host

/-! ## Addresses -/

/-- `isIPv4`: four numbers up to 255, without leading zeros. -/
def isIPv4 (s : List Char) : Bool :=
  s.all (fun c => c.isDigit || c == '.') && match s.splitOn '.' with
    | [a, b, c, d] => [a, b, c, d].all fun part =>
        decide (part ≠ [] ∧ part.length ≤ 3 ∧ parseDigits 10 part ≤ 255) &&
          (decide (part.length = 1) || part.head? != some '0')
    | _ => false

/-- The number of groups of 16 bits, if the text is made of groups; the last may be an IPv4
address. -/
def groupCount (s : List Char) : Option Nat :=
  if s = [] then some 0 else
    let groups := s.splitOn ':'
    let isGroup (g : List Char) : Bool := decide (1 ≤ g.length ∧ g.length ≤ 4) && g.all isHexDigit
    match groups.getLast? with
    | none => none
    | some last =>
        if !(groups.dropLast.all isGroup) then none
        else if isGroup last then some groups.length
        else if isIPv4 last then some (groups.length + 1)
        else none

/-- The text before the first `::` and the text after it. -/
def cutAtGap : List Char → Option (List Char × List Char)
  | ':' :: ':' :: rest => some ([], rest)
  | c :: rest => (cutAtGap rest).map fun cut => (c :: cut.1, cut.2)
  | [] => none

/-- `isIPv6`: eight groups, or fewer with one gap; a zone may follow. -/
def isIPv6 (s : List Char) : Bool :=
  let isZoneChar (c : Char) : Bool := c.isAlphanum || c == '-' || c == '.' || c == ':'
  let address := s.takeWhile (· != '%')
  let zone := s.dropWhile (· != '%')
  s.all (fun c => isZoneChar c || c == '%') && zone.length != 1 && (zone.drop 1).all isZoneChar &&
    match cutAtGap address with
    | none => decide (groupCount address = some 8)
    | some (left, right) =>
        match groupCount left, groupCount right with
        | some m, some n => decide (m + n ≤ 7)
        | _, _ => false

/-- `isIP`, as a test. -/
def isIP (s : String) : Bool := isIPv4 s.toList || isIPv6 s.toList

/-! ## Literals -/

theorem toLower_toLower (c : Char) : c.toLower.toLower = c.toLower := by
  unfold Char.toLower
  split
  · next h =>
      have hlower : ¬ (c.val + ('a'.val - 'A'.val) ≥ 'A'.val ∧ c.val + ('a'.val - 'A'.val) ≤ 'Z'.val) := by
        simp only [ge_iff_le, UInt32.le_iff_toNat_le, UInt32.toNat_add, not_and, Nat.not_le] at h ⊢
        have hA : 'A'.val.toNat = 65 := rfl
        have hZ : 'Z'.val.toNat = 90 := rfl
        have hshift : ('a'.val - 'A'.val).toNat = 32 := rfl
        omega
      exact dif_neg hlower
  · rfl

variable {c : Char} {host : List Char} {hostname address : String}

theorem mem_of_mem_unbracket (hc : c ∈ unbracket host) : c ∈ host := by
  have hleft : c ∈ withoutLeft host := by
    unfold unbracket withoutRight at hc
    split at hc
    · exact List.dropLast_subset _ hc
    · exact hc
  unfold withoutLeft at hleft
  split at hleft
  · exact List.mem_cons_of_mem _ hleft
  · exact hleft

theorem unbracket_of_not_mem (hleft : '[' ∉ host) (hright : ']' ∉ host) : unbracket host = host := by
  have hsame : withoutLeft host = host := by
    unfold withoutLeft
    split
    · exact absurd List.mem_cons_self hleft
    · rfl
  unfold unbracket withoutRight
  rw [hsame]
  exact if_neg fun hlast => hright (List.mem_of_getLast? hlast)

theorem not_mem_of_isIP {s : String} (hip : isIP s = true)
    (hc : (c.isAlphanum || c == '-' || c == '.' || c == ':' || c == '%') = false) : c ∉ s.toList := by
  intro hmem
  simp only [Bool.or_eq_false_iff] at hc
  obtain ⟨⟨⟨⟨halnum, hdash⟩, hdot⟩, hcolon⟩, hpercent⟩ := hc
  unfold isIP isIPv4 isIPv6 at hip
  simp only [Bool.or_eq_true, Bool.and_eq_true, List.all_eq_true] at hip
  obtain ⟨hchars, -⟩ | ⟨⟨⟨hchars, -⟩, -⟩, -⟩ := hip
  · obtain hdigit | hdot' := hchars c hmem
    · rw [Char.isAlphanum, hdigit, Bool.or_true] at halnum
      cases halnum
    · exact absurd hdot' (ne_true_of_eq_false hdot)
  · obtain (((h | h) | h) | h) | h := hchars c hmem
    · exact absurd h (ne_true_of_eq_false halnum)
    · exact absurd h (ne_true_of_eq_false hdash)
    · exact absurd h (ne_true_of_eq_false hdot)
    · exact absurd h (ne_true_of_eq_false hcolon)
    · exact absurd h (ne_true_of_eq_false hpercent)

def literal? (hostname : String) : Option String := [hostname, String.ofList (bareHost hostname)].find? isIP

theorem bareHost_of_literal (hliteral : literal? hostname = some address) :
    bareHost address = bareHost hostname := by
  have hip : isIP address = true := List.find?_some hliteral
  have hmem : address ∈ [hostname, String.ofList (bareHost hostname)] := List.mem_of_find?_eq_some hliteral
  obtain rfl | hbare := List.mem_cons.mp hmem
  · rfl
  · have haddress : address.toList = bareHost hostname := by
      rw [List.mem_singleton.mp hbare, String.toList_ofList]
    have hlower : address.toList.map Char.toLower = address.toList := by
      refine (List.map_congr_left fun c hc => ?_).trans (List.map_id _)
      rw [haddress] at hc
      obtain ⟨d, -, rfl⟩ := List.mem_map.mp (mem_of_mem_unbracket hc)
      exact toLower_toLower d
    unfold bareHost at haddress ⊢
    rw [hlower, unbracket_of_not_mem (not_mem_of_isIP hip rfl) (not_mem_of_isIP hip rfl), haddress]

theorem literal_of_isIP (hip : isIP hostname = true) : literal? hostname = some hostname := by
  unfold literal?
  rw [List.find?_cons_of_pos hip]

theorem isBlockedServerDestination_of_literal (hliteral : literal? hostname = some address) :
    isBlockedServerDestination address = isBlockedServerDestination hostname := by
  unfold isBlockedServerDestination
  rw [bareHost_of_literal hliteral]

theorem isBlockedWebhookHost_of_literal (hliteral : literal? hostname = some address) :
    isBlockedWebhookHost address = isBlockedWebhookHost hostname := by
  unfold isBlockedWebhookHost
  rw [bareHost_of_literal hliteral]

/-! ## Agreement

The two checks judge a host alike up to what follows `::ffff:`.  A tail that is neither hexadecimal
groups nor an address is refused by the one and let through by the other.
-/

def isMapped (host : List Char) : Bool := "::ffff:".toList.isPrefixOf host

/-- What follows `::ffff:` can be judged. -/
def Judged (host : List Char) : Prop :=
  ∃ tail, mappedTail host = some tail ∧ (':' ∈ tail ∨ (numericOctets tail).isSome)

theorem toLower_of_mem_bareHost (hc : c ∈ bareHost hostname) : c.toLower = c := by
  obtain ⟨d, -, rfl⟩ := List.mem_map.mp (mem_of_mem_unbracket hc)
  exact toLower_toLower d

theorem isMapped_iff : isMapped host = true ↔ host.take 7 = "::ffff:".toList := by
  unfold isMapped
  rw [List.isPrefixOf_iff_prefix, List.prefix_iff_eq_take]
  exact eq_comm

theorem isMapped_of_mappedTail {tail : List Char}
    (htail : mappedTail (bareHost hostname) = some tail) : isMapped (bareHost hostname) = true := by
  have hlower : ((bareHost hostname).take 7).map Char.toLower = (bareHost hostname).take 7 :=
    (List.map_congr_left fun c hc => toLower_of_mem_bareHost (List.take_subset _ _ hc)).trans (List.map_id _)
  unfold mappedTail at htail
  simp only at htail
  split at htail
  · next hmapped =>
      rw [hlower] at hmapped
      exact isMapped_iff.mpr hmapped.1
  · cases htail

theorem splitOn_colon (rest : List Char) :
    ∃ head parts, (':' :: rest).splitOn '.' = (':' :: head) :: parts := by
  obtain ⟨head, parts, hsplit⟩ := List.exists_cons_of_ne_nil (List.splitOnP_ne_nil (· == '.') rest)
  refine ⟨head, parts, ?_⟩
  show List.splitOnP (· == '.') (':' :: rest) = _
  rw [List.splitOnP_cons_eq_if_modifyHead, hsplit]
  rfl

theorem parsePart_colon (head : List Char) : parsePart (':' :: head) = none := by
  have hdigits : partDigits (':' :: head) = none := by
    show (if (':' :: head) ≠ [] ∧ (':' :: head).all Char.isDigit then some (10, ':' :: head) else none) = none
    refine if_neg fun h => ?_
    exact absurd (List.all_eq_true.mp h.2 ':' List.mem_cons_self) (by decide)
  unfold parsePart
  rw [hdigits]
  rfl

theorem numericOctets_colon (rest : List Char) : numericOctets (':' :: rest) = none := by
  obtain ⟨head, parts, hsplit⟩ := splitOn_colon rest
  unfold numericOctets
  rw [hsplit, List.mapM_cons, parsePart_colon]
  rfl

theorem blockedQuadPrefix_colon (rest : List Char) : blockedQuadPrefix (':' :: rest) = false := by
  obtain ⟨head, parts, hsplit⟩ := splitOn_colon rest
  have hoctet : Firewall.octet? (':' :: head) = none := by
    unfold Firewall.octet?
    rw [if_neg]
    intro h
    exact absurd (List.all_eq_true.mp h.2.2 ':' List.mem_cons_self) (by decide)
  unfold blockedQuadPrefix
  rw [hsplit]
  split
  · next a b c d e rest' heq =>
      obtain ⟨rfl, -⟩ := List.cons.inj heq
      rw [List.mapM_cons, hoctet]
      rfl
  · rfl

theorem eq_of_isMapped (hmapped : isMapped host = true) :
    ∃ tail, host = ':' :: ':' :: 'f' :: 'f' :: 'f' :: 'f' :: ':' :: tail := by
  refine ⟨host.drop 7, ?_⟩
  calc host = host.take 7 ++ host.drop 7 := (List.take_append_drop 7 host).symm
    _ = "::ffff:".toList ++ host.drop 7 := by rw [isMapped_iff.mp hmapped]
    _ = _ := rfl

theorem blockedV6_of_isMapped (hmapped : isMapped host = true) : blockedV6 host = false := by
  obtain ⟨tail, rfl⟩ := eq_of_isMapped hmapped
  rfl

theorem colon_mem_of_isMapped (hmapped : isMapped host = true) : ':' ∈ host := by
  obtain ⟨tail, rfl⟩ := eq_of_isMapped hmapped
  exact List.mem_cons_self

/-- **The two checks** give the same answer exactly when what follows `::ffff:` can be judged, or the
host is refused by its name. -/
theorem isBlockedWebhookHost_eq_iff (hostname : String) :
    isBlockedWebhookHost hostname = isBlockedServerDestination hostname ↔
      (isMapped (bareHost hostname) = true →
        isInternalName (bareHost hostname) = true ∨ Judged (bareHost hostname)) := by
  unfold isBlockedWebhookHost isBlockedServerDestination parseNumericParts
  by_cases hmapped : isMapped (bareHost hostname) = true
  · have hquad : blockedQuadPrefix (bareHost hostname) = false := by
      obtain ⟨tail, heq⟩ := eq_of_isMapped hmapped
      rw [heq, blockedQuadPrefix_colon]
    have hnumeric : numericOctets (bareHost hostname) = none := by
      obtain ⟨tail, heq⟩ := eq_of_isMapped hmapped
      rw [heq, numericOctets_colon]
    have hv6 := blockedV6_of_isMapped hmapped
    have hmem := colon_mem_of_isMapped hmapped
    have hprefix : "::ffff:".toList.isPrefixOf (bareHost hostname) = true := hmapped
    simp only [hquad, Bool.or_false, hmapped, true_implies, hv6, Bool.and_false, hprefix, Bool.or_true,
      hmem, decide_true, Bool.and_true]
    cases hname : isInternalName (bareHost hostname) with
    | true => simp only [Bool.true_or, true_or]
    | false =>
        simp only [Bool.false_or, Bool.false_eq_true, false_or]
        cases htail : mappedTail (bareHost hostname) with
        | none => simp [Judged, htail, hnumeric]
        | some tail =>
            by_cases hcolon : ':' ∈ tail
            · -- a pair of groups that cannot be parsed is refused by the one and loopback for the other
              cases hgroups : hexGroups tail with
              | none => simp [Judged, htail, hcolon, hgroups, blockedOctets]
              | some octets => simp [Judged, htail, hcolon, hgroups]
            · cases hoctets : numericOctets tail with
              | none => simp [Judged, htail, hcolon, hoctets]
              | some octets => simp [Judged, htail, hcolon, hoctets]
  · -- without the prefix no tail is taken, and the last test of the server's check fails
    have htail : mappedTail (bareHost hostname) = none :=
      Option.eq_none_iff_forall_ne_some.mpr fun tail h => hmapped (isMapped_of_mappedTail h)
    have hprefix : "::ffff:".toList.isPrefixOf (bareHost hostname) = false :=
      Bool.eq_false_iff.mpr hmapped
    simp only [htail, hmapped, Bool.false_eq_true, false_implies, hprefix, Bool.or_false]

/-- A mapped tail that is no address is refused by the server's check and not by the webhook's. -/
theorem guards_disagree :
    ¬ ∀ hostname : String, isBlockedWebhookHost hostname = isBlockedServerDestination hostname := by
  intro h
  exact absurd (h "::ffff:foo") (by decide +kernel)

end ProxVM
