import Mathlib.Data.List.TakeWhile
import ProxVM.Util.Spellings

/-!
# IPv6 addresses in canonical form

The text the URL parser makes of an IPv6 address: groups in lower-case hexadecimal without
leading zeros, the first longest run of at least two zero groups replaced by `::`.
`isBlockedServerDestination` looks at that text and not at the address, so it decides the
prefixes by the letters in front.
-/

namespace ProxVM

structure Ipv6 where
  groups : List Nat
  length_eq : groups.length = 8
  bound : ∀ g ∈ groups, g < 2 ^ 16

/-! ## The canonical text -/

def hexDigit (n : Nat) : Char := digitAlphabet.getD n '0'

def groupText (g : Nat) : List Char :=
  if g < 16 then [hexDigit g]
  else if g < 256 then [hexDigit (g / 16), hexDigit (g % 16)]
  else if g < 4096 then [hexDigit (g / 256), hexDigit (g / 16 % 16), hexDigit (g % 16)]
  else [hexDigit (g / 4096), hexDigit (g / 256 % 16), hexDigit (g / 16 % 16), hexDigit (g % 16)]

def joinGroups (groups : List Nat) : List Char := [':'].intercalate (groups.map groupText)

def zerosFrom (groups : List Nat) (i : Nat) : Nat :=
  ((groups.drop i).takeWhile fun g => decide (g = 0)).length

def longestRun (groups : List Nat) : Nat :=
  (List.range groups.length).foldl
    (fun best i => if zerosFrom groups best < zerosFrom groups i then i else best) 0

def Ipv6.text (address : Ipv6) : List Char :=
  let i := longestRun address.groups
  let n := zerosFrom address.groups i
  if n < 2 then joinGroups address.groups
  else joinGroups (address.groups.take i) ++ "::".toList ++ joinGroups (address.groups.drop (i + n))

/-! ## The networks -/

def Ipv6.first (address : Ipv6) : Nat := address.groups.getD 0 0

def Ipv6.mapped? (address : Ipv6) : Option Nat :=
  match address.groups with
  | [0, 0, 0, 0, 0, 0xffff, high, low] => some (high * 2 ^ 16 + low)
  | _ => none

/-- What the check is to refuse: `::1`, `::`, `fe80::/10`, `fc00::/7`, and IPv4-mapped addresses
of a blocked network. -/
def Ipv6.Forbidden (address : Ipv6) : Prop :=
  address.groups = [0, 0, 0, 0, 0, 0, 0, 1] ∨ address.groups = [0, 0, 0, 0, 0, 0, 0, 0] ∨
    address.first / 2 ^ 6 = 0xfe80 / 2 ^ 6 ∨ address.first / 2 ^ 9 = 0xfc00 / 2 ^ 9 ∨
    ∃ v4, address.mapped? = some v4 ∧ InBlockedNetwork v4

/-- The text begins with `::ffff:`: the zeros in front are the run that is cut out, and what
follows is `ffff` and at least one more group. -/
def Ipv6.FrontMapped (address : Ipv6) : Prop :=
  longestRun address.groups = 0 ∧ 2 ≤ zerosFrom address.groups 0 ∧
    ∃ g rest, address.groups.drop (zerosFrom address.groups 0) = 0xffff :: g :: rest

def Ipv6.Misread (address : Ipv6) : Prop :=
  (0xfe80 < address.first ∧ address.first ≤ 0xfebf) ∨
    address.first = 0xfc ∨ address.first = 0xfd ∨ (0xfc0 ≤ address.first ∧ address.first ≤ 0xfdf) ∨
    (address.FrontMapped ∧ address.mapped? = none)

/-! ## Groups -/

section groups

variable {g : Nat}

theorem hexDigit_facts : ∀ n < 16, ∀ m < 16, (hexDigit n = hexDigit m ↔ n = m) := by
  decide

theorem hexDigit_plain : ∀ n < 16, isHexDigit (hexDigit n) = true ∧ (hexDigit n).toLower = hexDigit n ∧
    hexValue (hexDigit n) = n ∧ hexDigit n ∈ digitsOfBase 16 ∧
    hexDigit n ∉ ['.', ':', 'l', '[', ']', '\n', '\r'] ∧ (hexDigit n).toNat < 128 := by
  decide

theorem forall_groupText {P : Char → Prop} (hg : g < 2 ^ 16) (hdigit : ∀ n < 16, P (hexDigit n)) :
    ∀ c ∈ groupText g, P c := by
  unfold groupText
  split
  · intro c hc
    obtain rfl := List.mem_singleton.mp hc
    exact hdigit _ (by omega)
  · split
    · intro c hc
      simp only [List.mem_cons, List.not_mem_nil, or_false] at hc
      rcases hc with rfl | rfl
      · exact hdigit _ (by omega)
      · exact hdigit _ (by omega)
    · split
      · intro c hc
        simp only [List.mem_cons, List.not_mem_nil, or_false] at hc
        rcases hc with rfl | rfl | rfl
        · exact hdigit _ (by omega)
        · exact hdigit _ (by omega)
        · exact hdigit _ (by omega)
      · intro c hc
        simp only [List.mem_cons, List.not_mem_nil, or_false] at hc
        rcases hc with rfl | rfl | rfl | rfl
        · exact hdigit _ (by omega)
        · exact hdigit _ (by omega)
        · exact hdigit _ (by omega)
        · exact hdigit _ (by omega)

theorem groupText_length : 1 ≤ (groupText g).length ∧ (groupText g).length ≤ 4 := by
  unfold groupText
  split
  · simp
  · split
    · simp
    · split <;> simp

theorem parseDigits_groupText (hg : g < 2 ^ 16) : parseDigits 16 (groupText g) = g := by
  have hvalue : ∀ n < 16, hexValue (hexDigit n) = n := fun n hn => (hexDigit_plain n hn).2.2.1
  unfold groupText parseDigits
  split
  · simp only [List.foldl_cons, List.foldl_nil]
    rw [hvalue g (by omega)]
    omega
  · split
    · simp only [List.foldl_cons, List.foldl_nil]
      rw [hvalue (g / 16) (by omega), hvalue (g % 16) (by omega)]
      omega
    · split
      · simp only [List.foldl_cons, List.foldl_nil]
        rw [hvalue (g / 256) (by omega), hvalue (g / 16 % 16) (by omega), hvalue (g % 16) (by omega)]
        omega
      · simp only [List.foldl_cons, List.foldl_nil]
        rw [hvalue (g / 4096) (by omega), hvalue (g / 256 % 16) (by omega),
          hvalue (g / 16 % 16) (by omega), hvalue (g % 16) (by omega)]
        omega

theorem groupText_eq_iff (hg : g < 2 ^ 16) {h : Nat} (hh : h < 2 ^ 16) :
    groupText g = groupText h ↔ g = h := by
  constructor
  · intro heq
    rw [← parseDigits_groupText hg, heq, parseDigits_groupText hh]
  · rintro rfl
    rfl

theorem groupText_begins (hg : g < 2 ^ 16) {a b : Nat} (ha : a < 16) (hb : b < 16) (hpos : 0 < a) :
    [hexDigit a, hexDigit b].isPrefixOf (groupText g) = true ↔
      g = 16 * a + b ∨ g / 16 = 16 * a + b ∨ g / 256 = 16 * a + b := by
  have hinj : ∀ {n m : Nat}, n < 16 → m < 16 → (hexDigit n = hexDigit m ↔ n = m) :=
    fun hn hm => hexDigit_facts _ hn _ hm
  unfold groupText
  split
  · simp only [List.isPrefixOf, Bool.and_false, Bool.false_eq_true, false_iff]
    omega
  · split
    · simp only [List.isPrefixOf, Bool.and_true, Bool.and_eq_true, beq_iff_eq,
        hinj ha (by omega : g / 16 < 16), hinj hb (by omega : g % 16 < 16)]
      omega
    · split
      · simp only [List.isPrefixOf, Bool.and_true, Bool.and_eq_true, beq_iff_eq,
          hinj ha (by omega : g / 256 < 16), hinj hb (by omega : g / 16 % 16 < 16)]
        omega
      · simp only [List.isPrefixOf, Bool.and_true, Bool.and_eq_true, beq_iff_eq,
          hinj ha (by omega : g / 4096 < 16), hinj hb (by omega : g / 256 % 16 < 16)]
        omega

end groups

/-! ## The text -/

theorem joinGroups_cons (g : Nat) (rest : List Nat) : joinGroups (g :: rest) =
      groupText g ++ if rest = [] then [] else ':' :: joinGroups rest := by
  unfold joinGroups
  by_cases hrest : rest = []
  · subst hrest
    simp
  · have hne : rest.map groupText ≠ [] := by simpa using hrest
    rw [List.map_cons, List.intercalate_cons_of_ne_nil hne, if_neg hrest, List.append_assoc]
    rfl

theorem joinGroups_cons_cons (g h : Nat) (rest : List Nat) :
    joinGroups (g :: h :: rest) = groupText g ++ ':' :: joinGroups (h :: rest) := by
  rw [joinGroups_cons, if_neg (List.cons_ne_nil h rest)]

theorem joinGroups_singleton (g : Nat) : joinGroups [g] = groupText g := by
  rw [joinGroups_cons, if_pos rfl, List.append_nil]

def IsTextChar (c : Char) : Prop :=
  c.toLower = c ∧ c ∉ ['.', 'l', '[', ']', '\n', '\r'] ∧ c.toNat < 128

theorem isTextChar_colon : IsTextChar ':' := ⟨by decide, by decide, by decide⟩

theorem isTextChar_hexDigit : ∀ n < 16, IsTextChar (hexDigit n) := by
  have hplain : ∀ n < 16, (hexDigit n).toLower = hexDigit n ∧
      hexDigit n ∉ ['.', 'l', '[', ']', '\n', '\r'] ∧ (hexDigit n).toNat < 128 := by decide
  exact hplain

theorem colon_not_mem_groupText {g : Nat} (hg : g < 2 ^ 16) : ':' ∉ groupText g := by
  intro hmem
  have hne : ∀ c ∈ groupText g, c ≠ ':' := forall_groupText hg (by decide)
  exact hne ':' hmem rfl

theorem joinGroups_chars {groups : List Nat} (hbound : ∀ g ∈ groups, g < 2 ^ 16) :
    ∀ c ∈ joinGroups groups, IsTextChar c := by
  intro c hc
  obtain rfl | ⟨text, htext, hmem⟩ := mem_intercalate hc
  · exact isTextChar_colon
  · obtain ⟨g, hg, rfl⟩ := List.mem_map.mp htext
    exact forall_groupText (hbound g hg) isTextChar_hexDigit c hmem

section shape

variable (address : Ipv6)

theorem Ipv6.text_chars : ∀ c ∈ address.text, IsTextChar c := by
  have htake : ∀ n, ∀ g ∈ address.groups.take n, g < 2 ^ 16 :=
    fun n g hg => address.bound g (List.take_subset _ _ hg)
  have hdrop : ∀ n, ∀ g ∈ address.groups.drop n, g < 2 ^ 16 :=
    fun n g hg => address.bound g (List.drop_subset _ _ hg)
  intro c hc
  unfold Ipv6.text at hc
  simp only at hc
  split at hc
  · exact joinGroups_chars address.bound c hc
  · rw [List.mem_append, List.mem_append] at hc
    rcases hc with (hc | hc) | hc
    · exact joinGroups_chars (htake _) c hc
    · have hcolons : ∀ c ∈ "::".toList, c = ':' := List.forall_iff_forall_mem.mp (by decide)
      rw [hcolons c hc]
      exact isTextChar_colon
    · exact joinGroups_chars (hdrop _) c hc

def Ipv6.FrontRun : Prop := longestRun address.groups = 0 ∧ 2 ≤ zerosFrom address.groups 0

theorem Ipv6.groups_eq : address.groups = List.replicate (zerosFrom address.groups 0) 0 ++
      address.groups.drop (zerosFrom address.groups 0) := by
  have hzeros : address.groups.takeWhile (fun g => decide (g = 0)) =
      List.replicate (zerosFrom address.groups 0) 0 := by
    refine List.eq_replicate_iff.mpr ⟨rfl, fun g hg => ?_⟩
    have hzero : decide (g = 0) = true := List.mem_takeWhile_imp (l := address.groups) hg
    exact of_decide_eq_true hzero
  have htake : address.groups.take (zerosFrom address.groups 0) =
      address.groups.takeWhile fun g => decide (g = 0) :=
    (List.prefix_iff_eq_take.mp (List.takeWhile_prefix _)).symm
  calc address.groups = address.groups.take (zerosFrom address.groups 0) ++
        address.groups.drop (zerosFrom address.groups 0) := (List.take_append_drop _ _).symm
    _ = _ := by rw [htake, hzeros]

theorem Ipv6.text_of_frontRun (hfront : address.FrontRun) : address.text =
    ':' :: ':' :: joinGroups (address.groups.drop (zerosFrom address.groups 0)) := by
  obtain ⟨hzero, htwo⟩ := hfront
  unfold Ipv6.text
  simp only [hzero, Nat.zero_add, if_neg (Nat.not_lt.mpr htwo)]
  rfl

theorem Ipv6.groups_cons : ∃ rest, rest ≠ [] ∧ address.groups = address.first :: rest := by
  have hlength := address.length_eq
  unfold Ipv6.first
  cases hgroups : address.groups with
  | nil =>
      rw [hgroups] at hlength
      cases hlength
  | cons g rest =>
      refine ⟨rest, ?_, rfl⟩
      rintro rfl
      rw [hgroups] at hlength
      cases hlength

theorem Ipv6.first_lt : address.first < 2 ^ 16 := by
  obtain ⟨rest, -, hgroups⟩ := address.groups_cons
  exact address.bound _ (by rw [hgroups]; exact List.mem_cons_self)

theorem Ipv6.text_of_not_frontRun (hfront : ¬ address.FrontRun) :
    ∃ tail, address.text = groupText address.first ++ ':' :: tail := by
  obtain ⟨rest, hrest, hgroups⟩ := address.groups_cons
  unfold Ipv6.text
  simp only
  split
  · rw [hgroups, joinGroups_cons, if_neg hrest]
    exact ⟨_, rfl⟩
  · next hlong =>
      have hpos : longestRun address.groups ≠ 0 := by
        intro hzero
        rw [hzero] at hlong
        exact hfront ⟨hzero, Nat.le_of_not_lt hlong⟩
      obtain ⟨i, hi⟩ := Nat.exists_eq_succ_of_ne_zero hpos
      rw [hi]
      have htake : address.groups.take i.succ = address.first :: rest.take i := by
        conv_lhs => rw [hgroups, List.take_succ_cons]
      rw [htake, joinGroups_cons, List.append_assoc, List.append_assoc]
      split
      · exact ⟨_, rfl⟩
      · exact ⟨_, rfl⟩

end shape

/-! ## What the check reads -/

section check

variable {part host digits : List Char} {hostname : String} {f base : Nat} {rest : List Nat}

theorem partDigits_of_colon (hcolon : ':' ∈ part) : partDigits part = none := by
  have hdigit : part.all Char.isDigit = false := by
    rw [List.all_eq_false]
    exact ⟨':', hcolon, by decide⟩
  unfold partDigits
  split
  · next x rest =>
      have htail : ':' ∈ x :: rest := by
        rcases List.mem_cons.mp hcolon with h | h
        · cases h
        · exact h
      have hoctal : ((x :: rest).all fun c => decide ('0' ≤ c) && decide (c ≤ '7')) = false := by
        rw [List.all_eq_false]
        exact ⟨':', htail, by decide⟩
      have hhex : ¬ ((x = 'x' ∨ x = 'X') ∧ rest ≠ [] ∧ rest.all isHexDigit = true) := by
        rintro ⟨hx, -, hall⟩
        rcases List.mem_cons.mp htail with h | h
        · subst h
          rcases hx with h | h <;> cases h
        · exact absurd (List.all_eq_true.mp hall ':' h) (by decide)
      rw [if_neg hhex, hoctal, hdigit]
      rfl
  · rw [hdigit]
    simp

theorem numericOctets_of_colon (hcolon : ':' ∈ host) (hdot : '.' ∉ host) : numericOctets host = none := by
  unfold numericOctets
  rw [List.splitOn_eq_singleton hdot, List.mapM_cons]
  unfold parsePart
  rw [partDigits_of_colon hcolon]
  rfl

def judgedV6 (host : List Char) : Bool :=
  match mappedTail host with
  | none => blockedV6 host || "::ffff:".toList.isPrefixOf host
  | some tail =>
      if ':' ∈ tail then blockedOctets ((hexGroups tail).getD [127, 0, 0, 1])
      else (numericOctets tail).all blockedOctets

theorem bareHost_of_text (hchars : ∀ c ∈ host, IsTextChar c)
    (hhost : hostname.toList = host ∨ hostname.toList = '[' :: host ++ [']']) : bareHost hostname = host := by
  have hlower : host.map Char.toLower = host :=
    (List.map_congr_left fun c hc => (hchars c hc).1).trans (List.map_id _)
  have hleft : '[' ∉ host := fun hmem => (hchars '[' hmem).2.1 (by decide)
  have hright : ']' ∉ host := fun hmem => (hchars ']' hmem).2.1 (by decide)
  unfold bareHost
  rcases hhost with hhost | hhost
  · rw [hhost, hlower]
    exact unbracket_of_not_mem hleft hright
  · have hbrackets : (('[' :: host ++ [']']).map Char.toLower) = '[' :: (host ++ [']']) := by
      rw [List.cons_append, List.map_cons, List.map_append, hlower]
      have hsame : Char.toLower '[' = '[' ∧ [']'].map Char.toLower = [']'] := by decide
      rw [hsame.1, hsame.2]
    rw [hhost, hbrackets]
    unfold unbracket withoutRight withoutLeft
    simp

theorem isBlockedServerDestination_text (hchars : ∀ c ∈ host, IsTextChar c) (hcolon : ':' ∈ host)
    (hhost : hostname.toList = host ∨ hostname.toList = '[' :: host ++ [']']) :
    isBlockedServerDestination hostname = judgedV6 host := by
  have hdot : '.' ∉ host := fun hmem => (hchars '.' hmem).2.1 (by decide)
  have hname : isInternalName host = false :=
    not_isInternalName fun c hc heq => (hchars c hc).2.1 (by rw [heq]; decide)
  have hquad : blockedQuadPrefix host = false := by
    unfold blockedQuadPrefix
    rw [List.splitOn_eq_singleton hdot]
  unfold isBlockedServerDestination judgedV6 parseNumericParts
  simp only [bareHost_of_text hchars hhost, hname, hquad, Bool.false_or]
  cases htail : mappedTail host with
  | none => simp [numericOctets_of_colon hcolon hdot, hcolon]
  | some tail =>
      have hmapped : "::ffff:".toList.isPrefixOf host = true := by
        have hbare := bareHost_of_text hchars hhost
        rw [← hbare] at htail ⊢
        exact isMapped_of_mappedTail htail
      by_cases hmem : ':' ∈ tail
      · simp [hmem]
      · cases hoctets : numericOctets tail with
        | none => simp only [hmem, if_false, hoctets, hcolon, decide_true, Bool.true_and, hmapped,
            Bool.or_true, Option.all_none]
        | some octets => simp [hmem, hoctets]

theorem eq_of_before_colon {p t s tail : List Char} (hp : ':' ∉ p) (ht : ':' ∉ t)
    (heq : p ++ ':' :: s = t ++ ':' :: tail) : p = t := by
  have hbefore : ∀ {a b : List Char}, ':' ∉ a →
      (a ++ ':' :: b).takeWhile (fun c => !(c == ':')) = a := by
    intro a b ha
    rw [List.takeWhile_append_of_pos]
    · simp
    · intro c hc
      have hne : c ≠ ':' := fun heq => ha (heq ▸ hc)
      simp [hne]
  rw [← hbefore hp (b := s), heq, hbefore ht]

theorem groupText_cons (hf : f < 2 ^ 16) : ∃ c t, groupText f = c :: t ∧ c ≠ ':' ∧ c.toLower ≠ ':' := by
  have hchars : ∀ c ∈ groupText f, c ≠ ':' ∧ c.toLower ≠ ':' := forall_groupText hf (by decide)
  cases htext : groupText f with
  | nil => exact absurd (groupText_length (g := f)).1 (by simp [htext])
  | cons c t =>
      have hc := hchars c (by rw [htext]; exact List.mem_cons_self)
      exact ⟨c, t, rfl, hc.1, hc.2⟩

theorem isPrefixOf_text {f a b : Nat} (hf : f < 2 ^ 16) (ha : a < 16) (hb : b < 16) (hpos : 0 < a)
    (tail : List Char) : [hexDigit a, hexDigit b].isPrefixOf (groupText f ++ ':' :: tail) = true ↔
      f = 16 * a + b ∨ f / 16 = 16 * a + b ∨ f / 256 = 16 * a + b := by
  have hcolon : hexDigit b ≠ ':' := by
    have hne : ∀ n < 16, hexDigit n ≠ ':' := by decide
    exact hne b hb
  rw [← groupText_begins hf ha hb hpos]
  obtain ⟨c, t, htext, -⟩ := groupText_cons hf
  rw [htext]
  cases t with
  | nil => simp [List.isPrefixOf, hcolon]
  | cons d t => simp [List.isPrefixOf]

theorem judgedV6_first {tail : List Char} (hf : f < 2 ^ 16) : judgedV6 (groupText f ++ ':' :: tail) = true ↔
      f = 0xfe80 ∨ (f = 0xfc ∨ f / 16 = 0xfc ∨ f / 256 = 0xfc) ∨
        f = 0xfd ∨ f / 16 = 0xfd ∨ f / 256 = 0xfd := by
  obtain ⟨c, t, htext, hc, hlower⟩ := groupText_cons hf
  have hmapped : mappedTail (groupText f ++ ':' :: tail) = none := by
    refine if_neg fun h => ?_
    rw [htext] at h
    exact hlower (List.cons.inj h.1).1
  have hv4 : "::ffff:".toList.isPrefixOf (groupText f ++ ':' :: tail) = false := by
    refine Bool.eq_false_iff.mpr fun h => ?_
    rw [htext] at h
    obtain ⟨s, hs⟩ := List.isPrefixOf_iff_prefix.mp h
    exact hc (List.cons.inj hs).1.symm
  have hloopback : groupText f ++ ':' :: tail ≠ "::1".toList := by
    rw [htext]
    exact fun h => hc (List.cons.inj h).1
  have hunspecified : groupText f ++ ':' :: tail ≠ "::".toList := by
    rw [htext]
    exact fun h => hc (List.cons.inj h).1
  have hlink : "fe80:".toList.isPrefixOf (groupText f ++ ':' :: tail) = true ↔ f = 0xfe80 := by
    rw [List.isPrefixOf_iff_prefix]
    constructor
    · rintro ⟨s, hs⟩
      have hsame : groupText 0xfe80 = groupText f :=
        eq_of_before_colon (by decide) (colon_not_mem_groupText hf) hs
      exact ((groupText_eq_iff (by decide) hf).mp hsame).symm
    · rintro rfl
      exact ⟨tail, rfl⟩
  have hfc := isPrefixOf_text hf (by decide : 15 < 16) (by decide : 12 < 16) (by decide) tail
  have hfd := isPrefixOf_text hf (by decide : 15 < 16) (by decide : 13 < 16) (by decide) tail
  have hfcText : "fc".toList = [hexDigit 15, hexDigit 12] := by decide
  have hfdText : "fd".toList = [hexDigit 15, hexDigit 13] := by decide
  unfold judgedV6
  rw [hmapped]
  simp only [blockedV6, hloopback, hunspecified, hv4, decide_false, Bool.false_or, Bool.or_false,
    Bool.or_eq_true, hlink, hfcText, hfdText, hfc, hfd, or_assoc]

theorem mapped_of_begins (hbound : ∀ g ∈ rest, g < 2 ^ 16)
    (hbegins : "::ffff:".toList <+: ':' :: ':' :: joinGroups rest) :
    ∃ g more, rest = 0xffff :: g :: more := by
  obtain ⟨s, hs⟩ := hbegins
  have hjoined : groupText 0xffff ++ ':' :: s = joinGroups rest := List.cons.inj (List.cons.inj hs).2 |>.2
  match rest with
  | [] => cases hjoined
  | [g] =>
      rw [joinGroups_singleton] at hjoined
      have hmem : ':' ∈ groupText g := by
        rw [← hjoined]
        simp
      exact absurd hmem (colon_not_mem_groupText (hbound g (by simp)))
  | g :: h :: more =>
      rw [joinGroups_cons_cons] at hjoined
      have hg := hbound g (by simp)
      have hsame := eq_of_before_colon (by decide) (colon_not_mem_groupText hg) hjoined
      obtain rfl := (groupText_eq_iff (by decide) hg).mp hsame
      exact ⟨h, more, rfl⟩

theorem joinGroups_eq_one (hbound : ∀ g ∈ rest, g < 2 ^ 16) : joinGroups rest = ['1'] ↔ rest = [1] := by
  constructor
  · intro hone
    match rest with
    | [] => cases hone
    | [g] =>
        rw [joinGroups_singleton] at hone
        have hsame : groupText g = groupText 1 := hone
        rw [(groupText_eq_iff (hbound g (by simp)) (by decide)).mp hsame]
    | g :: h :: more =>
        rw [joinGroups_cons_cons] at hone
        have hmem : ':' ∈ ['1'] := by
          rw [← hone]
          simp
        exact absurd hmem (by decide)
  · rintro rfl
    decide

theorem joinGroups_eq_nil (hbound : ∀ g ∈ rest, g < 2 ^ 16) : joinGroups rest = [] ↔ rest = [] := by
  constructor
  · intro hnil
    cases rest with
    | nil => rfl
    | cons g more =>
        obtain ⟨c, t, htext, -⟩ := groupText_cons (hbound g (by simp))
        rw [joinGroups_cons, htext] at hnil
        cases hnil
  · rintro rfl
    rfl

theorem judgedV6_front (hbound : ∀ g ∈ rest, g < 2 ^ 16) (hmapped : ∀ g more, rest ≠ 0xffff :: g :: more) :
    judgedV6 (':' :: ':' :: joinGroups rest) = true ↔ rest = [1] ∨ rest = [] := by
  have hnot : ¬ "::ffff:".toList <+: ':' :: ':' :: joinGroups rest := fun hbegins => by
    obtain ⟨g, more, heq⟩ := mapped_of_begins hbound hbegins
    exact hmapped g more heq
  have hlower : (':' :: ':' :: joinGroups rest).map Char.toLower = ':' :: ':' :: joinGroups rest := by
    refine (List.map_congr_left fun c hc => ?_).trans (List.map_id _)
    rw [List.mem_cons, List.mem_cons] at hc
    rcases hc with rfl | rfl | hc
    · exact isTextChar_colon.1
    · exact isTextChar_colon.1
    · exact (joinGroups_chars hbound c hc).1
  have hnone : mappedTail (':' :: ':' :: joinGroups rest) = none := by
    refine if_neg fun h => hnot ?_
    have htake := h.1
    rw [List.map_take, hlower] at htake
    rw [List.prefix_iff_eq_take]
    exact htake.symm
  have hfalse : "::ffff:".toList.isPrefixOf (':' :: ':' :: joinGroups rest) = false :=
    Bool.eq_false_iff.mpr fun h => hnot (List.isPrefixOf_iff_prefix.mp h)
  have hloopback : (':' :: ':' :: joinGroups rest = "::1".toList) ↔ rest = [1] := by
    rw [← joinGroups_eq_one hbound]
    exact ⟨fun h => (List.cons.inj (List.cons.inj h).2).2, fun h => by rw [h]; rfl⟩
  have hunspecified : (':' :: ':' :: joinGroups rest = "::".toList) ↔ rest = [] := by
    rw [← joinGroups_eq_nil hbound]
    exact ⟨fun h => (List.cons.inj (List.cons.inj h).2).2, fun h => by rw [h]; rfl⟩
  have hother : ("fe80:".toList.isPrefixOf (':' :: ':' :: joinGroups rest) = false) ∧
      ("fc".toList.isPrefixOf (':' :: ':' :: joinGroups rest) = false) ∧
      ("fd".toList.isPrefixOf (':' :: ':' :: joinGroups rest) = false) := ⟨rfl, rfl, rfl⟩
  unfold judgedV6
  rw [hnone]
  simp only [blockedV6, hloopback, hunspecified, hother.1, hother.2.1, hother.2.2, hfalse,
    Bool.or_false, Bool.or_eq_true, decide_eq_true_eq]

theorem splitOn_joinGroups {groups : List Nat} (hbound : ∀ g ∈ groups, g < 2 ^ 16)
    (hne : groups ≠ []) : (joinGroups groups).splitOn ':' = groups.map groupText := by
  refine List.splitOn_intercalate ':' (fun l hl hmem => ?_) (by simpa using hne)
  obtain ⟨g, hg, rfl⟩ := List.mem_map.mp hl
  exact colon_not_mem_groupText (hbound g hg) hmem

theorem parseDigits_lt (hbase : base ≤ 16)
    (hdigits : ∀ c ∈ digits, hexValue c < 16) : parseDigits base digits < 16 ^ digits.length := by
  induction digits using List.reverseRecOn with
  | nil => exact Nat.one_pos
  | append_singleton digits c ih =>
      have hlt := ih fun d hd => hdigits d (by simp [hd])
      have hc := hdigits c (by simp)
      have hmul : base * parseDigits base digits ≤ 16 * parseDigits base digits :=
        Nat.mul_le_mul_right _ hbase
      have hfold : parseDigits base (digits ++ [c]) = base * parseDigits base digits + hexValue c := by
        simp only [parseDigits, List.foldl_append, List.foldl_cons, List.foldl_nil]
      rw [hfold, List.length_append, List.length_singleton, Nat.pow_succ]
      omega

theorem partDigits_some (h : partDigits part = some (base, digits)) :
    base ≤ 16 ∧ digits.length ≤ part.length ∧ ∀ c ∈ digits, c ∈ part := by
  unfold partDigits at h
  split at h
  · split at h
    · cases h
      exact ⟨by decide, by simp; omega, fun c hc => by simp [hc]⟩
    · split at h
      · cases h
        exact ⟨by decide, by simp, fun c hc => List.mem_cons_of_mem _ hc⟩
      · split at h
        · cases h
          exact ⟨by decide, le_refl _, fun c hc => hc⟩
        · cases h
  · split at h
    · cases h
      exact ⟨by decide, le_refl _, fun c hc => hc⟩
    · cases h

theorem numericOctets_groupText {g : Nat} (hg : g < 2 ^ 16) :
    (numericOctets (groupText g)).all blockedOctets = true := by
  have hdot : '.' ∉ groupText g := fun hmem =>
    forall_groupText hg (P := fun c => c ≠ '.') (by decide) '.' hmem rfl
  have hvalue : ∀ c ∈ groupText g, hexValue c < 16 := forall_groupText hg (by decide)
  unfold numericOctets
  rw [List.splitOn_eq_singleton hdot, List.mapM_cons]
  cases hpart : parsePart (groupText g) with
  | none => rfl
  | some n =>
      have hsmall : n < 2 ^ 16 := by
        unfold parsePart at hpart
        obtain ⟨⟨base, digits⟩, hdigits, hn⟩ := Option.bind_eq_some_iff.mp hpart
        obtain ⟨hbase, hlength, hmem⟩ := partDigits_some hdigits
        dsimp only at hn
        rw [Option.ite_none_right_eq_some] at hn
        obtain ⟨-, hn⟩ := hn
        cases hn
        calc parseDigits base digits < 16 ^ digits.length :=
              parseDigits_lt hbase fun c hc => hvalue c (hmem c hc)
          _ ≤ 16 ^ 4 := Nat.pow_le_pow_right (by decide) (hlength.trans groupText_length.2)
      have hzero : n / 2 ^ 24 % 256 = 0 := by omega
      simp only [Option.bind_eq_bind, Option.bind_some, List.mapM_nil, Option.pure_def, octetsOf,
        Option.all_some, blockedOctets, hzero]
      rfl

theorem isHexDigit_groupText {g : Nat} (hg : g < 2 ^ 16) : (groupText g).all isHexDigit = true :=
  List.all_eq_true.mpr (forall_groupText hg (by decide))

theorem hexGroups_pair {g h : Nat} (hg : g < 2 ^ 16) (hh : h < 2 ^ 16) :
    hexGroups (joinGroups [g, h]) = some (octetsOf (g * 2 ^ 16 + h)) := by
  have hsplit : (joinGroups [g, h]).splitOn ':' = [g, h].map groupText :=
    splitOn_joinGroups (fun n hn => by
      obtain rfl | hn := List.mem_cons.mp hn
      · exact hg
      · exact List.mem_singleton.mp hn ▸ hh) (List.cons_ne_nil _ _)
  unfold hexGroups
  rw [hsplit]
  simp only [List.map_cons, List.map_nil, List.all_cons, List.all_nil, groupText_length,
    isHexDigit_groupText hg, isHexDigit_groupText hh, and_self, decide_true, Bool.and_self,
    if_true, parseDigits_groupText hg, parseDigits_groupText hh]

theorem judgedV6_mapped {g : Nat} {more : List Nat} (hbound : ∀ h ∈ g :: more, h < 2 ^ 16) :
    judgedV6 (':' :: ':' :: joinGroups (0xffff :: g :: more)) = true ↔
      ∀ h, more = [h] → InBlockedNetwork (g * 2 ^ 16 + h) := by
  have hchars := joinGroups_chars hbound
  have htext : ':' :: ':' :: joinGroups (0xffff :: g :: more) =
      "::ffff:".toList ++ joinGroups (g :: more) := by
    rw [joinGroups_cons_cons]
    rfl
  have hne : joinGroups (g :: more) ≠ [] := fun hnil =>
    absurd ((joinGroups_eq_nil hbound).mp hnil) (List.cons_ne_nil _ _)
  have htail : mappedTail (':' :: ':' :: joinGroups (0xffff :: g :: more)) =
      some (joinGroups (g :: more)) := by
    rw [htext]
    refine mappedTail_front hne fun c hc => ?_
    obtain ⟨-, hnot, hascii⟩ := hchars c hc
    exact ⟨fun heq => hnot (by simp [heq]), fun heq => hnot (by simp [heq]), hascii⟩
  have hg := hbound g List.mem_cons_self
  have hsplit := splitOn_joinGroups hbound (List.cons_ne_nil g more)
  unfold judgedV6
  rw [htail]
  match more with
  | [] =>
      rw [joinGroups_singleton]
      simp only [colon_not_mem_groupText hg, if_false, numericOctets_groupText hg, true_iff]
      intro h hnil
      cases hnil
  | [h] =>
      have hh := hbound h (by simp)
      have hmem : ':' ∈ joinGroups [g, h] := by
        rw [joinGroups_cons_cons]
        simp
      simp only [hmem, if_true, hexGroups_pair hg hh, Option.getD_some]
      rw [blockedOctets_octetsOf (by omega)]
      simp
  | h :: k :: more =>
      -- what is not a pair of groups counts as loopback
      have hmem : ':' ∈ joinGroups (g :: h :: k :: more) := by
        rw [joinGroups_cons_cons]
        simp
      have hgroups : hexGroups (joinGroups (g :: h :: k :: more)) = none := by
        unfold hexGroups
        rw [hsplit]
        rfl
      simp only [hmem, if_true, hgroups, Option.getD_none]
      refine iff_of_true (by decide) ?_
      intro h' heq
      cases heq

end check

/-! ## The check and the networks -/

section networks

variable (address : Ipv6)

theorem Ipv6.bound_drop (n : Nat) : ∀ g ∈ address.groups.drop n, g < 2 ^ 16 :=
  fun g hg => address.bound g (List.drop_subset _ _ hg)

theorem Ipv6.mapped_eq_some {v4 : Nat} (hmapped : address.mapped? = some v4) :
    ∃ g h, address.groups = [0, 0, 0, 0, 0, 0xffff, g, h] ∧ v4 = g * 2 ^ 16 + h ∧
      longestRun address.groups = 0 ∧ zerosFrom address.groups 0 = 5 := by
  unfold Ipv6.mapped? at hmapped
  split at hmapped
  · next g h heq =>
      cases hmapped
      refine ⟨g, h, heq, rfl, ?_, by rw [heq]; rfl⟩
      rw [heq]
      by_cases hg : g = 0
      · by_cases hh : h = 0
        · subst hg hh
          decide
        · subst hg
          simp [longestRun, zerosFrom, List.range_succ, hh]
      · by_cases hh : h = 0
        · subst hh
          simp [longestRun, zerosFrom, List.range_succ, hg]
        · simp [longestRun, zerosFrom, List.range_succ, hg, hh]
  · cases hmapped

theorem Ipv6.frontRun_of_mapped {v4 : Nat} (hmapped : address.mapped? = some v4) : address.FrontRun := by
  obtain ⟨g, h, -, -, hrun, hzeros⟩ := address.mapped_eq_some hmapped
  exact ⟨hrun, by omega⟩

theorem Ipv6.first_of_frontRun (hfront : address.FrontRun) : address.first = 0 := by
  obtain ⟨n, hn⟩ := Nat.exists_eq_add_of_le' hfront.2
  unfold Ipv6.first
  rw [address.groups_eq, hn]
  rfl

theorem Ipv6.length_front : zerosFrom address.groups 0 +
    (address.groups.drop (zerosFrom address.groups 0)).length = 8 := by
  have hlength := congrArg List.length address.groups_eq
  rw [List.length_append, List.length_replicate, address.length_eq] at hlength
  exact hlength.symm

theorem Ipv6.groups_of_drop {rest : List Nat}
    (hrest : address.groups.drop (zerosFrom address.groups 0) = rest) :
    address.groups = List.replicate (8 - rest.length) 0 ++ rest := by
  have hlength := address.length_front
  have heq := address.groups_eq
  rw [hrest] at hlength heq
  rwa [show zerosFrom address.groups 0 = 8 - rest.length by omega] at heq

theorem Ipv6.drop_eq_iff {rest : List Nat} (hrest : rest = [1] ∨ rest = []) :
    address.groups.drop (zerosFrom address.groups 0) = rest ↔
      address.groups = List.replicate (8 - rest.length) 0 ++ rest := by
  refine ⟨address.groups_of_drop, fun heq => ?_⟩
  rw [heq]
  rcases hrest with rfl | rfl <;> decide

theorem Ipv6.forbidden_iff_of_first (hfirst : address.first = 0) : address.Forbidden ↔
    address.groups = [0, 0, 0, 0, 0, 0, 0, 1] ∨ address.groups = [0, 0, 0, 0, 0, 0, 0, 0] ∨
      ∃ v4, address.mapped? = some v4 ∧ InBlockedNetwork v4 := by
  unfold Ipv6.Forbidden
  rw [hfirst]
  simp

/-- **The check on the canonical text decides as the networks do** exactly when the address is
not misread: no address of `fe80::/10` past `fe80`, none with a first group `fc`, `fd` or `fc0`
to `fdf`, and none whose text begins with `::ffff:` without being IPv4-mapped. -/
theorem isBlockedServerDestination_ipv6_iff {hostname : String}
    (hhost : hostname.toList = address.text ∨ hostname.toList = '[' :: address.text ++ [']']) :
    (isBlockedServerDestination hostname = true ↔ address.Forbidden) ↔ ¬ address.Misread := by
  have hcheck : ':' ∈ address.text → isBlockedServerDestination hostname = judgedV6 address.text :=
    fun hcolon => isBlockedServerDestination_text address.text_chars hcolon hhost
  by_cases hfront : address.FrontRun
  · have hfirst := address.first_of_frontRun hfront
    have htext := address.text_of_frontRun hfront
    rw [hcheck (by rw [htext]; exact List.mem_cons_self), htext,
      address.forbidden_iff_of_first hfirst]
    by_cases hmapped : ∃ g more, address.groups.drop (zerosFrom address.groups 0) = 0xffff :: g :: more
    · obtain ⟨g, more, hdrop⟩ := hmapped
      have hbound : ∀ h ∈ g :: more, h < 2 ^ 16 := fun h hh =>
        address.bound_drop _ h (by rw [hdrop]; exact List.mem_cons_of_mem _ hh)
      have hgroups := address.groups_of_drop hdrop
      have hmem : 0xffff ∈ address.groups := by
        rw [hgroups]
        simp
      have hother : address.groups ≠ [0, 0, 0, 0, 0, 0, 0, 1] ∧
          address.groups ≠ [0, 0, 0, 0, 0, 0, 0, 0] :=
        ⟨fun heq => absurd (heq ▸ hmem) (by decide), fun heq => absurd (heq ▸ hmem) (by decide)⟩
      rw [hdrop, judgedV6_mapped hbound]
      simp only [hother.1, hother.2, false_or]
      by_cases hpair : ∃ h, more = [h]
      · -- an IPv4-mapped address is judged by the IPv4 address in it
        obtain ⟨h, rfl⟩ := hpair
        have hv4 : address.mapped? = some (g * 2 ^ 16 + h) := by
          unfold Ipv6.mapped?
          rw [hgroups]
          rfl
        have hread : ¬ address.Misread := by
          unfold Ipv6.Misread
          rw [hfirst, hv4]
          simp
        simp [hv4, hread]
      · have hv4 : address.mapped? = none := by
          refine Option.eq_none_iff_forall_ne_some.mpr fun v4 hv4 => ?_
          obtain ⟨g', h, heq, -, -, hzeros⟩ := address.mapped_eq_some hv4
          rw [hzeros, heq] at hdrop
          cases hdrop
          exact hpair ⟨h, rfl⟩
        have hread : address.Misread :=
          .inr (.inr (.inr (.inr ⟨⟨hfront.1, hfront.2, g, more, hdrop⟩, hv4⟩)))
        have hjudged : ∀ h, more = [h] → InBlockedNetwork (g * 2 ^ 16 + h) :=
          fun h heq => absurd ⟨h, heq⟩ hpair
        simp [hv4, hread]
        exact hjudged
    · have hnot : ∀ g more, address.groups.drop (zerosFrom address.groups 0) ≠ 0xffff :: g :: more :=
        fun g more heq => hmapped ⟨g, more, heq⟩
      have hv4 : address.mapped? = none := by
        refine Option.eq_none_iff_forall_ne_some.mpr fun v4 hv4 => ?_
        obtain ⟨g, h, heq, -, -, hzeros⟩ := address.mapped_eq_some hv4
        exact hnot g [h] (by rw [hzeros, heq]; rfl)
      have hread : ¬ address.Misread := by
        unfold Ipv6.Misread Ipv6.FrontMapped
        rw [hfirst]
        rintro (h | h | h | h | ⟨⟨-, -, g, more, heq⟩, -⟩)
        · omega
        · omega
        · omega
        · omega
        · exact hnot g more heq
      rw [judgedV6_front (address.bound_drop _) hnot, address.drop_eq_iff (.inl rfl),
        address.drop_eq_iff (.inr rfl)]
      simp [hv4, hread, List.replicate]
  · obtain ⟨tail, htext⟩ := address.text_of_not_frontRun hfront
    rw [hcheck (by rw [htext]; simp), htext, judgedV6_first address.first_lt]
    have hv4 : address.mapped? = none := Option.eq_none_iff_forall_ne_some.mpr fun v4 hv4 =>
      hfront (address.frontRun_of_mapped hv4)
    have hloopback : address.groups ≠ [0, 0, 0, 0, 0, 0, 0, 1] := fun heq =>
      hfront (by unfold Ipv6.FrontRun; rw [heq]; decide)
    have hunspecified : address.groups ≠ [0, 0, 0, 0, 0, 0, 0, 0] := fun heq =>
      hfront (by unfold Ipv6.FrontRun; rw [heq]; decide)
    have hmapped : ¬ address.FrontMapped := fun h => hfront ⟨h.1, h.2.1⟩
    have hlt := address.first_lt
    simp only [Ipv6.Forbidden, Ipv6.Misread, hloopback, hunspecified, hv4, hmapped, false_or, or_false,
      reduceCtorEq, false_and, exists_false]
    omega

end networks

def Ipv6.ofGroups (groups : List Nat) (h : groups.length = 8 ∧ ∀ g ∈ groups, g < 2 ^ 16) : Ipv6 :=
  ⟨groups, h.1, h.2⟩

theorem isBlockedServerDestination_ipv6_iff_sample : isBlockedServerDestination "[fe80::1]" = true := by
  have hread : ¬ (Ipv6.ofGroups [0xfe80, 0, 0, 0, 0, 0, 0, 1] (by decide)).Misread := by
    rintro (h | h | h | h | ⟨⟨h, -⟩, -⟩)
    · exact absurd h (by decide)
    · exact absurd h (by decide)
    · exact absurd h (by decide)
    · exact absurd h (by decide)
    · exact absurd h (by decide)
  have hhost : "[fe80::1]".toList =
      '[' :: (Ipv6.ofGroups [0xfe80, 0, 0, 0, 0, 0, 0, 1] (by decide)).text ++ [']'] := by decide
  have hiff := (isBlockedServerDestination_ipv6_iff
    (Ipv6.ofGroups [0xfe80, 0, 0, 0, 0, 0, 0, 1] (by decide)) (.inr hhost)).mpr hread
  exact hiff.mpr (.inr (.inr (.inl (by decide))))

/-- `fe90::1` is link-local and let through; `fc::1` is neither and refused. -/
theorem isBlockedServerDestination_misread :
    (∃ address : Ipv6, address.text = "fe90::1".toList ∧ address.Forbidden ∧
        isBlockedServerDestination "fe90::1" = false) ∧
      ∃ address : Ipv6, address.text = "fc::1".toList ∧ ¬ address.Forbidden ∧
        isBlockedServerDestination "fc::1" = true := by
  refine ⟨⟨.ofGroups [0xfe90, 0, 0, 0, 0, 0, 0, 1] (by decide), by decide,
    .inr (.inr (.inl (by decide))), by decide +kernel⟩,
    .ofGroups [0xfc, 0, 0, 0, 0, 0, 0, 1] (by decide), by decide, ?_, by decide +kernel⟩
  rintro (h | h | h | h | ⟨v4, h, -⟩)
  · exact absurd h (by decide)
  · exact absurd h (by decide)
  · exact absurd h (by decide)
  · exact absurd h (by decide)
  · cases h

end ProxVM