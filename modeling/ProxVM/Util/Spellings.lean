import Mathlib.Data.List.Forall2
import Mathlib.Data.List.Induction
import Mathlib.Data.Nat.Digits.Defs
import ProxVM.Util.Hosts

/-!
# Spellings of an IPv4 address

The forms `inet_aton` reads: one to four parts between dots, each decimal, octal or
hexadecimal, the last one filling the bytes that remain.  A host may carry such a text as it
stands or behind `::ffff:`, and there as two groups of hexadecimal digits as well.

`Spelling` says what number a text means, by the digits' places alone.  That the parser of
`ssrf.ts` reads the same number out of every spelling is `parseNumericParts_spelling`;
**`isBlockedServerDestination_spelling`** is what the check makes of it.
-/

namespace ProxVM

/-! ## What a spelling means -/

def digitAlphabet : List Char := "0123456789abcdef".toList

def digitValue (c : Char) : Nat := digitAlphabet.idxOf c.toLower

def digitsOfBase (base : Nat) : List Char :=
  digitAlphabet.take base ++ (digitAlphabet.take base).map Char.toUpper

def placeValue (base : Nat) (digits : List Char) : Nat :=
  Nat.ofDigits base (digits.reverse.map digitValue)

/-- The forms of a number: decimal without a leading zero, octal with one, hexadecimal
behind `0x`. -/
inductive SpellsNumber : List Char → Nat → Prop
  | decimal {digits : List Char} (hne : digits ≠ []) (hdigits : ∀ c ∈ digits, c ∈ digitsOfBase 10)
      (hzero : digits.head? = some '0' → digits = ['0']) :
      SpellsNumber digits (placeValue 10 digits)
  | octal {digits : List Char} (hne : digits ≠ []) (hdigits : ∀ c ∈ digits, c ∈ digitsOfBase 8) :
      SpellsNumber ('0' :: digits) (placeValue 8 digits)
  | hex {x : Char} {digits : List Char} (hx : x = 'x' ∨ x = 'X') (hne : digits ≠ [])
      (hdigits : ∀ c ∈ digits, c ∈ digitsOfBase 16) :
      SpellsNumber ('0' :: x :: digits) (placeValue 16 digits)

inductive Fills : Nat → List Nat → Nat → Prop
  | last {bytes tail : Nat} (hbytes : 0 < bytes) (htail : tail < 256 ^ bytes) :
      Fills bytes [tail] tail
  | part {bytes n a : Nat} {rest : List Nat} (hn : n < 256) (hrest : Fills bytes rest a) :
      Fills (bytes + 1) (n :: rest) (n * 256 ^ bytes + a)

def SpellsAddress (text : List Char) (address : Nat) : Prop :=
  ∃ parts nums, List.Forall₂ SpellsNumber parts nums ∧ Fills 4 nums address ∧
    text = ['.'].intercalate parts

def IsGroup (group : List Char) : Prop :=
  group ≠ [] ∧ group.length ≤ 4 ∧ ∀ c ∈ group, c ∈ digitsOfBase 16

inductive Spelling (address : Nat) : List Char → Prop
  | bare {text : List Char} (htext : SpellsAddress text address) : Spelling address text
  | mapped {front text : List Char} (hfront : front.map Char.toLower = "::ffff:".toList)
      (htext : SpellsAddress text address) : Spelling address (front ++ text)
  | groups {front high low : List Char} (hfront : front.map Char.toLower = "::ffff:".toList)
      (hhigh : IsGroup high) (hlow : IsGroup low)
      (haddress : address = placeValue 16 high * 2 ^ 16 + placeValue 16 low) :
      Spelling address (front ++ (high ++ ':' :: low))

/-- Loopback, unspecified and link-local addresses: `127.0.0.0/8`, `0.0.0.0/8` and
`169.254.0.0/16`. -/
def InBlockedNetwork (address : Nat) : Prop :=
  address / 2 ^ 24 = 127 ∨ address / 2 ^ 24 = 0 ∨ address / 2 ^ 16 = 169 * 256 + 254

/-! ## Digits -/

theorem digit_facts : ∀ base ∈ [8, 10, 16], ∀ c ∈ digitsOfBase base,
    c.toLower ∈ digitsOfBase base ∧ isHexDigit c.toLower = true ∧
      hexValue c.toLower = digitValue c ∧ c.toLower ∉ ['.', ':', 'l', '[', ']', '\n', '\r'] ∧
      c.toLower.toNat < 128 := by
  simp only [List.forall_mem_cons, List.not_mem_nil, false_implies, implies_true, and_true]
  exact ⟨List.forall_iff_forall_mem.mp (by decide), List.forall_iff_forall_mem.mp (by decide),
    List.forall_iff_forall_mem.mp (by decide)⟩

theorem decimal_facts : ∀ c ∈ digitsOfBase 10, c.toLower = c ∧ c.isDigit = true :=
  List.forall_iff_forall_mem.mp (by decide)

theorem octal_facts : ∀ c ∈ digitsOfBase 8, c.toLower = c ∧ c ≠ 'x' ∧ c ≠ 'X' ∧
    (decide ('0' ≤ c) && decide (c ≤ '7')) = true :=
  List.forall_iff_forall_mem.mp (by decide)

variable {base n bytes a address : Nat} {digits part text host group : List Char} {nums : List Nat}
  {parts : List (List Char)}

theorem parseDigits_placeValue (hbase : base ∈ [8, 10, 16]) (hdigits : ∀ c ∈ digits, c ∈ digitsOfBase base) :
    parseDigits base (digits.map Char.toLower) = placeValue base digits := by
  induction digits using List.reverseRecOn with
  | nil => rfl
  | append_singleton digits c ih =>
      have hc := (digit_facts base hbase c (hdigits c (by simp))).2.2.1
      have hrest := ih fun d hd => hdigits d (by simp [hd])
      unfold parseDigits placeValue at hrest ⊢
      rw [List.map_append, List.foldl_append, hrest, List.reverse_append]
      simp only [List.map_cons, List.map_nil, List.foldl_cons, List.foldl_nil, List.reverse_cons,
        List.reverse_nil, List.nil_append, List.cons_append, Nat.ofDigits_cons, hc]
      exact Nat.add_comm _ _

def IsSpelled (c : Char) : Prop := c ∉ [':', 'l', '[', ']', '\n', '\r'] ∧ c.toNat < 128

theorem isSpelled_digit (hbase : base ∈ [8, 10, 16]) {c : Char}
    (hc : c ∈ digitsOfBase base) : IsSpelled c.toLower := by
  obtain ⟨-, -, -, hnot, hascii⟩ := digit_facts base hbase c hc
  exact ⟨fun hmem => hnot (List.mem_cons_of_mem _ hmem), hascii⟩

/-! ## Parts -/

theorem map_toLower_eq {base : List Char} (hsame : ∀ c ∈ base, c.toLower = c)
    (hdigits : ∀ c ∈ digits, c ∈ base) : digits.map Char.toLower = digits :=
  (List.map_congr_left fun c hc => hsame c (hdigits c hc)).trans (List.map_id _)

theorem partDigits_spelled (hspelled : SpellsNumber part n) :
    ∃ base digits, partDigits (part.map Char.toLower) = some (base, digits) ∧
      parseDigits base digits = n := by
  cases hspelled with
  | decimal hne hdigits hzero =>
      have hlower := map_toLower_eq (fun c hc => (decimal_facts c hc).1) hdigits
      have hvalue := parseDigits_placeValue (by decide : (10 : Nat) ∈ [8, 10, 16]) hdigits
      rw [hlower] at hvalue ⊢
      have hall : part.all Char.isDigit = true :=
        List.all_eq_true.mpr fun c hc => (decimal_facts c (hdigits c hc)).2
      refine ⟨10, part, ?_, hvalue⟩
      unfold partDigits
      split
      · cases hzero rfl
      · exact if_pos ⟨hne, hall⟩
  | @octal digits hne hdigits =>
      obtain ⟨x, rest, rfl⟩ := List.exists_cons_of_ne_nil hne
      have hlower := map_toLower_eq (fun c hc => (octal_facts c hc).1) hdigits
      have hvalue := parseDigits_placeValue (by decide : (8 : Nat) ∈ [8, 10, 16]) hdigits
      rw [hlower] at hvalue
      obtain ⟨-, hx, hX, -⟩ := octal_facts x (hdigits x List.mem_cons_self)
      have hall : ((x :: rest).all fun c => decide ('0' ≤ c) && decide (c ≤ '7')) = true :=
        List.all_eq_true.mpr fun c hc => (octal_facts c (hdigits c hc)).2.2.2
      refine ⟨8, x :: rest, ?_, hvalue⟩
      have hzero : Char.toLower '0' = '0' := by decide
      rw [List.map_cons, hlower, hzero]
      simp only [partDigits, hx, hX, false_or, false_and, if_false, hall, if_true]
  | @hex x digits hx hne hdigits =>
      have hvalue := parseDigits_placeValue (by decide : (16 : Nat) ∈ [8, 10, 16]) hdigits
      have hxlower : x.toLower = 'x' := by
        rcases hx with rfl | rfl <;> decide
      have hall : (digits.map Char.toLower).all isHexDigit = true := by
        rw [List.all_map]
        exact List.all_eq_true.mpr fun c hc => (digit_facts 16 (by decide) c (hdigits c hc)).2.1
      have hne' : digits.map Char.toLower ≠ [] := by simpa using hne
      refine ⟨16, digits.map Char.toLower, ?_, hvalue⟩
      have hzero : Char.toLower '0' = '0' := by decide
      rw [List.map_cons, List.map_cons, hxlower, hzero]
      simp only [partDigits, true_or, hne', ne_eq, not_false_eq_true, hall, and_self, if_true]

theorem parsePart_spelled (hspelled : SpellsNumber part n)
    (hn : n ≤ 0xffffffff) : parsePart (part.map Char.toLower) = some n := by
  obtain ⟨base, digits, hdigits, rfl⟩ := partDigits_spelled hspelled
  unfold parsePart
  simp only [hdigits, Option.bind_eq_bind, Option.bind_some, if_pos hn]

theorem spelledPart_chars (hspelled : SpellsNumber part n) :
    ∀ c ∈ part.map Char.toLower, c ≠ '.' ∧ IsSpelled c := by
  have hdigit : ∀ {base : Nat}, base ∈ [8, 10, 16] → ∀ c ∈ digitsOfBase base,
      c.toLower ≠ '.' ∧ IsSpelled c.toLower := by
    intro base hbase c hc
    refine ⟨fun heq => ?_, isSpelled_digit hbase hc⟩
    exact (digit_facts base hbase c hc).2.2.2.1 (heq ▸ List.mem_cons_self)
  have hzero : Char.toLower '0' ≠ '.' ∧ IsSpelled (Char.toLower '0') :=
    hdigit (by decide : (10 : Nat) ∈ [8, 10, 16]) '0' (by decide)
  intro c hc
  obtain ⟨d, hd, rfl⟩ := List.mem_map.mp hc
  cases hspelled with
  | decimal hne hdigits _ => exact hdigit (by decide : (10 : Nat) ∈ [8, 10, 16]) d (hdigits d hd)
  | octal hne hdigits =>
      obtain rfl | hd := List.mem_cons.mp hd
      · exact hzero
      · exact hdigit (by decide : (8 : Nat) ∈ [8, 10, 16]) d (hdigits d hd)
  | hex hx hne hdigits =>
      rw [List.mem_cons, List.mem_cons] at hd
      rcases hd with rfl | rfl | hd
      · exact hzero
      · rcases hx with rfl | rfl <;> exact ⟨by decide, by decide, by decide⟩
      · exact hdigit (by decide : (16 : Nat) ∈ [8, 10, 16]) d (hdigits d hd)

/-! ## Addresses -/

theorem Fills.bound (h : Fills bytes nums a) : ∀ n ∈ nums, n < 256 ^ bytes := by
  induction h with
  | last _ htail =>
      intro n hn
      rwa [List.mem_singleton.mp hn]
  | @part bytes n a rest hn hrest ih =>
      have hgrow : 256 ^ bytes * 1 ≤ 256 ^ bytes * 256 := Nat.mul_le_mul_left _ (by decide)
      have hpos : 0 < 256 ^ bytes := Nat.pow_pos (by decide)
      intro m hm
      rw [Nat.pow_succ]
      obtain rfl | hm := List.mem_cons.mp hm
      · calc m < 256 := hn
          _ = 1 * 256 := rfl
          _ ≤ 256 ^ bytes * 256 := Nat.mul_le_mul_right _ hpos
      · have hlt := ih m hm
        omega

theorem Fills.ne_nil (h : Fills bytes nums a) : nums ≠ [] := by
  cases h <;> simp

theorem mapM_spelled (hparts : List.Forall₂ SpellsNumber parts nums) (hbound : ∀ n ∈ nums, n ≤ 0xffffffff) :
    (parts.map fun part => part.map Char.toLower).mapM parsePart = some nums := by
  induction hparts with
  | nil => rfl
  | @cons part n parts nums hpart hrest ih =>
      have hn := parsePart_spelled hpart (hbound n List.mem_cons_self)
      have hrest' := ih fun m hm => hbound m (List.mem_cons_of_mem _ hm)
      rw [List.map_cons, List.mapM_cons, hn, hrest']
      rfl

theorem Fills.length_le (h : Fills bytes nums a) : nums.length ≤ bytes := by
  induction h with
  | last hbytes _ => exact hbytes
  | part _ _ ih => exact Nat.succ_le_succ ih

theorem numericOctets_fills {v4 : List Char}
    (hnums : (v4.splitOn '.').mapM parsePart = some nums) (h : Fills 4 nums a) :
    numericOctets v4 = some (octetsOf a) := by
  unfold numericOctets
  rw [hnums]
  cases h with
  | last _ _ => rfl
  | @part _ n a₁ _ hn h =>
    cases h with
    | last _ htail =>
        have hsmall : ¬ (255 < n ∨ 2 ^ 24 ≤ a₁) := by omega
        simp only [Option.bind_eq_bind, Option.bind_some, hsmall, if_false, octetsOf,
          List.drop_succ_cons, List.drop_zero, Option.some.injEq, List.cons.injEq, and_true]
        omega
    | @part _ m a₂ _ hm h =>
      cases h with
      | last _ htail =>
          have hsmall : ¬ (255 < n ∨ 255 < m ∨ 2 ^ 16 ≤ a₂) := by omega
          simp only [Option.bind_eq_bind, Option.bind_some, hsmall, if_false, octetsOf,
            List.drop_succ_cons, List.drop_zero, Option.some.injEq, List.cons.injEq, and_true]
          omega
      | @part _ k a₃ _ hk h =>
        cases h with
        | last _ htail =>
            have hsmall : ¬ ([n, m, k, a₃].any fun n => decide (255 < n)) = true := by
              simp only [List.any_cons, List.any_nil, Bool.or_eq_true, decide_eq_true_eq,
                Bool.or_false]
              omega
            refine (if_neg hsmall).trans ?_
            simp only [octetsOf, Option.some.injEq, List.cons.injEq, and_true]
            omega
        | part _ h => cases h with
          | last hbytes _ => exact absurd hbytes (by decide)

theorem map_intercalate {α β : Type} (f : α → β) (sep : α) (parts : List (List α)) :
    ([sep].intercalate parts).map f = [f sep].intercalate (parts.map fun part => part.map f) := by
  induction parts with
  | nil => rfl
  | cons part rest ih =>
      by_cases hrest : rest = []
      · subst hrest
        simp
      · have hrest' : (rest.map fun part => part.map f) ≠ [] := by simpa using hrest
        rw [List.map_cons, List.intercalate_cons_of_ne_nil hrest,
          List.intercalate_cons_of_ne_nil hrest', List.map_append, List.map_append, ih]
        rfl

theorem mem_intercalate {α : Type} {sep c : α} {parts : List (List α)}
    (hc : c ∈ [sep].intercalate parts) : c = sep ∨ ∃ part ∈ parts, c ∈ part := by
  induction parts with
  | nil => cases hc
  | cons part rest ih =>
      by_cases hrest : rest = []
      · subst hrest
        exact .inr ⟨part, List.mem_cons_self, by simpa using hc⟩
      · rw [List.intercalate_cons_of_ne_nil hrest, List.mem_append, List.mem_append] at hc
        rcases hc with (hpart | hsep) | hc
        · exact .inr ⟨part, List.mem_cons_self, hpart⟩
        · exact .inl (List.mem_singleton.mp hsep)
        · obtain hsep | ⟨other, hother, hmem⟩ := ih hc
          · exact .inl hsep
          · exact .inr ⟨other, List.mem_cons_of_mem _ hother, hmem⟩

theorem exists_spelled (hparts : List.Forall₂ SpellsNumber parts nums) (hpart : part ∈ parts) :
    ∃ n, SpellsNumber part n := by
  induction hparts with
  | nil => cases hpart
  | cons hspelled _ ih =>
      obtain rfl | hpart := List.mem_cons.mp hpart
      · exact ⟨_, hspelled⟩
      · exact ih hpart

theorem splitOn_spelled (hparts : List.Forall₂ SpellsNumber parts nums) (hne : nums ≠ []) :
    ((['.'].intercalate parts).map Char.toLower).splitOn '.' =
      parts.map fun part => part.map Char.toLower := by
  have hdot : Char.toLower '.' = '.' := by decide
  rw [map_intercalate, hdot]
  refine List.splitOn_intercalate '.' (fun l hl hmem => ?_) fun hnil => ?_
  · obtain ⟨part, hpart, rfl⟩ := List.mem_map.mp hl
    obtain ⟨n, hspelled⟩ := exists_spelled hparts hpart
    exact (spelledPart_chars hspelled '.' hmem).1 rfl
  · rw [List.map_eq_nil_iff] at hnil
    subst hnil
    cases hparts
    exact hne rfl

theorem numericOctets_spelled (htext : SpellsAddress text address) :
    numericOctets (text.map Char.toLower) = some (octetsOf address) := by
  obtain ⟨parts, nums, hparts, hfills, rfl⟩ := htext
  have hbound : ∀ n ∈ nums, n ≤ 0xffffffff := fun n hn => by
    have hlt := hfills.bound n hn
    omega
  refine numericOctets_fills ?_ hfills
  rw [splitOn_spelled hparts hfills.ne_nil]
  exact mapM_spelled hparts hbound

theorem spelledAddress_chars
    (htext : SpellsAddress text address) : ∀ c ∈ text.map Char.toLower, IsSpelled c := by
  obtain ⟨parts, nums, hparts, -, rfl⟩ := htext
  have hdot : Char.toLower '.' = '.' := by decide
  rw [map_intercalate, hdot]
  intro c hc
  obtain rfl | ⟨part, hpart, hmem⟩ := mem_intercalate hc
  · exact ⟨by decide, by decide⟩
  · obtain ⟨spelled, hin, rfl⟩ := List.mem_map.mp hpart
    obtain ⟨n, hspelled⟩ := exists_spelled hparts hin
    exact (spelledPart_chars hspelled c hmem).2

theorem blockedQuadPrefix_spelled
    (htext : SpellsAddress text address) : blockedQuadPrefix (text.map Char.toLower) = false := by
  obtain ⟨parts, nums, hparts, hfills, rfl⟩ := htext
  have hlength : (parts.map fun part => part.map Char.toLower).length ≤ 4 := by
    rw [List.length_map, hparts.length_eq]
    exact hfills.length_le
  unfold blockedQuadPrefix
  rw [splitOn_spelled hparts hfills.ne_nil]
  split
  · next heq =>
      rw [heq] at hlength
      simp only [List.length_cons] at hlength
      omega
  · rfl

/-! ## The check -/

theorem not_isInternalName (hchars : ∀ c ∈ host, c ≠ 'l') : isInternalName host = false := by
  have hnot : 'l' ∉ host := fun hmem => hchars 'l' hmem rfl
  simp only [isInternalName, Bool.or_eq_false_iff, decide_eq_false_iff_not]
  refine ⟨⟨?_, ?_⟩, Bool.eq_false_iff.mpr fun hsuffix => ?_⟩
  · rintro rfl
    exact hnot (by decide)
  · rintro rfl
    exact hnot (by decide)
  · exact hnot ((List.isSuffixOf_iff_suffix.mp hsuffix).subset (by decide))

theorem blockedOctets_octetsOf (hbound : address < 2 ^ 32) :
    blockedOctets (octetsOf address) = true ↔ InBlockedNetwork address := by
  simp only [blockedOctets, octetsOf, Bool.or_eq_true, decide_eq_true_eq, InBlockedNetwork]
  omega

theorem group_chars (hgroup : IsGroup group) : ∀ c ∈ group.map Char.toLower, IsSpelled c := by
  intro c hc
  obtain ⟨d, hd, rfl⟩ := List.mem_map.mp hc
  exact isSpelled_digit (by decide : (16 : Nat) ∈ [8, 10, 16]) (hgroup.2.2 d hd)

theorem isHexDigit_group (hgroup : IsGroup group) : (group.map Char.toLower).all isHexDigit = true := by
  rw [List.all_map]
  exact List.all_eq_true.mpr fun c hc => (digit_facts 16 (by decide) c (hgroup.2.2 c hc)).2.1

theorem hexGroups_spelled {high low : List Char} (hhigh : IsGroup high) (hlow : IsGroup low) :
    hexGroups ((high ++ ':' :: low).map Char.toLower) =
      some (octetsOf (placeValue 16 high * 2 ^ 16 + placeValue 16 low)) := by
  have hcolon : Char.toLower ':' = ':' := by decide
  have hnot : ∀ {group : List Char}, IsGroup group → ':' ∉ group.map Char.toLower :=
    fun hgroup hmem => (group_chars hgroup ':' hmem).1 (by simp)
  have hsplit : ((high ++ ':' :: low).map Char.toLower).splitOn ':' =
      [high.map Char.toLower, low.map Char.toLower] := by
    rw [List.map_append, List.map_cons, hcolon,
      List.splitOn_append_cons_self_of_not_mem (hnot hhigh), List.splitOn_eq_singleton (hnot hlow)]
  have hvalue : ∀ {group : List Char}, IsGroup group →
      parseDigits 16 (group.map Char.toLower) = placeValue 16 group :=
    fun hgroup => parseDigits_placeValue (by decide : (16 : Nat) ∈ [8, 10, 16]) hgroup.2.2
  have hlength : ∀ {group : List Char}, IsGroup group →
      1 ≤ (group.map Char.toLower).length ∧ (group.map Char.toLower).length ≤ 4 := by
    intro group hgroup
    rw [List.length_map]
    exact ⟨List.length_pos_iff.mpr hgroup.1, hgroup.2.1⟩
  unfold hexGroups
  rw [hsplit]
  simp only [List.all_cons, List.all_nil, hlength hhigh, hlength hlow, isHexDigit_group hhigh,
    isHexDigit_group hlow, and_self, decide_true, Bool.and_self, if_true, hvalue hhigh, hvalue hlow]

theorem placeValue_group_lt (hgroup : IsGroup group) : placeValue 16 group < 2 ^ 16 := by
  have hdigits : ∀ c ∈ digitsOfBase 16, digitValue c < 16 :=
    List.forall_iff_forall_mem.mp (by decide)
  have hlt : placeValue 16 group < 16 ^ (group.reverse.map digitValue).length := by
    refine Nat.ofDigits_lt_base_pow_length (by decide) fun d hd => ?_
    obtain ⟨c, hc, rfl⟩ := List.mem_map.mp hd
    exact hdigits c (hgroup.2.2 c (List.mem_reverse.mp hc))
  rw [List.length_map, List.length_reverse] at hlt
  calc placeValue 16 group < 16 ^ group.length := hlt
    _ ≤ 16 ^ 4 := Nat.pow_le_pow_right (by decide) hgroup.2.1

theorem Fills.lt (h : Fills bytes nums a) : a < 256 ^ bytes := by
  induction h with
  | last _ htail => exact htail
  | @part bytes n a rest hn hrest ih =>
      have hhead : n * 256 ^ bytes + 256 ^ bytes ≤ 256 * 256 ^ bytes := by
        rw [← Nat.succ_mul]
        exact Nat.mul_le_mul_right _ hn
      rw [Nat.pow_succ]
      omega

theorem Spelling.lt (h : Spelling address host) : address < 2 ^ 32 := by
  cases h with
  | bare htext =>
      obtain ⟨_, _, _, hfills, _⟩ := htext
      exact hfills.lt
  | mapped _ htext =>
      obtain ⟨_, _, _, hfills, _⟩ := htext
      exact hfills.lt
  | groups _ hhigh hlow haddress =>
      have hhigh' := placeValue_group_lt hhigh
      have hlow' := placeValue_group_lt hlow
      omega

theorem mappedTail_front {tail : List Char} (hne : tail ≠ []) (hchars : ∀ c ∈ tail,
    c ≠ '\n' ∧ c ≠ '\r' ∧ c.toNat < 128) : mappedTail ("::ffff:".toList ++ tail) = some tail := by
  have hlines : (tail.all fun c => !(['\n', '\r', '\u2028', '\u2029'].contains c)) = true := by
    refine List.all_eq_true.mpr fun c hc => ?_
    obtain ⟨hnl, hcr, hascii⟩ := hchars c hc
    have hls : c ≠ '\u2028' := fun heq => absurd hascii (by rw [heq]; decide)
    have hps : c ≠ '\u2029' := fun heq => absurd hascii (by rw [heq]; decide)
    simp [hnl, hcr, hls, hps]
  have htake : ("::ffff:".toList ++ tail).take 7 = "::ffff:".toList := rfl
  have hdrop : ("::ffff:".toList ++ tail).drop 7 = tail := rfl
  have hlower : ("::ffff:".toList).map Char.toLower = "::ffff:".toList := by decide
  unfold mappedTail
  simp only [htake, hdrop, hlower, hlines, hne, ne_eq, not_false_eq_true, and_self, if_true]

theorem mappedTail_of_no_colon (hcolon : ':' ∉ host.map Char.toLower) :
    mappedTail (host.map Char.toLower) = none := by
  refine if_neg fun hmapped => ?_
  have hmem : ':' ∈ ((host.map Char.toLower).take 7).map Char.toLower := by
    rw [hmapped.1]
    decide
  obtain ⟨c, hc, hlower⟩ := List.mem_map.mp hmem
  have hin := List.take_subset _ _ hc
  obtain ⟨d, -, rfl⟩ := List.mem_map.mp hin
  rw [toLower_toLower] at hlower
  exact hcolon (hlower ▸ hin)

/-- **The parser reads the address out of every spelling.** -/
theorem parseNumericParts_spelling (h : Spelling address host) :
    parseNumericParts (host.map Char.toLower) = some (octetsOf address) := by
  have htail : ∀ {tail : List Char}, (∀ c ∈ tail, c = ':' ∨ IsSpelled c) → ∀ c ∈ tail,
      c ≠ '\n' ∧ c ≠ '\r' ∧ c.toNat < 128 := by
    intro tail hchars c hc
    obtain rfl | ⟨hnot, hascii⟩ := hchars c hc
    · decide
    · exact ⟨fun heq => hnot (by simp [heq]), fun heq => hnot (by simp [heq]), hascii⟩
  cases h with
  | bare htext =>
      have hcolon : ':' ∉ host.map Char.toLower := fun hmem =>
        (spelledAddress_chars htext ':' hmem).1 (by simp)
      unfold parseNumericParts
      rw [mappedTail_of_no_colon hcolon]
      exact numericOctets_spelled htext
  | @mapped front text hfront htext =>
      have hchars := spelledAddress_chars htext
      have hcolon : ':' ∉ text.map Char.toLower := fun hmem => (hchars ':' hmem).1 (by simp)
      have hoctets := numericOctets_spelled htext
      have hne : text.map Char.toLower ≠ [] := by
        intro hnil
        rw [hnil] at hoctets
        exact absurd hoctets (by simp [numericOctets, parsePart, partDigits])
      unfold parseNumericParts
      rw [List.map_append, hfront, mappedTail_front hne (htail fun c hc => .inr (hchars c hc))]
      exact (if_neg hcolon).trans hoctets
  | @groups front high low hfront hhigh hlow haddress =>
      have hchars : ∀ c ∈ (high ++ ':' :: low).map Char.toLower, c = ':' ∨ IsSpelled c := by
        have hcolon : Char.toLower ':' = ':' := by decide
        intro c hc
        rw [List.map_append, List.map_cons, hcolon, List.mem_append, List.mem_cons] at hc
        rcases hc with hc | hc | hc
        · exact .inr (group_chars hhigh c hc)
        · exact .inl hc
        · exact .inr (group_chars hlow c hc)
      have hmem : ':' ∈ (high ++ ':' :: low).map Char.toLower :=
        List.mem_map.mpr ⟨':', by simp, by decide⟩
      unfold parseNumericParts
      rw [List.map_append, hfront, mappedTail_front (List.ne_nil_of_mem hmem) (htail hchars)]
      simp only [hmem, if_true, hexGroups_spelled hhigh hlow, Option.getD_some, haddress]

theorem spelling_chars (h : Spelling address host) : ∀ c ∈ host.map Char.toLower, c = ':' ∨ IsSpelled c := by
  have hfront : ∀ c ∈ "::ffff:".toList, c = ':' ∨ IsSpelled c := by
    have hplain : ∀ c ∈ "::ffff:".toList,
        c = ':' ∨ c ∉ [':', 'l', '[', ']', '\n', '\r'] ∧ c.toNat < 128 :=
      List.forall_iff_forall_mem.mp (by decide)
    exact hplain
  have hcolon : Char.toLower ':' = ':' := by decide
  intro c hc
  cases h with
  | bare htext => exact .inr (spelledAddress_chars htext c hc)
  | mapped hlower htext =>
      rw [List.map_append, hlower, List.mem_append] at hc
      rcases hc with hc | hc
      · exact hfront c hc
      · exact .inr (spelledAddress_chars htext c hc)
  | groups hlower hhigh hlow _ =>
      rw [List.map_append, hlower, List.map_append, List.map_cons, hcolon, List.mem_append,
        List.mem_append, List.mem_cons] at hc
      rcases hc with hc | hc | hc | hc
      · exact hfront c hc
      · exact .inr (group_chars hhigh c hc)
      · exact .inl hc
      · exact .inr (group_chars hlow c hc)

theorem blockedQuadPrefix_spelling
    (h : Spelling address host) : blockedQuadPrefix (host.map Char.toLower) = false := by
  cases h with
  | bare htext => exact blockedQuadPrefix_spelled htext
  | mapped hlower _ =>
      rw [List.map_append, hlower]
      exact blockedQuadPrefix_colon _
  | groups hlower _ _ _ =>
      rw [List.map_append, hlower]
      exact blockedQuadPrefix_colon _

/-- **Every spelling of an address is judged by the address**: it is refused exactly when the
address is in a blocked network. -/
theorem isBlockedServerDestination_spelling {address : Nat} {hostname : String}
    (h : Spelling address hostname.toList) :
    isBlockedServerDestination hostname = true ↔ InBlockedNetwork address := by
  have hchars := spelling_chars h
  have hnot : ∀ c ∈ ['l', '[', ']'], c ∉ hostname.toList.map Char.toLower := by
    intro c hc hmem
    obtain rfl | ⟨hspelled, -⟩ := hchars c hmem
    · exact absurd hc (by decide)
    · have hsubset : ∀ c ∈ ['l', '[', ']'], c ∈ [':', 'l', '[', ']', '\n', '\r'] :=
        List.forall_iff_forall_mem.mp (by decide)
      exact hspelled (hsubset c hc)
  have hbare : bareHost hostname = hostname.toList.map Char.toLower :=
    unbracket_of_not_mem (hnot '[' (by decide)) (hnot ']' (by decide))
  have hname : isInternalName (hostname.toList.map Char.toLower) = false :=
    not_isInternalName fun c hc heq => hnot 'l' (by decide) (heq ▸ hc)
  unfold isBlockedServerDestination
  simp only [hbare, hname, blockedQuadPrefix_spelling h, parseNumericParts_spelling h, Bool.false_or]
  exact blockedOctets_octetsOf h.lt

theorem isBlockedServerDestination_spelling_octal : isBlockedServerDestination "0177.1" = true := by
  have hspelling : Spelling (127 * 256 ^ 3 + 1) "0177.1".toList := by
    have hoctal : SpellsNumber ('0' :: "177".toList) 127 :=
      .octal (by decide) (List.forall_iff_forall_mem.mp (by decide))
    have hdecimal : SpellsNumber "1".toList 1 :=
      .decimal (by decide) (List.forall_iff_forall_mem.mp (by decide)) (by decide)
    refine .bare ⟨["0177".toList, "1".toList], [127, 1], .cons hoctal (.cons hdecimal .nil), ?_,
      by decide⟩
    exact .part (by decide) (.last (by decide) (by decide))
  exact (isBlockedServerDestination_spelling hspelling).mpr (.inl (by decide))

end ProxVM
