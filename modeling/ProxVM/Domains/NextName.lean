import Mathlib.Logic.Function.Iterate
import ProxVM.Domains.Names

/-!
# The next names

What `nextRotatedHostname` of `services/domainrotate.ts` returns for a valid hostname.  The number
at the end of the first label is counted up as a number of the language, which is exact up to 2^53, where it stays;
and nothing looks at how long the names become.
-/

namespace ProxVM.Domains

def lastExact : Nat := 9007199254740992

structure NumberApi extends TextApi where
  successor_exact : ∀ digits, (∀ c ∈ digits, isDigit c = true) → numberOf digits < lastExact →
    successor digits = Nat.toDigits 10 (numberOf digits + 1)
  successor_last : successor (Nat.toDigits 10 lastExact) = Nat.toDigits 10 lastExact

def headOf (label : Text) : Text := (label.reverse.dropWhile isDigit).reverse

def digitsOf (label : Text) : Text := (label.reverse.takeWhile isDigit).reverse

def startOf (host : Text) : Nat := if digitsOf (firstLabel host) = [] then 1 else numberOf (digitsOf (firstLabel host))

def numbered (host : Text) (n : Nat) : Text := headOf (firstLabel host) ++ Nat.toDigits 10 n

def nameOf (host : Text) (n : Nat) : Text := numbered host n ++ afterLabel host

section

variable (api : TextApi) (canonical : Text) (used : List Text) (maxAttempts : Nat)

def RotatesWell : Prop :=
  match nextRotatedHostname api canonical used maxAttempts with
  | some name => isValidHostname name = true ∧ name ≠ canonical ∧ name ∉ used.map (normalizeHostname api)
  | none => (∀ k < maxAttempts, (bumpHostname api)^[k + 1] canonical ∈ used.map (normalizeHostname api)) ∧
      ∀ j k, j < k → k < maxAttempts → (bumpHostname api)^[j + 1] canonical ≠ (bumpHostname api)^[k + 1] canonical

def Free (k : Nat) : Prop := nameOf canonical (startOf canonical + k) ∉ used.map (normalizeHostname api)

def InReach : Prop :=
  (∃ k, 1 ≤ k ∧ k ≤ maxAttempts ∧ Free api canonical used k ∧ (∀ j, 1 ≤ j → j < k → ¬ Free api canonical used j) ∧
    startOf canonical + k ≤ lastExact ∧ (numbered canonical (startOf canonical + k)).length ≤ 63 ∧
      (nameOf canonical (startOf canonical + k)).length ≤ 253) ∨
    ∀ k, 1 ≤ k → k ≤ maxAttempts → ¬ Free api canonical used k ∧ startOf canonical + k ≤ lastExact

end

variable {host label : Text} {n k : Nat}

/-! ## Names with numbers -/

theorem headOf_append (label : Text) : headOf label ++ digitsOf label = label := by
  rw [headOf, digitsOf, ← List.reverse_append, List.takeWhile_append_dropWhile, List.reverse_reverse]

theorem digitsOf_digits (label : Text) : ∀ c ∈ digitsOf label, isDigit c = true := fun _ hc =>
  List.mem_takeWhile_imp (List.mem_reverse.mp hc)

theorem toDigits_digits (n : Nat) : ∀ c ∈ Nat.toDigits 10 n, isDigit c = true := by
  intro c hc
  have hdigit := Nat.isDigit_of_mem_toDigits (by decide) (by decide) hc
  simp only [Char.isDigit, Bool.and_eq_true, decide_eq_true_eq] at hdigit
  exact decide_eq_true hdigit

theorem numberOf_toDigits (n : Nat) : numberOf (Nat.toDigits 10 n) = n := Nat.ofDigitChars_toDigits (by decide) (by decide)

theorem takeWhile_dropWhile {p : Char → Bool} (text : Text) : (text.dropWhile p).takeWhile p = [] := by
  have hhead := List.head?_dropWhile_not p text
  cases hdrop : text.dropWhile p with
  | nil => rfl
  | cons c rest =>
      rw [hdrop] at hhead
      exact List.takeWhile_cons_of_neg (Bool.eq_false_iff.mp hhead)

theorem dropWhile_dropWhile {p : Char → Bool} (text : Text) : (text.dropWhile p).dropWhile p = text.dropWhile p := by
  have hsplit := List.takeWhile_append_dropWhile (p := p) (l := text.dropWhile p)
  rwa [takeWhile_dropWhile, List.nil_append] at hsplit

theorem digitsOf_headOf_append (label : Text) {digits : Text} (hdigits : ∀ c ∈ digits, isDigit c = true) :
    digitsOf (headOf label ++ digits) = digits ∧ headOf (headOf label ++ digits) = headOf label := by
  have hall : ∀ c ∈ digits.reverse, isDigit c = true := fun c hc => hdigits c (List.mem_reverse.mp hc)
  constructor
  · rw [digitsOf, headOf, List.reverse_append, List.reverse_reverse, List.takeWhile_append_of_pos hall,
      takeWhile_dropWhile, List.append_nil, List.reverse_reverse]
  · rw [headOf, headOf, List.reverse_append, List.reverse_reverse, List.dropWhile_append_of_pos hall, dropWhile_dropWhile]

theorem dot_not_mem_firstLabel (host : Text) : '.' ∉ firstLabel host := fun hdot =>
  of_decide_eq_true (List.mem_takeWhile_imp (p := fun c => decide (c ≠ '.')) hdot) rfl

theorem dot_not_mem_numbered (host : Text) (n : Nat) : '.' ∉ numbered host n := by
  intro hdot
  obtain hhead | hdigit := List.mem_append.mp hdot
  · refine dot_not_mem_firstLabel host ?_
    rw [← headOf_append (firstLabel host)]
    exact List.mem_append_left _ hhead
  · exact absurd (toDigits_digits n _ hdigit) (by decide)

theorem firstLabel_nameOf (host : Text) (n : Nat) : firstLabel (nameOf host n) = numbered host n ∧
    afterLabel (nameOf host n) = afterLabel host := by
  have hall : ∀ c ∈ numbered host n, decide (c ≠ '.') = true := fun c hc =>
    decide_eq_true fun h => dot_not_mem_numbered host n (h ▸ hc)
  constructor
  · rw [nameOf, firstLabel, List.takeWhile_append_of_pos hall, afterLabel, takeWhile_dropWhile, List.append_nil]
  · rw [nameOf, afterLabel, List.dropWhile_append_of_pos hall, afterLabel, dropWhile_dropWhile]

theorem nameOf_injective (host : Text) {m : Nat} (heq : nameOf host m = nameOf host n) : m = n := by
  have hdigits := congrArg (fun name => numberOf (digitsOf (firstLabel name))) heq
  simp only [(firstLabel_nameOf host _).1, numbered, (digitsOf_headOf_append _ (toDigits_digits _)).1, numberOf_toDigits] at hdigits
  exact hdigits

theorem nameOf_ne (host : Text) (hk : 1 ≤ k) : nameOf host (startOf host + k) ≠ host := by
  intro heq
  have hdigits := congrArg (fun name => digitsOf (firstLabel name)) heq
  simp only [(firstLabel_nameOf host _).1, numbered, (digitsOf_headOf_append _ (toDigits_digits _)).1] at hdigits
  have hsome : digitsOf (firstLabel host) ≠ [] := hdigits ▸ Nat.toDigits_ne_nil
  have hnumber := congrArg numberOf hdigits
  rw [numberOf_toDigits, startOf, if_neg hsome] at hnumber
  omega

/-! ## Counting up -/

variable {api : NumberApi} {canonical name : Text} {used skipped : List Text} {maxAttempts : Nat}

theorem bumpHostname_eq (api : TextApi) (host : Text) : bumpHostname api host =
    if digitsOf (firstLabel host) = [] then firstLabel host ++ '2' :: afterLabel host
    else headOf (firstLabel host) ++ api.successor (digitsOf (firstLabel host)) ++ afterLabel host := rfl

theorem headOf_of_digitsOf (hnone : digitsOf label = []) : headOf label = label := by
  have hsplit := headOf_append label
  rwa [hnone, List.append_nil] at hsplit

theorem bumpHostname_first (hstart : startOf host < lastExact) :
    bumpHostname api.toTextApi host = nameOf host (startOf host + 1) := by
  rw [bumpHostname_eq, nameOf, numbered]
  by_cases hnone : digitsOf (firstLabel host) = []
  · rw [if_pos hnone, startOf, if_pos hnone, headOf_of_digitsOf hnone, List.append_assoc]
    rfl
  · rw [startOf, if_neg hnone] at hstart ⊢
    rw [if_neg hnone, api.successor_exact _ (digitsOf_digits _) hstart]

theorem bumpHostname_nameOf (hn : n ≤ lastExact) :
    bumpHostname api.toTextApi (nameOf host n) = nameOf host (min (n + 1) lastExact) := by
  obtain ⟨hlabel, hrest⟩ := firstLabel_nameOf host n
  obtain ⟨hdigits, hhead⟩ := digitsOf_headOf_append (firstLabel host) (toDigits_digits n)
  rw [bumpHostname_eq, hlabel, hrest, numbered, hdigits, hhead, if_neg Nat.toDigits_ne_nil, nameOf, numbered]
  -- at the last exact number the sum is rounded back to it
  obtain hlast | hless := Nat.eq_or_lt_of_le hn
  · rw [hlast, api.successor_last, Nat.min_eq_right (Nat.le_succ _)]
  · rw [api.successor_exact _ (toDigits_digits n) (by rwa [numberOf_toDigits]), numberOf_toDigits, Nat.min_eq_left hless]

theorem iterate_bumpHostname (hstart : startOf host < lastExact) (k : Nat) :
    (bumpHostname api.toTextApi)^[k + 1] host = nameOf host (min (startOf host + (k + 1)) lastExact) := by
  induction k with
  | zero => rw [Function.iterate_one, bumpHostname_first hstart, Nat.min_eq_left hstart]
  | succ k ih =>
      rw [Function.iterate_succ_apply', ih, bumpHostname_nameOf (Nat.min_le_right _ _)]
      congr 1
      omega

theorem rotateFrom_cases (api : TextApi) (skipped : List Text) (current : Text) (n : Nat) :
    match rotateFrom api skipped n current with
    | some name => ∃ k < n, name = (bumpHostname api)^[k + 1] current ∧ name ∉ skipped ∧
        ∀ j < k, (bumpHostname api)^[j + 1] current ∈ skipped
    | none => ∀ k < n, (bumpHostname api)^[k + 1] current ∈ skipped := by
  induction n generalizing current with
  | zero => exact fun k hk => absurd hk (Nat.not_lt_zero k)
  | succ n ih =>
      rw [rotateFrom]
      by_cases hmem : bumpHostname api current ∈ skipped
      · rw [if_pos hmem]
        have hrest := ih (bumpHostname api current)
        split at hrest
        · obtain ⟨k, hk, hname, hfree, hbefore⟩ := hrest
          refine ⟨k + 1, Nat.succ_lt_succ hk, hname, hfree, fun j hj => ?_⟩
          cases j with
          | zero => exact hmem
          | succ j => exact hbefore j (Nat.lt_of_succ_lt_succ hj)
        · intro k hk
          cases k with
          | zero => exact hmem
          | succ k => exact hrest k (Nat.lt_of_succ_lt_succ hk)
      · rw [if_neg hmem]
        exact ⟨0, Nat.succ_pos n, rfl, hmem, fun j hj => absurd hj (Nat.not_lt_zero j)⟩

theorem nameOf_ne_nil (host : Text) (n : Nat) : nameOf host n ≠ [] := fun h =>
  Nat.toDigits_ne_nil (List.append_eq_nil_iff.mp (List.append_eq_nil_iff.mp h).1).2

theorem nextRotatedHostname_valid (api : TextApi) (used : List Text) (maxAttempts : Nat)
    (hvalid : isValidHostname canonical = true) : nextRotatedHostname api canonical used maxAttempts =
      rotateFrom api ((used.map (normalizeHostname api)).filter fun h => decide (h ≠ [])) maxAttempts canonical := by
  rw [nextRotatedHostname]
  simp only [normalizeHostname_valid hvalid]
  exact if_neg (ne_nil_of_isValidHostname hvalid)

theorem nextRotatedHostname_cases (api : NumberApi) (used : List Text) (maxAttempts : Nat) (hvalid : isValidHostname canonical = true)
    (hstart : startOf canonical < lastExact) :
    match nextRotatedHostname api.toTextApi canonical used maxAttempts with
    | some name => ∃ k < maxAttempts, name = nameOf canonical (min (startOf canonical + (k + 1)) lastExact) ∧
        name ∉ used.map (normalizeHostname api.toTextApi) ∧
        ∀ j < k, nameOf canonical (min (startOf canonical + (j + 1)) lastExact) ∈ used.map (normalizeHostname api.toTextApi)
    | none => ∀ k < maxAttempts,
        nameOf canonical (min (startOf canonical + (k + 1)) lastExact) ∈ used.map (normalizeHostname api.toTextApi) := by
  have hcases := rotateFrom_cases api.toTextApi
    ((used.map (normalizeHostname api.toTextApi)).filter fun h => decide (h ≠ [])) canonical maxAttempts
  simp only [iterate_bumpHostname hstart, List.mem_filter, decide_eq_true_eq] at hcases
  rw [nextRotatedHostname_valid api.toTextApi used maxAttempts hvalid]
  split at hcases
  · obtain ⟨k, hk, rfl, hfree, hbefore⟩ := hcases
    exact ⟨k, hk, rfl, fun h => hfree ⟨h, nameOf_ne_nil canonical _⟩, fun j hj => (hbefore j hj).1⟩
  · exact fun k hk => (hcases k hk).1

/-! ## Long names -/

theorem splitOn_nameOf (hdot : '.' ∈ host) (n : Nat) :
    ∃ labels, host.splitOn '.' = firstLabel host :: labels ∧ (nameOf host n).splitOn '.' = numbered host n :: labels := by
  have hrest : ∃ rest, afterLabel host = '.' :: rest := by
    have hhead := List.head?_dropWhile_not (fun c => decide (c ≠ '.')) host
    cases hdrop : host.dropWhile fun c => decide (c ≠ '.') with
    | nil =>
        refine absurd ?_ (dot_not_mem_firstLabel host)
        rw [← firstLabel_append host, afterLabel, hdrop, List.append_nil] at hdot
        exact hdot
    | cons c rest =>
        rw [hdrop] at hhead
        rw [afterLabel, hdrop, Decidable.not_not.mp (of_decide_eq_false hhead)]
        exact ⟨rest, rfl⟩
  obtain ⟨rest, hrest⟩ := hrest
  refine ⟨rest.splitOn '.', ?_, ?_⟩
  · conv => lhs; rw [← firstLabel_append host, hrest]
    exact List.splitOn_append_cons_self_of_not_mem (dot_not_mem_firstLabel host) rest
  · rw [nameOf, hrest]
    exact List.splitOn_append_cons_self_of_not_mem (dot_not_mem_numbered host n) rest

theorem isHostnameChar_of_isDigit {c : Char} (hc : isDigit c = true) : isHostnameChar c = true :=
  (Bool.or_eq_true _ _).mpr (.inr hc)

theorem isValidHostnameLabel_numbered (hlabel : isValidHostnameLabel (firstLabel host) = true) (n : Nat) :
    isValidHostnameLabel (numbered host n) = true ↔ (numbered host n).length ≤ 63 := by
  have hhead : ∀ c ∈ headOf (firstLabel host), isHostnameChar c = true ∨ c = '-' := fun c hc =>
    char_of_isValidHostnameLabel hlabel (by rw [← headOf_append (firstLabel host)]; exact List.mem_append_left _ hc)
  have hchars : ∀ c ∈ numbered host n, isHostnameChar c = true ∨ c = '-' := fun c hc =>
    (List.mem_append.mp hc).elim (hhead c) fun hc => .inl (isHostnameChar_of_isDigit (toDigits_digits n c hc))
  have hfirst : (numbered host n).head?.all isHostnameChar = true := by
    cases hcase : headOf (firstLabel host) with
    | nil =>
        rw [numbered, hcase, List.nil_append]
        cases hdigits : Nat.toDigits 10 n with
        | nil => rfl
        | cons c rest => exact isHostnameChar_of_isDigit (toDigits_digits n c (hdigits ▸ List.mem_cons_self))
    | cons c rest =>
        simp only [isValidHostnameLabel, Bool.and_eq_true] at hlabel
        have hsame := hlabel.1.1.2
        rw [← headOf_append (firstLabel host), hcase] at hsame
        rwa [numbered, hcase]
  have hlast : (numbered host n).getLast?.all isHostnameChar = true := by
    rw [numbered, List.getLast?_append, List.getLast?_eq_some_getLast Nat.toDigits_ne_nil, Option.some_or]
    exact isHostnameChar_of_isDigit (toDigits_digits n _ (List.getLast_mem _))
  have hinner : ((numbered host n).tail.dropLast.all fun c => isHostnameChar c || decide (c = '-')) = true := by
    refine List.all_eq_true.mpr fun c hc => (Bool.or_eq_true _ _).mpr ?_
    exact (hchars c (List.mem_of_mem_tail (List.dropLast_subset _ hc))).imp_right decide_eq_true
  have hsome : 1 ≤ (numbered host n).length := by
    have hdigits := List.length_pos_iff.mpr (Nat.toDigits_ne_nil (b := 10) (n := n))
    rw [numbered, List.length_append]
    omega
  rw [isValidHostnameLabel, hfirst, hlast, hinner]
  simp only [Bool.and_true, decide_eq_true_eq]
  exact and_iff_right hsome

theorem isValidHostname_nameOf (hvalid : isValidHostname host = true) (n : Nat) : isValidHostname (nameOf host n) = true ↔
    (numbered host n).length ≤ 63 ∧ (nameOf host n).length ≤ 253 := by
  obtain ⟨labels, hold, hnew⟩ := splitOn_nameOf (dot_mem_of_isValidHostname hvalid) n
  have hdot : '.' ∈ nameOf host n := by
    have hmem := dot_mem_of_isValidHostname hvalid
    rw [← firstLabel_append host] at hmem
    exact List.mem_append_right _ ((List.mem_append.mp hmem).resolve_left (dot_not_mem_firstLabel host))
  simp only [isValidHostname, hold, List.all_cons, Bool.and_eq_true] at hvalid
  simp only [isValidHostname, hnew, List.all_cons, Bool.and_eq_true, hvalid.2.2, and_true, decide_eq_true_eq, hdot,
    isValidHostnameLabel_numbered hvalid.2.1]
  have hsome := List.length_pos_iff.mpr (nameOf_ne_nil host n)
  omega

/-! ## The whole search -/

theorem InReach.start_lt (hreach : InReach api.toTextApi canonical used maxAttempts) (hsome : maxAttempts ≠ 0) :
    startOf canonical < lastExact := by
  obtain ⟨k, hk, -, -, -, hexact, -⟩ | hused := hreach
  · omega
  · have hexact := (hused 1 (Nat.le_refl 1) (Nat.pos_of_ne_zero hsome)).2
    omega

theorem rotatesWell_zero (hvalid : isValidHostname canonical = true) : RotatesWell api.toTextApi canonical used 0 := by
  rw [RotatesWell, nextRotatedHostname_valid api.toTextApi used 0 hvalid]
  exact ⟨fun k hk => absurd hk (Nat.not_lt_zero k), fun j k _ hk => absurd hk (Nat.not_lt_zero k)⟩

theorem exact_of_not_mem {names : List Text} {k : Nat} (hstart : startOf canonical < lastExact)
    (hfree : nameOf canonical (min (startOf canonical + (k + 1)) lastExact) ∉ names)
    (hbefore : ∀ j < k, nameOf canonical (min (startOf canonical + (j + 1)) lastExact) ∈ names) :
    startOf canonical + (k + 1) ≤ lastExact := by
  by_contra hover
  have hlast := hbefore (lastExact - startOf canonical - 1) (by omega)
  rw [Nat.min_eq_right (by omega)] at hfree hlast
  exact hfree hlast

theorem rotatesWell_of_inReach (hvalid : isValidHostname canonical = true)
    (hreach : InReach api.toTextApi canonical used maxAttempts) :
    RotatesWell api.toTextApi canonical used maxAttempts := by
  obtain rfl | hsome := Nat.eq_zero_or_pos maxAttempts
  · exact rotatesWell_zero hvalid
  have hstart := hreach.start_lt (Nat.ne_of_gt hsome)
  have hcases := nextRotatedHostname_cases api used maxAttempts hvalid hstart
  rw [RotatesWell]
  split at hcases
  · obtain ⟨k, hk, rfl, hfree, hbefore⟩ := hcases
    have hexact := exact_of_not_mem hstart hfree hbefore
    rw [Nat.min_eq_left hexact] at hfree ⊢
    refine ⟨(isValidHostname_nameOf hvalid _).mpr ?_, nameOf_ne canonical (Nat.succ_pos k), hfree⟩
    obtain ⟨m, hm, hle, hfirst, hearlier, -, hlabel, hname⟩ | hused := hreach
    · have hsame : m = k + 1 := by
        obtain hlt | heq | hgt := Nat.lt_trichotomy m (k + 1)
        · have hmem := hbefore (m - 1) (by omega)
          rw [Nat.sub_add_cancel hm, Nat.min_eq_left (by omega)] at hmem
          exact absurd hmem hfirst
        · exact heq
        · exact absurd hfree (hearlier (k + 1) (Nat.succ_pos k) hgt)
      exact hsame ▸ ⟨hlabel, hname⟩
    · exact absurd hfree (hused (k + 1) (Nat.succ_pos k) hk).1
  · obtain ⟨m, hm, hle, hfirst, -, hexact, -⟩ | hused := hreach
    · have hmem := hcases (m - 1) (by omega)
      rw [Nat.sub_add_cancel hm, Nat.min_eq_left hexact] at hmem
      exact absurd hmem hfirst
    · simp only [iterate_bumpHostname hstart]
      refine ⟨hcases, fun j k hj hk heq => ?_⟩
      have hexact := (hused (k + 1) (Nat.succ_pos k) hk).2
      have hnumber := nameOf_injective canonical heq
      omega

theorem inReach_of_rotatesWell (hvalid : isValidHostname canonical = true) (hstart : startOf canonical < lastExact)
    (hwell : RotatesWell api.toTextApi canonical used maxAttempts) :
    InReach api.toTextApi canonical used maxAttempts := by
  have hcases := nextRotatedHostname_cases api used maxAttempts hvalid hstart
  rw [RotatesWell] at hwell
  revert hwell
  split at hcases <;> intro hwell
  · obtain ⟨k, hk, rfl, hfree, hbefore⟩ := hcases
    have hexact := exact_of_not_mem hstart hfree hbefore
    rw [Nat.min_eq_left hexact] at hfree hwell
    obtain ⟨hlabel, hname⟩ := (isValidHostname_nameOf hvalid _).mp hwell.1
    refine .inl ⟨k + 1, Nat.succ_pos k, hk, hfree, fun j hj hlt hnot => ?_, hexact, hlabel, hname⟩
    have hmem := hbefore (j - 1) (by omega)
    rw [Nat.sub_add_cancel hj, Nat.min_eq_left (by omega)] at hmem
    exact hnot hmem
  · -- past the last exact number two of the names would be the same
    have hexact : startOf canonical + maxAttempts ≤ lastExact := by
      by_contra hover
      have hsame := hwell.2 (lastExact - startOf canonical - 1) (lastExact - startOf canonical) (by omega) (by omega)
      rw [iterate_bumpHostname hstart, iterate_bumpHostname hstart, Nat.min_eq_right (by omega),
        Nat.min_eq_right (by omega)] at hsame
      exact hsame rfl
    refine .inr fun k hk hle => ⟨fun hnot => hnot ?_, by omega⟩
    have hmem := hcases (k - 1) (by omega)
    rwa [Nat.sub_add_cancel hk, Nat.min_eq_left (by omega)] at hmem

/-- **The next name is new and valid** if the first free one is reached before the numbers stop and fits; and below
2^53 only then. -/
theorem rotatesWell_iff (api : NumberApi) (canonical : Text) (used : List Text) (maxAttempts : Nat)
    (hvalid : isValidHostname canonical = true) :
    (InReach api.toTextApi canonical used maxAttempts → RotatesWell api.toTextApi canonical used maxAttempts) ∧
      (startOf canonical < lastExact → RotatesWell api.toTextApi canonical used maxAttempts →
        InReach api.toTextApi canonical used maxAttempts) :=
  ⟨rotatesWell_of_inReach hvalid, inReach_of_rotatesWell hvalid⟩

def exactApi : NumberApi where
  lower := asciiApi.lower
  lower_plain := asciiApi.lower_plain
  successor digits := Nat.toDigits 10 (min (numberOf digits + 1) lastExact)
  successor_plain _ c hc := isPlain_of_isHostnameChar (isHostnameChar_of_isDigit (toDigits_digits _ c hc))
  stringify := asciiApi.stringify
  parse := asciiApi.parse
  parse_stringify := asciiApi.parse_stringify
  successor_exact _ _ hlt := congrArg (Nat.toDigits 10) (Nat.min_eq_left hlt)
  successor_last := by rw [numberOf_toDigits, Nat.min_eq_right (Nat.le_succ _)]

theorem rotatesWell_ok :
    RotatesWell exactApi.toTextApi "app.example.com".toList ["app2.example.com".toList] 16 :=
  (rotatesWell_iff exactApi "app.example.com".toList ["app2.example.com".toList] 16 (by decide +kernel)).1
    (.inl ⟨2, by decide, by decide, show _ ∉ _ by decide +kernel, fun j hj hlt hfree => by
      obtain rfl : j = 1 := by omega
      exact hfree (show _ ∈ _ by decide +kernel), by decide +kernel, by decide +kernel, by decide +kernel⟩)

def longName : Text := List.replicate 63 'a' ++ ".com".toList

/-- A label of 63 letters is given a number, and is too long then. -/
theorem not_rotatesWell_long :
    isValidHostname longName = true ∧ ¬ RotatesWell exactApi.toTextApi longName [] 1 := by
  refine ⟨by decide +kernel, fun hwell => ?_⟩
  have hnext : nextRotatedHostname exactApi.toTextApi longName [] 1 =
      some (List.replicate 63 'a' ++ "2.com".toList) := by decide +kernel
  rw [RotatesWell, hnext] at hwell
  exact absurd hwell.1 (by decide +kernel)

end ProxVM.Domains
