import Mathlib.Data.List.TakeWhile
import ProxVM.Util.Errors
import ProxVM.Util.Text

/-!
# Names of domains

`normalizeHostname` and `assertValidHostname` of `services/domains.ts`, `qualifyName`,
`bumpHostname` and `nextRotatedHostname` of `services/domainrotate.ts`.

Texts are lists of characters.  A `TextApi` is what the language does with texts: the case mapping, the next
number, and JSON.

- `plain_bumpHostname`, `getLast_bumpHostname`: a name with the next number is plain and ends as before.
-/

namespace ProxVM.Domains

abbrev Text := List Char

/-! ## Texts -/

def isDigit (c : Char) : Bool := decide ('0' ≤ c ∧ c ≤ '9')

def isHostnameChar (c : Char) : Bool := decide ('a' ≤ c ∧ c ≤ 'z') || isDigit c

def isPlain (c : Char) : Bool := isHostnameChar c || ['-', '.', '_', '*', '+'].contains c

abbrev Plain (text : Text) : Prop := ∀ c ∈ text, isPlain c = true

/-- `toLowerCase`, `String(Number(digits) + 1)`, and what `JSON` makes of a list of texts and of any text: the
elements of an array, of which some may be texts, or nothing. -/
structure TextApi where
  lower : Text → Text
  lower_plain : ∀ text, Plain text → lower text = text
  successor : Text → Text
  successor_plain : ∀ digits, Plain (successor digits)
  stringify : List Text → Text
  parse : Text → Option (List (Option Text))
  parse_stringify : ∀ texts, parse (stringify texts) = some (texts.map some)

def trim (text : Text) : Text := ((text.dropWhile isJsSpace).reverse.dropWhile isJsSpace).reverse

/-! ## Normalization -/

/-- What stands before and after the first `://`. -/
def cutScheme : Text → Option (Text × Text)
  | ':' :: '/' :: '/' :: rest => some ([], rest)
  | c :: rest => (cutScheme rest).map fun (before, after) => (c :: before, after)
  | [] => none

def isSchemeChar (c : Char) : Bool := isHostnameChar c || ['+', '-', '.'].contains c

def stripUrlScheme (value : Text) : Text :=
  match cutScheme value with
  | some (first :: scheme, rest) => if 'a' ≤ first ∧ first ≤ 'z' ∧ scheme.all isSchemeChar then rest else value
  | _ => value

def afterLast (sep : Char) (text : Text) : Text := (text.reverse.takeWhile fun c => decide (c ≠ sep)).reverse

def isLineTerminator (c : Char) : Bool := [0x0A, 0x0D, 0x2028, 0x2029].contains c.toNat

def isPortSuffix : Text → Bool
  | [] => true
  | ':' :: digits => decide (digits ≠ []) && digits.all isDigit
  | _ => false

/-- What `/^\[(.+)\](?::\d+)?$/` captures. -/
def bracketed : Text → Option Text
  | '[' :: rest =>
      let inner := ((rest.reverse.dropWhile fun c => decide (c ≠ ']')).drop 1).reverse
      if ']' ∈ rest ∧ inner ≠ [] ∧ inner.all (fun c => !isLineTerminator c) ∧ isPortSuffix (afterLast ']' rest) then
        some inner
      else none
  | _ => none

def dropDot (value : Text) : Text := if value.getLast? = some '.' then value.dropLast else value

def dropPort (value : Text) : Text := (bracketed value).getD (value.takeWhile fun c => decide (c ≠ ':'))

def normalizeHostname (api : TextApi) (raw : Text) : Text :=
  let value := stripUrlScheme (api.lower (trim raw))
  let value := afterLast '@' (value.takeWhile fun c => decide (c ≠ '/'))
  dropDot (dropPort value)

/-! ## Validity -/

def isValidHostnameLabel (label : Text) : Bool :=
  decide (1 ≤ label.length ∧ label.length ≤ 63) && label.head?.all isHostnameChar && label.getLast?.all isHostnameChar &&
    label.tail.dropLast.all fun c => isHostnameChar c || decide (c = '-')

/-- What `assertValidHostname` accepts. -/
def isValidHostname (host : Text) : Bool :=
  decide (1 ≤ host.length ∧ host.length ≤ 253) && decide ('.' ∈ host) && (host.splitOn '.').all isValidHostnameLabel

def invalidHostname : AppError :=
  AppError.validation "Invalid domain name (use a bare hostname like app.example.com)"

def assertValidHostname (host : Text) : Except AppError Unit :=
  if isValidHostname host then .ok () else .error invalidHostname

/-! ## Names in a zone -/

def qualifyName (api : TextApi) (name zoneName : Text) : Text :=
  let trimmed := api.lower (trim name)
  if trimmed = ['@'] then zoneName
  else if '.' ∈ trimmed then normalizeHostname api trimmed
  else trimmed ++ '.' :: zoneName

/-! ## The next name -/

def firstLabel (hostname : Text) : Text := hostname.takeWhile fun c => decide (c ≠ '.')

def afterLabel (hostname : Text) : Text := hostname.dropWhile fun c => decide (c ≠ '.')

def bumpHostname (api : TextApi) (hostname : Text) : Text :=
  let label := firstLabel hostname
  let digits := (label.reverse.takeWhile isDigit).reverse
  let head := (label.reverse.dropWhile isDigit).reverse
  if digits = [] then label ++ '2' :: afterLabel hostname else head ++ api.successor digits ++ afterLabel hostname

scoped instance : LawfulBEq Text := inferInstance

/-- The loop of `nextRotatedHostname`. -/
def rotateFrom (api : TextApi) (skipped : List Text) : Nat → Text → Option Text
  | 0, _ => none
  | n + 1, current =>
      if bumpHostname api current ∈ skipped then rotateFrom api skipped n (bumpHostname api current)
      else some (bumpHostname api current)

def nextRotatedHostname (api : TextApi) (canonical : Text) (used : List Text) (maxAttempts : Nat) : Option Text :=
  let skipped := (used.map (normalizeHostname api)).filter fun h => decide (h ≠ [])
  let current := normalizeHostname api canonical
  if current = [] then none else rotateFrom api skipped maxAttempts current

/-! ## Plain texts -/

section plain

variable {api : TextApi} {text host : Text} {c : Char}

theorem isPlain_of_isHostnameChar (hc : isHostnameChar c = true) : isPlain c = true := by
  rw [isPlain, hc, Bool.true_or]

theorem toNat_of_isPlain (hc : isPlain c = true) : 33 ≤ c.toNat ∧ c.toNat ≤ 126 := by
  simp only [isPlain, isHostnameChar, isDigit, Bool.or_eq_true, decide_eq_true_eq, List.contains_iff_mem,
    List.mem_cons, List.not_mem_nil, or_false, Char.le_def, UInt32.le_iff_toNat_le] at hc
  change ((97 ≤ c.toNat ∧ c.toNat ≤ 122) ∨ 48 ≤ c.toNat ∧ c.toNat ≤ 57) ∨ _ at hc
  obtain (hletter | hdigit) | rfl | rfl | rfl | rfl | rfl := hc
  · omega
  · omega
  all_goals decide

theorem isJsSpace_of_isPlain (hc : isPlain c = true) : isJsSpace c = false := by
  obtain ⟨hlow, hhigh⟩ := toNat_of_isPlain hc
  simp only [isJsSpace, Bool.or_eq_false_iff, decide_eq_false_iff_not, List.contains_eq_mem, List.mem_cons,
    List.not_mem_nil, or_false]
  omega

variable {d : Char} {label current name canonical zone : Text} {skipped used : List Text} {n : Nat}

theorem ne_of_isPlain (hc : isPlain c = true) (hd : isPlain d = false) : c ≠ d := by
  rintro rfl
  rw [hc] at hd
  cases hd

theorem takeWhile_ne (hmem : d ∉ text) : (text.takeWhile fun c => decide (c ≠ d)) = text := by
  refine List.takeWhile_eq_self_iff.mpr fun c hc => decide_eq_true ?_
  rintro rfl
  exact hmem hc

theorem Plain.not_mem (hplain : Plain text) (hd : isPlain d = false) : d ∉ text := fun hmem =>
  ne_of_isPlain (hplain d hmem) hd rfl

theorem dropWhile_space (hplain : Plain text) : text.dropWhile isJsSpace = text := by
  cases text with
  | nil => rfl
  | cons c rest =>
      rw [List.dropWhile_cons_of_neg]
      rw [isJsSpace_of_isPlain (hplain c List.mem_cons_self)]
      exact Bool.false_ne_true

theorem trim_plain (hplain : Plain text) : trim text = text := by
  unfold trim
  rw [dropWhile_space hplain, dropWhile_space, List.reverse_reverse]
  exact fun c hc => hplain c (List.mem_reverse.mp hc)

theorem cutScheme_plain (hplain : Plain text) : cutScheme text = none := by
  fun_induction cutScheme text with
  | case1 rest => exact absurd List.mem_cons_self (hplain.not_mem (by decide : isPlain ':' = false))
  | case2 c rest _ ih => rw [ih fun d hd => hplain d (List.mem_cons_of_mem c hd), Option.map_none]
  | case3 => rfl

theorem stripUrlScheme_plain (hplain : Plain text) : stripUrlScheme text = text := by
  unfold stripUrlScheme
  rw [cutScheme_plain hplain]

theorem afterLast_plain {sep : Char} (hplain : Plain text) (hsep : isPlain sep = false) :
    afterLast sep text = text := by
  unfold afterLast
  rw [takeWhile_ne, List.reverse_reverse]
  rw [List.mem_reverse]
  exact hplain.not_mem hsep

theorem dropPort_plain (hplain : Plain text) : dropPort text = text := by
  have hbrackets : bracketed text = none := by
    unfold bracketed
    split
    · exact absurd List.mem_cons_self (hplain.not_mem (by decide : isPlain '[' = false))
    · rfl
  unfold dropPort
  rw [hbrackets, Option.getD_none, takeWhile_ne (hplain.not_mem (by decide))]

/-- **A plain text is normal**, unless it ends with a dot. -/
theorem normalizeHostname_plain (hplain : Plain text) (hdot : text.getLast? ≠ some '.') :
    normalizeHostname api text = text := by
  unfold normalizeHostname
  simp only [trim_plain hplain, api.lower_plain text hplain, stripUrlScheme_plain hplain]
  rw [takeWhile_ne (hplain.not_mem (by decide)), afterLast_plain hplain (by decide), dropPort_plain hplain]
  exact if_neg hdot

/-! ## Valid hostnames -/

theorem mem_splitOn (hc : c ∈ host) : c = '.' ∨ ∃ label ∈ host.splitOn '.', c ∈ label := by
  induction host with
  | nil => cases hc
  | cons d rest ih =>
      obtain ⟨label, labels, hsplit⟩ := List.exists_cons_of_ne_nil (List.splitOn_ne_nil '.' rest)
      rw [List.splitOn_cons_eq_if_modifyHead, hsplit]
      rw [hsplit] at ih
      by_cases hdot : d = '.'
      · rw [if_pos (beq_iff_eq.mpr hdot)]
        obtain rfl | hrest := List.mem_cons.mp hc
        · exact .inl hdot
        · exact (ih hrest).imp_right fun ⟨l, hl, hmem⟩ => ⟨l, List.mem_cons_of_mem _ hl, hmem⟩
      · rw [if_neg fun h => hdot (beq_iff_eq.mp h), List.modifyHead_cons]
        obtain rfl | hrest := List.mem_cons.mp hc
        · exact .inr ⟨_, List.mem_cons_self, List.mem_cons_self⟩
        · refine (ih hrest).imp_right ?_
          rintro ⟨l, hl, hmem⟩
          obtain rfl | hl := List.mem_cons.mp hl
          · exact ⟨_, List.mem_cons_self, List.mem_cons_of_mem d hmem⟩
          · exact ⟨l, List.mem_cons_of_mem _ hl, hmem⟩

theorem char_of_isValidHostnameLabel (hlabel : isValidHostnameLabel label = true) (hc : c ∈ label) :
    isHostnameChar c = true ∨ c = '-' := by
  simp only [isValidHostnameLabel, Bool.and_eq_true, decide_eq_true_eq, List.all_eq_true, Bool.or_eq_true] at hlabel
  obtain ⟨⟨⟨-, hhead⟩, hlast⟩, hinner⟩ := hlabel
  cases label with
  | nil => cases hc
  | cons d rest =>
      obtain rfl | hrest := List.mem_cons.mp hc
      · exact .inl hhead
      · obtain rfl | ⟨inner, last, rfl⟩ := List.eq_nil_or_concat rest
        · cases hrest
        · rw [List.concat_eq_append] at hlast hinner hrest
          rw [← List.cons_append, List.getLast?_concat] at hlast
          rw [List.tail_cons, List.dropLast_concat] at hinner
          obtain hc | hc := List.mem_append.mp hrest
          · exact hinner c hc
          · rw [List.mem_singleton.mp hc]
            exact .inl hlast

theorem plain_of_isValidHostnameLabel (hlabel : isValidHostnameLabel label = true) : Plain label := by
  intro c hc
  obtain hchar | rfl := char_of_isValidHostnameLabel hlabel hc
  · exact isPlain_of_isHostnameChar hchar
  · decide

theorem star_not_mem_of_isValidHostname (hhost : isValidHostname host = true) : '*' ∉ host := by
  simp only [isValidHostname, Bool.and_eq_true, List.all_eq_true] at hhost
  intro hstar
  obtain hdot | ⟨label, hlabel, hmem⟩ := mem_splitOn hstar
  · exact absurd hdot (by decide)
  · exact absurd (char_of_isValidHostnameLabel (hhost.2 label hlabel) hmem) (by decide)

theorem plain_of_isValidHostname (hhost : isValidHostname host = true) : Plain host := by
  simp only [isValidHostname, Bool.and_eq_true, List.all_eq_true] at hhost
  intro c hc
  obtain rfl | ⟨label, hlabel, hmem⟩ := mem_splitOn hc
  · decide
  · exact plain_of_isValidHostnameLabel (hhost.2 label hlabel) c hmem

theorem dot_mem_of_isValidHostname (hhost : isValidHostname host = true) : '.' ∈ host := by
  simp only [isValidHostname, Bool.and_eq_true, decide_eq_true_eq] at hhost
  exact hhost.1.2

theorem ne_nil_of_isValidHostname (hhost : isValidHostname host = true) : host ≠ [] :=
  List.ne_nil_of_mem (dot_mem_of_isValidHostname hhost)

theorem getLast_of_isValidHostname (hhost : isValidHostname host = true) : host.getLast? ≠ some '.' := by
  intro hlast
  obtain ⟨front, rfl⟩ := List.getLast?_eq_some_iff.mp hlast
  simp only [isValidHostname, Bool.and_eq_true, List.all_eq_true] at hhost
  have hempty : [] ∈ (front ++ ['.']).splitOn '.' := by
    rw [List.splitOn_append_cons_self]
    exact List.mem_append_right _ (List.mem_singleton.mpr rfl)
  exact absurd (hhost.2 [] hempty) (by decide)

/-- **A valid hostname is normal.** -/
theorem normalizeHostname_valid (hhost : isValidHostname host = true) : normalizeHostname api host = host :=
  normalizeHostname_plain (plain_of_isValidHostname hhost) (getLast_of_isValidHostname hhost)

/-! ## The next name -/

theorem firstLabel_append (hostname : Text) : firstLabel hostname ++ afterLabel hostname = hostname :=
  List.takeWhile_append_dropWhile

theorem plain_bumpHostname (hplain : Plain text) : Plain (bumpHostname api text) := by
  have hlabel : Plain (firstLabel text) := fun c hc => hplain c (List.takeWhile_subset _ hc)
  have hrest : Plain (afterLabel text) := fun c hc => hplain c (List.dropWhile_subset _ hc)
  have hhead : Plain ((firstLabel text).reverse.dropWhile isDigit).reverse := fun c hc =>
    hlabel c (List.mem_reverse.mp (List.dropWhile_subset _ (List.mem_reverse.mp hc)))
  intro c hc
  unfold bumpHostname at hc
  simp only at hc
  split at hc
  · obtain hc | hc := List.mem_append.mp hc
    · exact hlabel c hc
    · obtain rfl | hc := List.mem_cons.mp hc
      · decide
      · exact hrest c hc
  · obtain hc | hc := List.mem_append.mp hc
    · obtain hc | hc := List.mem_append.mp hc
      · exact hhead c hc
      · exact api.successor_plain _ c hc
    · exact hrest c hc

theorem bumpHostname_suffix (api : TextApi) (text : Text) :
    ∃ label, bumpHostname api text = label ++ afterLabel text := by
  unfold bumpHostname
  simp only
  split
  · exact ⟨firstLabel text ++ ['2'], by rw [List.append_assoc, List.singleton_append]⟩
  · exact ⟨_, rfl⟩

theorem afterLabel_of_dot (hdot : '.' ∈ text) : ∃ rest, afterLabel text = '.' :: rest := by
  unfold afterLabel
  induction text with
  | nil => cases hdot
  | cons c rest ih =>
      by_cases hc : c = '.'
      · subst hc
        exact ⟨rest, rfl⟩
      · rw [List.dropWhile_cons, if_pos (decide_eq_true hc)]
        exact ih ((List.mem_cons.mp hdot).resolve_left (Ne.symm hc))

theorem getLast_append_cons (label rest : Text) : (label ++ '.' :: rest).getLast? = ('.' :: rest).getLast? := by
  rw [List.getLast?_append, List.getLast?_cons, Option.some_or]

theorem bumpHostname_dotted (hdot : '.' ∈ text) (hlast : text.getLast? ≠ some '.') :
    '.' ∈ bumpHostname api text ∧ (bumpHostname api text).getLast? ≠ some '.' := by
  obtain ⟨label, hbump⟩ := bumpHostname_suffix api text
  obtain ⟨rest, hrest⟩ := afterLabel_of_dot hdot
  have hsame : text.getLast? = ('.' :: rest).getLast? :=
    calc text.getLast? = (firstLabel text ++ '.' :: rest).getLast? := by rw [← hrest, firstLabel_append]
      _ = ('.' :: rest).getLast? := getLast_append_cons _ rest
  rw [hbump, hrest, getLast_append_cons, ← hsame]
  exact ⟨List.mem_append_right _ List.mem_cons_self, hlast⟩

theorem not_mem_of_rotateFrom (hname : rotateFrom api skipped n current = some name) : name ∉ skipped := by
  induction n generalizing current with
  | zero => cases hname
  | succ n ih =>
      unfold rotateFrom at hname
      split at hname
      · exact ih hname
      · next hnew =>
          rw [← Option.some.inj hname]
          exact hnew

theorem plain_of_rotateFrom (hplain : Plain current)
    (hdot : '.' ∈ current) (hlast : current.getLast? ≠ some '.')
    (hname : rotateFrom api skipped n current = some name) :
    Plain name ∧ '.' ∈ name ∧ name.getLast? ≠ some '.' := by
  induction n generalizing current with
  | zero => cases hname
  | succ n ih =>
      have hbumped : '.' ∈ bumpHostname api current ∧ (bumpHostname api current).getLast? ≠ some '.' :=
        bumpHostname_dotted hdot hlast
      unfold rotateFrom at hname
      split at hname
      · exact ih (plain_bumpHostname hplain) hbumped.1 hbumped.2 hname
      · rw [← Option.some.inj hname]
        exact ⟨plain_bumpHostname hplain, hbumped⟩

/-- **The next name is new**, if the used names are normal. -/
theorem ne_of_nextRotatedHostname (hused : host ∈ used)
    (hnormal : normalizeHostname api host = host) (hne : host ≠ [])
    (hname : nextRotatedHostname api canonical used n = some name) : name ≠ host := by
  unfold nextRotatedHostname at hname
  simp only at hname
  split at hname
  · cases hname
  · rintro rfl
    refine not_mem_of_rotateFrom hname (List.mem_filter.mpr ⟨List.mem_map.mpr ⟨name, hused, hnormal⟩, ?_⟩)
    exact decide_eq_true hne

theorem qualifyName_plain (hplain : Plain text) (hdot : '.' ∈ text)
    (hlast : text.getLast? ≠ some '.') : qualifyName api text zone = text := by
  have hlower : api.lower (trim text) = text := by rw [trim_plain hplain, api.lower_plain text hplain]
  have hapex : text ≠ ['@'] := by
    rintro rfl
    exact absurd (hplain '@' List.mem_cons_self) (by decide)
  unfold qualifyName
  simp only [hlower]
  rw [if_neg hapex, if_pos hdot, normalizeHostname_plain hplain hlast]

/-- **After a plain name with a dot, the next name in the zone is the next name.** -/
theorem qualifyName_nextRotatedHostname
    (hplain : Plain canonical) (hdot : '.' ∈ canonical) (hlast : canonical.getLast? ≠ some '.')
    (hname : nextRotatedHostname api canonical used n = some name) : qualifyName api name zone = name := by
  unfold nextRotatedHostname at hname
  simp only [normalizeHostname_plain hplain hlast] at hname
  split at hname
  · cases hname
  · obtain ⟨hplain', hdot', hlast'⟩ := plain_of_rotateFrom hplain hdot hlast hname
    exact qualifyName_plain hplain' hdot' hlast'

end plain

/-! ## Samples -/

def quoted : Text → Text
  | [] => ['"']
  | c :: rest => if c = '"' ∨ c = '\\' then '\\' :: c :: quoted rest else c :: quoted rest

def elements : List Text → Text
  | [] => [']']
  | text :: rest => ',' :: '"' :: quoted text ++ elements rest

/-- `JSON.stringify` of a list of texts without control characters. -/
def jsonTexts : List Text → Text
  | [] => "[]".toList
  | text :: rest => '[' :: '"' :: quoted text ++ elements rest

def unquote : Text → Option (Text × Text)
  | [] => none
  | '"' :: rest => some ([], rest)
  | '\\' :: c :: rest => (unquote rest).map fun (text, left) => (c :: text, left)
  | c :: rest => (unquote rest).map fun (text, left) => (c :: text, left)

def readElements : Nat → Text → Option (List Text)
  | 0, _ => none
  | n + 1, text =>
      match text with
      | [']'] => some []
      | ',' :: '"' :: rest => (unquote rest).bind fun (first, left) => (readElements n left).map (first :: ·)
      | _ => none

/-- `JSON.parse` of an array of texts. -/
def readTexts (text : Text) : Option (List Text) :=
  match text with
  | ['[', ']'] => some []
  | '[' :: '"' :: rest => (unquote rest).bind fun (first, left) => (readElements text.length left).map (first :: ·)
  | _ => none

theorem unquote_quoted (text left : Text) : unquote (quoted text ++ left) = some (text, left) := by
  induction text with
  | nil => rfl
  | cons c rest ih =>
      unfold quoted
      split
      · show (unquote (quoted rest ++ left)).map _ = _
        rw [ih]
        rfl
      · next hplain =>
          rw [not_or] at hplain
          show unquote (c :: (quoted rest ++ left)) = _
          rw [unquote.eq_4 c (quoted rest ++ left) hplain.1 fun _ _ h _ => hplain.2 h, ih]
          rfl

theorem readElements_elements (texts : List Text) (n : Nat) (hn : texts.length < n) :
    readElements n (elements texts) = some texts := by
  induction texts generalizing n with
  | nil =>
      obtain ⟨m, rfl⟩ := Nat.exists_eq_succ_of_ne_zero (Nat.ne_zero_of_lt hn)
      rfl
  | cons text rest ih =>
      obtain ⟨m, rfl⟩ := Nat.exists_eq_succ_of_ne_zero (Nat.ne_zero_of_lt hn)
      show (unquote (quoted text ++ elements rest)).bind _ = _
      rw [unquote_quoted]
      show (readElements m (elements rest)).map _ = _
      rw [ih m (Nat.lt_of_succ_lt_succ hn)]
      rfl

theorem length_elements (texts : List Text) : texts.length < (elements texts).length := by
  induction texts with
  | nil => exact Nat.zero_lt_one
  | cons text rest ih =>
      show rest.length + 1 < (',' :: '"' :: (quoted text ++ elements rest)).length
      rw [List.length_cons, List.length_cons, List.length_append]
      omega

theorem readTexts_jsonTexts (texts : List Text) : readTexts (jsonTexts texts) = some texts := by
  cases texts with
  | nil => rfl
  | cons text rest =>
      show (unquote (quoted text ++ elements rest)).bind _ = _
      rw [unquote_quoted]
      show (readElements _ (elements rest)).map _ = _
      rw [readElements_elements]
      · rfl
      · refine Nat.lt_trans (length_elements rest) ?_
        show (elements rest).length < ('[' :: '"' :: (quoted text ++ elements rest)).length
        rw [List.length_cons, List.length_cons, List.length_append]
        omega

def numberOf (digits : Text) : Nat := digits.foldl (fun n c => 10 * n + (c.toNat - '0'.toNat)) 0

def asciiApi : TextApi where
  lower := List.map Char.toLower
  lower_plain := by
    intro text hplain
    refine (List.map_congr_left fun c hc => ?_).trans (List.map_id text)
    have hplain := hplain c hc
    simp only [isPlain, isHostnameChar, isDigit, Bool.or_eq_true, decide_eq_true_eq, List.contains_iff_mem,
      List.mem_cons, List.not_mem_nil, or_false, Char.le_def, UInt32.le_iff_toNat_le] at hplain
    change ((97 ≤ c.toNat ∧ c.toNat ≤ 122) ∨ 48 ≤ c.toNat ∧ c.toNat ≤ 57) ∨ _ at hplain
    refine dif_neg ?_
    rintro ⟨hlow, hhigh⟩
    rw [ge_iff_le, UInt32.le_iff_toNat_le] at hlow
    rw [UInt32.le_iff_toNat_le] at hhigh
    change 65 ≤ c.toNat at hlow
    change c.toNat ≤ 90 at hhigh
    obtain (hletter | hdigit) | rfl | rfl | rfl | rfl | rfl := hplain
    · omega
    · omega
    all_goals exact absurd (And.intro hlow hhigh) (by decide)
  successor digits := Nat.toDigits 10 (numberOf digits + 1)
  successor_plain := by
    intro digits c hc
    have hdigit : c.isDigit = true := Nat.isDigit_of_mem_toDigits (by decide) (by decide) hc
    simp only [Char.isDigit, Bool.and_eq_true, decide_eq_true_eq] at hdigit
    refine isPlain_of_isHostnameChar ((Bool.or_eq_true _ _).mpr (.inr (decide_eq_true ?_)))
    exact hdigit
  stringify := jsonTexts
  parse text := (readTexts text).map (List.map some)
  parse_stringify texts := by rw [readTexts_jsonTexts, Option.map_some]

end ProxVM.Domains
