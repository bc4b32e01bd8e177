import Mathlib.Data.List.Infix

/-!
# Command lines on Windows

How the Microsoft C runtime takes a command line apart, and which parts of it `cmd.exe` expands.

- `args_quoted`: what a text between quotes leaves for the quote that ends it to decide.
-/

namespace WindowsArgs

abbrev Text := List Char

/-! ## Arguments -/

/-- Where the parser stands: between arguments; in one, within quotes or not, after some backslashes; or
after a quote that may end a quotation. -/
inductive Mode
  | between
  | inside (arg : Text) (quoted : Bool) (slashes : Nat)
  | closed (arg : Text)

def isBlank (c : Char) : Bool := decide (c = ' ' ∨ c = '\t')

def slashes (n : Nat) : Text := List.replicate n '\\'

def step (arg : Text) (quoted : Bool) (n : Nat) (c : Char) : Option Text × Mode :=
  if c = '\\' then (none, .inside arg quoted (n + 1))
  else if c = '"' then
    -- backslashes before a quote stand for half as many; an odd one makes the quote literal
    if n % 2 = 1 then (none, .inside (arg ++ slashes (n / 2) ++ ['"']) quoted 0)
    else if quoted then (none, .closed (arg ++ slashes (n / 2)))
    else (none, .inside (arg ++ slashes (n / 2)) true 0)
  else if isBlank c && !quoted then (some (arg ++ slashes n), .between)
  else (none, .inside (arg ++ slashes n ++ [c]) quoted 0)

def args : Mode → Text → List Text
  | .between, [] => []
  | .inside arg _ n, [] => [arg ++ slashes n]
  | .closed arg, [] => [arg]
  | .between, c :: cs => if isBlank c then args .between cs else args (step [] false 0 c).2 cs
  | .inside arg quoted n, c :: cs => (step arg quoted n c).1.toList ++ args (step arg quoted n c).2 cs
  | .closed arg, c :: cs =>
      -- two quotes in a quotation are a literal one
      if c = '"' then args (.inside (arg ++ ['"']) true 0) cs
      else (step arg false 0 c).1.toList ++ args (step arg false 0 c).2 cs

def program : Bool → Text → Text × Text
  | _, [] => ([], [])
  | quoted, c :: cs =>
      if c = '"' then program (!quoted) cs
      else if isBlank c && !quoted then ([], cs)
      else (c :: (program quoted cs).1, (program quoted cs).2)

def argv (line : Text) : List Text := (program false line).1 :: args .between (program false line).2

def EndsWithSlash (text : Text) : Prop := text.getLast? = some '\\'

instance (text : Text) : Decidable (EndsWithSlash text) := inferInstanceAs (Decidable (_ = _))

section arguments

variable {arg text rest : Text} {quoted : Bool} {n : Nat}

theorem slashes_succ : slashes (n + 1) = slashes n ++ ['\\'] := List.replicate_succ'

theorem step_quoted {c : Char} (hslash : c ≠ '\\') (hquote : c ≠ '"') :
    step arg true n c = (none, .inside (arg ++ slashes n ++ [c]) true 0) := by
  unfold step
  rw [if_neg hslash, if_neg hquote, Bool.not_true, Bool.and_false, if_neg Bool.false_ne_true]

theorem args_quoted (htext : '"' ∉ text) : ∃ arg' m,
    args (.inside arg true n) (text ++ rest) = args (.inside arg' true m) rest ∧
      arg' ++ slashes m = arg ++ slashes n ++ text ∧
        (m = 0 ↔ ¬ EndsWithSlash text ∧ (text = [] → n = 0)) := by
  induction text generalizing arg n with
  | nil =>
      refine ⟨arg, n, rfl, (List.append_nil _).symm, ?_⟩
      exact ⟨fun h => ⟨fun hlast => (by cases hlast), fun _ => h⟩, fun h => h.2 rfl⟩
  | cons c text ih =>
      have hrest : '"' ∉ text := List.not_mem_of_not_mem_cons htext
      by_cases hslash : c = '\\'
      · subst hslash
        obtain ⟨arg', m, hargs, hsame, hzero⟩ := @ih arg (n + 1) hrest
        refine ⟨arg', m, ?_, ?_, hzero.trans ?_⟩
        · exact hargs
        · rw [hsame, slashes_succ, List.append_assoc, List.append_assoc, List.append_assoc,
            List.singleton_append]
        · cases text with
          | nil =>
              refine iff_of_false (fun h => ?_) (fun h => h.1 rfl)
              exact absurd (h.2 rfl) (Nat.succ_ne_zero n)
          | cons d text =>
              have hlast : EndsWithSlash ('\\' :: d :: text) ↔ EndsWithSlash (d :: text) := by
                unfold EndsWithSlash
                rw [List.getLast?_cons_cons]
              rw [hlast]
              exact and_congr_right fun _ => iff_of_true (fun h => by cases h) fun h => by cases h
      · have hstep := @step_quoted arg n c hslash (List.ne_of_not_mem_cons htext).symm
        obtain ⟨arg', m, hargs, hsame, hzero⟩ := @ih (arg ++ slashes n ++ [c]) 0 hrest
        refine ⟨arg', m, ?_, ?_, hzero.trans ?_⟩
        · rw [List.cons_append, args, hstep]
          exact hargs
        · rw [hsame]
          simp only [slashes, List.replicate_zero, List.append_nil, List.append_assoc, List.singleton_append]
        · cases text with
          | nil =>
              refine iff_of_true ⟨fun h => (by cases h), fun _ => rfl⟩ ⟨fun h => hslash ?_, fun h => (by cases h)⟩
              exact Option.some.inj h
          | cons d text =>
              have hlast : EndsWithSlash (c :: d :: text) ↔ EndsWithSlash (d :: text) := by
                unfold EndsWithSlash
                rw [List.getLast?_cons_cons]
              rw [hlast]
              exact and_congr_right fun _ => iff_of_true (fun h => by cases h) fun h => by cases h

theorem args_head (text : Text) : ∀ arg, (∀ quoted n, ∃ first others,
    args (.inside arg quoted n) text = first :: others ∧ arg <+: first) ∧
      ∃ first others, args (.closed arg) text = first :: others ∧ arg <+: first := by
  induction text with
  | nil =>
      refine fun arg => ⟨fun quoted n => ⟨_, [], rfl, List.prefix_append _ _⟩, arg, [], rfl, List.prefix_rfl⟩
  | cons c text ih =>
      have hinside : ∀ arg quoted n, ∃ first others,
          (step arg quoted n c).1.toList ++ args (step arg quoted n c).2 text = first :: others ∧
            arg <+: first := by
        intro arg quoted n
        have hlater : ∀ more quoted n, ∃ first others,
            args (.inside (arg ++ more) quoted n) text = first :: others ∧ arg <+: first := by
          intro more quoted n
          obtain ⟨first, others, heq, hstarts⟩ := (ih (arg ++ more)).1 quoted n
          exact ⟨first, others, heq, (List.prefix_append _ _).trans hstarts⟩
        unfold step
        split
        · exact (ih arg).1 quoted (n + 1)
        · split
          · split
            · rw [List.append_assoc]
              exact hlater _ quoted 0
            · split
              · obtain ⟨first, others, heq, hstarts⟩ := (ih (arg ++ slashes (n / 2))).2
                exact ⟨first, others, heq, (List.prefix_append _ _).trans hstarts⟩
              · exact hlater _ true 0
          · split
            · exact ⟨_, _, rfl, List.prefix_append _ _⟩
            · rw [List.append_assoc]
              exact hlater _ quoted 0
      refine fun arg => ⟨fun quoted n => hinside arg quoted n, ?_⟩
      rw [args]
      split
      · obtain ⟨first, others, heq, hstarts⟩ := (ih (arg ++ ['"'])).1 true 0
        exact ⟨first, others, heq, (List.prefix_append _ _).trans hstarts⟩
      · exact hinside arg false 0

theorem args_closed (hrest : rest = [] ∨ ∃ more, rest = ' ' :: more) :
    ∃ others, args (.closed arg) rest = arg :: others := by
  obtain rfl | ⟨more, rfl⟩ := hrest
  · exact ⟨[], rfl⟩
  · refine ⟨args .between more, ?_⟩
    simp [args, step, isBlank, slashes]

theorem args_of_endsWithSlash (htext : '"' ∉ text) (hlast : EndsWithSlash text)
    (hrest : rest = [] ∨ ∃ more, rest = ' ' :: more) :
    ∃ first others, args (.inside [] true 0) (text ++ '"' :: rest) = first :: others ∧ first ≠ text := by
  obtain ⟨arg', m, hargs, hsame, hzero⟩ := @args_quoted [] text ('"' :: rest) 0 htext
  have hpos : 0 < m := Nat.pos_of_ne_zero fun h => (hzero.mp h).1 hlast
  have htail : arg' ++ slashes m = text := hsame.trans (List.nil_append text)
  rw [hargs, args]
  by_cases hodd : m % 2 = 1
  · have hstep : step arg' true m '"' = (none, .inside (arg' ++ slashes (m / 2) ++ ['"']) true 0) :=
      if_pos hodd
    obtain ⟨first, others, heq, hstarts⟩ := (args_head rest (arg' ++ slashes (m / 2) ++ ['"'])).1 true 0
    refine ⟨first, others, ?_, ?_⟩
    · rw [hstep]
      exact heq
    · rintro rfl
      exact htext (hstarts.subset (List.mem_append_right _ List.mem_cons_self))
  · have hstep : step arg' true m '"' = (none, .closed (arg' ++ slashes (m / 2))) := if_neg hodd
    obtain ⟨others, heq⟩ := @args_closed (arg' ++ slashes (m / 2)) rest hrest
    refine ⟨arg' ++ slashes (m / 2), others, ?_, fun hsame => ?_⟩
    · rw [hstep]
      exact heq
    · -- half of them are fewer
      rw [← htail] at hsame
      have hlength := congrArg List.length (List.append_cancel_left hsame)
      simp only [slashes, List.length_replicate] at hlength
      omega

theorem args_of_not_endsWithSlash (htext : '"' ∉ text) (hlast : ¬ EndsWithSlash text) :
    args (.inside [] true 0) (text ++ '"' :: rest) = args (.closed text) rest := by
  obtain ⟨arg', m, hargs, hsame, hzero⟩ := @args_quoted [] text ('"' :: rest) 0 htext
  obtain rfl : m = 0 := hzero.mpr ⟨hlast, fun _ => rfl⟩
  obtain rfl : arg' = text := by simpa [slashes] using hsame
  rw [hargs, args]
  simp [step, slashes]

variable {text' : Text}

/-- **Two texts between quotes** arrive as they are exactly if neither ends with a backslash. -/
theorem args_pair_iff (htext : '"' ∉ text) (htext' : '"' ∉ text') :
    args .between ('"' :: (text ++ '"' :: ' ' :: '"' :: (text' ++ ['"']))) = [text, text'] ↔
      ¬ EndsWithSlash text ∧ ¬ EndsWithSlash text' := by
  change args (.inside [] true 0) (text ++ '"' :: ' ' :: '"' :: (text' ++ ['"'])) = _ ↔ _
  by_cases hlast : EndsWithSlash text
  · obtain ⟨first, others, heq, hne⟩ := args_of_endsWithSlash htext hlast (.inr ⟨'"' :: (text' ++ ['"']), rfl⟩)
    rw [heq]
    refine iff_of_false (fun hsame => hne (List.cons.inj hsame).1) fun h => h.1 hlast
  · rw [args_of_not_endsWithSlash htext hlast]
    have hblank : args (.closed text) (' ' :: '"' :: (text' ++ ['"'])) =
        text :: args (.inside [] true 0) (text' ++ ['"']) := by
      simp [args, step, isBlank, slashes]
    rw [hblank]
    by_cases hlast' : EndsWithSlash text'
    · obtain ⟨first, others, heq, hne⟩ := args_of_endsWithSlash htext' hlast' (.inl rfl)
      rw [heq]
      refine iff_of_false (fun hsame => hne ?_) fun h => h.2 hlast'
      exact (List.cons.inj (List.cons.inj hsame).2).1
    · rw [args_of_not_endsWithSlash htext' hlast']
      exact iff_of_true rfl ⟨hlast, hlast'⟩

end arguments

/-! ## Expansion -/

/-- `cmd.exe` takes a name between two percent signs for a variable. -/
def Expands (line : Text) : Prop :=
  ∃ before name after, line = before ++ '%' :: (name ++ '%' :: after) ∧ name ≠ [] ∧ '%' ∉ name

section expansion

variable {line text text' between before after : Text}

theorem Expands.two_le_count (h : Expands line) : 2 ≤ line.count '%' := by
  obtain ⟨before, name, after, rfl, -, -⟩ := h
  simp only [List.count_append, List.count_cons_self]
  omega

theorem exists_split (hone : text.count '%' ≤ 1) (hmem : '%' ∈ text) :
    ∃ front back, text = front ++ '%' :: back ∧ '%' ∉ front ∧ '%' ∉ back := by
  obtain ⟨front, back, rfl, hfront⟩ := List.eq_append_cons_of_mem hmem
  refine ⟨front, back, rfl, hfront, fun hback => ?_⟩
  rw [List.count_append, List.count_cons_self] at hone
  have hpos := List.count_pos_iff.mpr hback
  omega

/-- **Two texts in a line that have at most one percent sign each** expand exactly if both have one. -/
theorem expands_iff (hbefore : '%' ∉ before) (hbetween : '%' ∉ between) (hne : between ≠ [])
    (hafter : '%' ∉ after) (hone : text.count '%' ≤ 1) (hone' : text'.count '%' ≤ 1) :
    Expands (before ++ (text ++ (between ++ (text' ++ after)))) ↔ '%' ∈ text ∧ '%' ∈ text' := by
  constructor
  · intro h
    have htwo := h.two_le_count
    simp only [List.count_append, List.count_eq_zero.mpr hbefore, List.count_eq_zero.mpr hbetween,
      List.count_eq_zero.mpr hafter] at htwo
    exact ⟨List.count_pos_iff.mp (by omega), List.count_pos_iff.mp (by omega)⟩
  · rintro ⟨hmem, hmem'⟩
    obtain ⟨front, back, rfl, -, hback⟩ := exists_split hone hmem
    obtain ⟨front', back', rfl, hfront', -⟩ := exists_split hone' hmem'
    refine ⟨before ++ front, back ++ (between ++ front'), back' ++ after, by simp, ?_, ?_⟩
    · intro hnil
      exact hne (List.append_eq_nil_iff.mp (List.append_eq_nil_iff.mp hnil).2).1
    · intro hname
      obtain h | h := List.mem_append.mp hname
      · exact hback h
      · obtain h | h := List.mem_append.mp h
        · exact hbetween h
        · exact hfront' h

end expansion

end WindowsArgs
