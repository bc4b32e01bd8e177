import Mathlib.Data.List.Forall2

/-!
# Comma-separated lines

A reader of comma-separated records, as RFC 4180 describes them, whose records end at a CR, an LF or a
CRLF.

- `read_plain` and `read_quoted`: what a field stands for, written as it is or between quotes.
-/

namespace Csv

abbrev Text := List Char

abbrev Record := List Text

/-- Where the reader stands in a record: in a field as it is, in one between quotes, after a quote within
one, or after the end of a record. -/
inductive Mode
  | plain (text : Text)
  | quoted (text : Text)
  | closed (text : Text)
  | ended (cr : Bool)
  deriving DecidableEq, Repr

structure Reader where
  done : List Record := []
  fields : Record := []
  mode : Mode := .plain []
  deriving DecidableEq, Repr

namespace Reader

def after (r : Reader) (text : Text) (c : Char) : Option Reader :=
  if c = ',' then some { r with fields := r.fields ++ [text], mode := .plain [] }
  else if c = '\n' ∨ c = '\r' then
    some { done := r.done ++ [r.fields ++ [text]], fields := [], mode := .ended (decide (c = '\r')) }
  else none

def plain (r : Reader) (text : Text) (c : Char) : Option Reader :=
  if c = '"' then if text = [] then some { r with mode := .quoted [] } else none
  else (r.after text c).or (some { r with mode := .plain (text ++ [c]) })

def step (r : Reader) (c : Char) : Option Reader :=
  match r.mode with
  | .plain text => r.plain text c
  | .quoted text => some { r with mode := if c = '"' then .closed text else .quoted (text ++ [c]) }
  | .closed text => if c = '"' then some { r with mode := .quoted (text ++ [c]) } else r.after text c
  -- an LF right after a CR belongs to the same line break
  | .ended cr => if cr = true ∧ c = '\n' then some { r with mode := .ended false } else r.plain [] c

def finish (r : Reader) : Option (List Record) :=
  match r.mode with
  | .plain text => some (r.done ++ [r.fields ++ [text]])
  | .quoted _ => none
  | .closed text => some (r.done ++ [r.fields ++ [text]])
  | .ended _ => some r.done

end Reader

def read : Reader → Text → Option (List Record)
  | r, [] => r.finish
  | r, c :: cs => (r.step c).bind fun r => read r cs

def parse (text : Text) : Option (List Record) := read {} text

def doubled (text : Text) : Text := text.flatMap fun c => if c = '"' then ['"', '"'] else [c]

def structural (c : Char) : Bool := c == '"' || c == ',' || c == '\n'

variable {c : Char} {text : Text} {r s : Reader}

theorem structural_iff : structural c = true ↔ c = '"' ∨ c = ',' ∨ c = '\n' := by
  simp [structural, or_assoc]

theorem Reader.plain_ordinary (r : Reader) (text : Text) (hc : structural c = false) (hcr : c ≠ '\r') :
    r.plain text c = some { r with mode := .plain (text ++ [c]) } := by
  have hnot := mt structural_iff.mpr (by rw [hc]; decide)
  push Not at hnot
  rw [plain, if_neg hnot.1, after, if_neg hnot.2.1, if_neg (not_or.mpr ⟨hnot.2.2, hcr⟩), Option.none_or]

theorem read_plain (done : List Record) (fields : Record) (pre rest : Text)
    (htext : ∀ c ∈ text, structural c = false ∧ c ≠ '\r') :
    read ⟨done, fields, .plain pre⟩ (text ++ rest) = read ⟨done, fields, .plain (pre ++ text)⟩ rest := by
  induction text generalizing pre with
  | nil => rw [List.nil_append, List.append_nil]
  | cons c text ih =>
      have hc := htext c List.mem_cons_self
      have hstep : Reader.step ⟨done, fields, .plain pre⟩ c = some ⟨done, fields, .plain (pre ++ [c])⟩ :=
        Reader.plain_ordinary _ pre hc.1 hc.2
      rw [List.cons_append, read, hstep, Option.bind_some,
        ih (pre ++ [c]) fun d hd => htext d (List.mem_cons_of_mem c hd), List.append_assoc, List.singleton_append]

theorem read_doubled (done : List Record) (fields : Record) (text pre rest : Text) :
    read ⟨done, fields, .quoted pre⟩ (doubled text ++ rest) =
      read ⟨done, fields, .quoted (pre ++ text)⟩ rest := by
  induction text generalizing pre with
  | nil => rw [doubled, List.flatMap_nil, List.nil_append, List.append_nil]
  | cons c text ih =>
      have hstep : read ⟨done, fields, .quoted pre⟩ (doubled (c :: text) ++ rest) =
          read ⟨done, fields, .quoted (pre ++ [c])⟩ (doubled text ++ rest) := by
        unfold doubled
        rw [List.flatMap_cons, List.append_assoc]
        by_cases hc : c = '"'
        · subst hc
          rfl
        · rw [if_neg hc, List.singleton_append, read, Reader.step]
          simp only [if_neg hc, Option.bind_some]
      rw [hstep, ih, List.append_assoc, List.singleton_append]

theorem read_quoted (done : List Record) (fields : Record) (text rest : Text) :
    read ⟨done, fields, .plain []⟩ ('"' :: (doubled text ++ '"' :: rest)) =
      read ⟨done, fields, .closed text⟩ rest := by
  have hopen : read ⟨done, fields, .plain []⟩ ('"' :: (doubled text ++ '"' :: rest)) =
      read ⟨done, fields, .quoted []⟩ (doubled text ++ '"' :: rest) := rfl
  rw [hopen, read_doubled]
  rfl

theorem Reader.after_done (hafter : r.after text c = some s) : r.done <+: s.done := by
  unfold after at hafter
  split at hafter
  · cases hafter
    exact List.prefix_rfl
  · split at hafter
    · cases hafter
      exact List.prefix_append _ _
    · cases hafter

theorem Reader.plain_done (hplain : r.plain text c = some s) : r.done <+: s.done := by
  unfold plain at hplain
  split at hplain
  · split at hplain
    · cases hplain
      exact List.prefix_rfl
    · cases hplain
  · rcases Option.or_eq_some_iff.mp hplain with hafter | ⟨-, hmore⟩
    · exact after_done hafter
    · cases hmore
      exact List.prefix_rfl

theorem Reader.step_done (hstep : r.step c = some s) : r.done <+: s.done := by
  unfold step at hstep
  split at hstep
  · exact plain_done hstep
  · cases hstep
    exact List.prefix_rfl
  · split at hstep
    · cases hstep
      exact List.prefix_rfl
    · exact after_done hstep
  · split at hstep
    · cases hstep
      exact List.prefix_rfl
    · exact plain_done hstep

theorem read_done {r : Reader} {text : Text} {records : List Record} (hread : read r text = some records) :
    r.done <+: records := by
  induction text generalizing r with
  | nil =>
      rw [read, Reader.finish] at hread
      split at hread
      · cases hread
        exact List.prefix_append _ _
      · cases hread
      · cases hread
        exact List.prefix_append _ _
      · cases hread
        exact List.prefix_rfl
  | cons c text ih =>
      obtain ⟨s, hstep, hrest⟩ := Option.bind_eq_some_iff.mp hread
      exact (Reader.step_done hstep).trans (ih hrest)

/-- **A field that is written as it is ends its record at its first CR.** -/
theorem read_cut {fields : Record} {text rest : Text} {record : Record}
    (htext : ∀ c ∈ text, structural c = false ∧ c ≠ '\r')
    (hread : read ⟨[], fields, .plain []⟩ (text ++ '\r' :: rest) = some [record]) : record = fields ++ [text] := by
  rw [read_plain [] fields [] _ htext, List.nil_append] at hread
  have hdone : [fields ++ [text]] <+: [record] := read_done (r := ⟨[fields ++ [text]], [], .ended true⟩) hread
  exact (List.singleton_inj.mp (hdone.eq_of_length rfl)).symm

end Csv
