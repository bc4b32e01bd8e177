import ProxVM.Lib.Csv

/-!
# Exported tables

`csvCell` of `util/misc.ts`, the encoder all the CSV exports share.  It puts an apostrophe
before a text that a spreadsheet takes for a formula, and quotes a text that has a quote, a comma or an LF.
It does not quote a text for a CR, which ends a record as well.
-/

namespace ProxVM.Exports

open Csv

inductive Value
  | absent
  | text (value : Text)
  | date (iso : Text)
  | object (json : Text)

def Value.raw : Value → Text
  | .absent => []
  | .text value => value
  | .date iso => iso
  | .object json => json

def isFormula : Text → Bool
  | [] => false
  | c :: _ => ['=', '+', '-', '@', '\t', '\r'].contains c

def guarded (raw : Text) : Text := if isFormula raw then '\'' :: raw else raw

def encode (text : Text) : Text :=
  if text.any structural then '"' :: (doubled text ++ ['"']) else text

def csvCell (value : Value) : Text := encode (guarded value.raw)

def csvRow (values : List Text) : Text :=
  [','].intercalate (values.map fun value => csvCell (.text value))

/-- A row that reads back: as one record, each field the value or the value after an apostrophe, and none of
them a formula. -/
def Decodes (values : List Text) : Prop :=
  ∃ record, parse (csvRow values) = some [record] ∧
    List.Forall₂ (fun value field => field = value ∨ field = '\'' :: value) values record ∧
    ∀ field ∈ record, isFormula field = false

def Quoted (value : Text) : Prop := '\r' ∈ value → value.any structural = true

instance (value : Text) : Decidable (Quoted value) := inferInstanceAs (Decidable (_ → _))

theorem guarded_cases (value : Text) : guarded value = value ∨ guarded value = '\'' :: value := by
  unfold guarded
  split
  · exact Or.inr rfl
  · exact Or.inl rfl

theorem isFormula_guarded (value : Text) : isFormula (guarded value) = false := by
  unfold guarded
  split
  · rfl
  · next hnot => exact Bool.eq_false_iff.mpr hnot

theorem any_guarded (value : Text) : (guarded value).any structural = value.any structural := by
  rcases guarded_cases value with hsame | hmark
  · rw [hsame]
  · rw [hmark]
    rfl

theorem mem_guarded (value : Text) : '\r' ∈ guarded value ↔ '\r' ∈ value := by
  rcases guarded_cases value with hsame | hmark
  · rw [hsame]
  · rw [hmark, List.mem_cons]
    exact or_iff_right (by decide)

theorem read_cell {value : Text} (hquoted : Quoted value) (done : List Record) (fields : Record) (rest : Text) :
    ∃ mode, (mode = .plain (guarded value) ∨ mode = .closed (guarded value)) ∧
      read ⟨done, fields, .plain []⟩ (csvCell (.text value) ++ rest) = read ⟨done, fields, mode⟩ rest := by
  unfold csvCell encode Value.raw
  by_cases hany : (guarded value).any structural = true
  · refine ⟨.closed (guarded value), Or.inr rfl, ?_⟩
    rw [if_pos hany, List.cons_append, List.append_assoc, List.singleton_append, read_quoted]
  · refine ⟨.plain (guarded value), Or.inl rfl, ?_⟩
    rw [if_neg hany, read_plain, List.nil_append]
    intro c hc
    refine ⟨Bool.eq_false_iff.mpr fun hs => hany (List.any_eq_true.mpr ⟨c, hc, hs⟩), ?_⟩
    rintro rfl
    exact hany (any_guarded value ▸ hquoted ((mem_guarded value).mp hc))

variable {values : List Text}

theorem read_cells (hquoted : ∀ value ∈ values, Quoted value) (fields : Record) (rest : Text) :
    read ⟨[], fields, .plain []⟩ (values.flatMap (fun value => csvCell (.text value) ++ [',']) ++ rest) =
      read ⟨[], fields ++ values.map guarded, .plain []⟩ rest := by
  induction values generalizing fields with
  | nil => rw [List.flatMap_nil, List.nil_append, List.map_nil, List.append_nil]
  | cons value values ih =>
      obtain ⟨mode, hmode, hread⟩ := read_cell (hquoted value List.mem_cons_self) [] fields
        (',' :: (values.flatMap (fun value => csvCell (.text value) ++ [',']) ++ rest))
      have hcomma : read ⟨[], fields, mode⟩ (',' :: (values.flatMap (fun value => csvCell (.text value) ++ [',']) ++ rest)) =
          read ⟨[], fields ++ [guarded value], .plain []⟩ (values.flatMap (fun value => csvCell (.text value) ++ [',']) ++ rest) := by
        rcases hmode with rfl | rfl <;> rfl
      rw [List.flatMap_cons, List.append_assoc, List.append_assoc, List.singleton_append, hread, hcomma,
        ih (fun other hother => hquoted other (List.mem_cons_of_mem value hother)), List.map_cons,
        List.append_assoc, List.singleton_append]

theorem csvRow_append (pre : List Text) (value : Text) (post : List Text) :
    ∃ rest, csvRow (pre ++ value :: post) =
        pre.flatMap (fun value => csvCell (.text value) ++ [',']) ++ (csvCell (.text value) ++ rest) ∧
      (post = [] → rest = []) := by
  induction pre with
  | nil =>
      cases post with
      | nil => exact ⟨[], by simp [csvRow, List.intercalate], fun _ => rfl⟩
      | cons next post => exact ⟨',' :: csvRow (next :: post), by simp [csvRow, List.intercalate], nofun⟩
  | cons first pre ih =>
      obtain ⟨rest, hrow, hnil⟩ := ih
      refine ⟨rest, ?_, hnil⟩
      have hfirst : csvRow (first :: (pre ++ value :: post)) =
          csvCell (.text first) ++ [','] ++ csvRow (pre ++ value :: post) := by
        cases pre with
        | nil => simp [csvRow, List.intercalate]
        | cons other pre => simp [csvRow, List.intercalate]
      simp only [List.cons_append, hfirst, hrow, List.flatMap_cons, List.append_assoc]

theorem parse_row (hne : values ≠ []) (hquoted : ∀ value ∈ values, Quoted value) :
    parse (csvRow values) = some [values.map guarded] := by
  obtain ⟨pre, value, rfl⟩ := (List.eq_nil_or_concat' values).resolve_left hne
  have hpre : ∀ other ∈ pre, Quoted other := fun other hother => hquoted other (List.mem_append_left _ hother)
  obtain ⟨rest, hrow, hnil⟩ := csvRow_append pre value []
  obtain ⟨mode, hmode, hread⟩ := read_cell (hquoted value (List.mem_append_right _ List.mem_cons_self)) []
    (pre.map guarded) []
  have hend : read ⟨[], pre.map guarded, mode⟩ [] = some [pre.map guarded ++ [guarded value]] := by
    rcases hmode with rfl | rfl <;> rfl
  have hparse : parse (csvRow (pre ++ [value])) =
      read ⟨[], [] ++ pre.map guarded, .plain []⟩ (csvCell (.text value) ++ rest) := by
    rw [hrow]
    exact read_cells hpre [] _
  rw [hparse, List.nil_append, hnil rfl, hread, hend, List.map_append, List.map_singleton]

theorem decodes_of_quoted (hne : values ≠ []) (hquoted : ∀ value ∈ values, Quoted value) :
    Decodes values := by
  refine ⟨values.map guarded, parse_row hne hquoted, ?_, ?_⟩
  · exact List.forall₂_map_right_iff.mpr (List.forall₂_same.mpr fun value _ => guarded_cases value)
  · intro field hfield
    obtain ⟨value, -, rfl⟩ := List.mem_map.mp hfield
    exact isFormula_guarded value

theorem first_unquoted (hnot : ¬ ∀ value ∈ values, Quoted value) :
    ∃ pre value post, values = pre ++ value :: post ∧ (∀ other ∈ pre, Quoted other) ∧ ¬ Quoted value := by
  induction values with
  | nil => exact absurd nofun hnot
  | cons first values ih =>
      by_cases hfirst : Quoted first
      · obtain ⟨pre, value, post, rfl, hpre, hvalue⟩ := ih fun hall => hnot (List.forall_mem_cons.mpr ⟨hfirst, hall⟩)
        exact ⟨first :: pre, value, post, rfl, List.forall_mem_cons.mpr ⟨hfirst, hpre⟩, hvalue⟩
      · exact ⟨[], first, values, rfl, nofun, hfirst⟩

/-- **A row reads back exactly if each of its values with a CR is quoted for another character.** -/
theorem decodes_iff {values : List Text} (hne : values ≠ []) :
    Decodes values ↔ ∀ value ∈ values, '\r' ∈ value → value.any structural = true := by
  refine ⟨fun ⟨record, hparse, hfields, _⟩ => by_contra fun hnot => ?_, decodes_of_quoted hne⟩
  obtain ⟨pre, value, post, rfl, hpre, hvalue⟩ := first_unquoted hnot
  obtain ⟨hcr, hany⟩ := Classical.not_imp.mp hvalue
  obtain ⟨before, after, hcut, hbefore⟩ := List.eq_append_cons_of_mem ((mem_guarded value).mpr hcr)
  have hcell : csvCell (.text value) = before ++ '\r' :: after := by
    rw [csvCell, encode, Value.raw, any_guarded, if_neg hany, hcut]
  obtain ⟨rest, hrow, -⟩ := csvRow_append pre value post
  have hread : parse (csvRow (pre ++ value :: post)) =
      read ⟨[], [] ++ pre.map guarded, .plain []⟩ (before ++ '\r' :: (after ++ rest)) := by
    rw [hrow, hcell, List.append_assoc, List.cons_append]
    exact read_cells hpre [] _
  -- the record ends inside the value, so its last field is the value's beginning and has no CR
  have hrecord : record = pre.map guarded ++ [before] := by
    refine read_cut (fun c hc => ⟨?_, ?_⟩) ((hread.symm.trans hparse).trans rfl)
    · refine Bool.eq_false_iff.mpr fun hs => hany ?_
      rw [← any_guarded, hcut]
      exact List.any_eq_true.mpr ⟨c, List.mem_append_left _ hc, hs⟩
    · rintro rfl
      exact hbefore hc
  rw [hrecord] at hfields
  have hlast := List.forall₂_drop_append _ _ _ hfields
  rw [List.length_map, List.drop_left] at hlast
  obtain ⟨hfield, -⟩ := List.forall₂_cons.mp hlast
  rcases hfield with rfl | rfl
  · exact hbefore hcr
  · exact hbefore (List.mem_cons_of_mem _ hcr)

theorem decodes_ok : Decodes ["=1".toList, "a,\r\"b\"".toList] :=
  (decodes_iff (List.cons_ne_nil _ _)).mpr (by decide)

theorem not_decodes_cr : ¬ ∀ values : List Text, values ≠ [] → Decodes values := by
  intro hall
  obtain ⟨record, hparse, -⟩ := hall ["a\rb".toList] (List.cons_ne_nil _ _)
  have htwo : parse (csvRow ["a\rb".toList]) = some [[['a']], [['b']]] := by decide
  rw [htwo] at hparse
  cases hparse

end ProxVM.Exports
