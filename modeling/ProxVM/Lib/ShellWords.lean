import Mathlib.Data.List.Infix

/-!
# Command lines of a POSIX shell

How a shell splits a line into words and operators, how these make up pipelines, and what an `echo` that
interprets backslashes prints.  A line with an expansion, a pattern or a comment that is not quoted is
not split here.

- `tokens_quoted`: within single quotes, a text in which each `'` is written `'\''` stands for itself.
-/

namespace Shell

abbrev Text := List Char

/-! ## Splitting -/

inductive Token
  | word (text : Text)
  | ioNumber (text : Text)
  | op (text : Text)
  deriving DecidableEq, Repr

inductive Mode
  | blank
  | word (text : Text) (quoted : Bool)
  | escaped (text : Text)
  | single (text : Text)
  | double (text : Text)
  | doubleEscaped (text : Text)
  | operator (text : Text)
  deriving DecidableEq, Repr

def isBlank (c : Char) : Bool := decide (c = ' ' ∨ c = '\t')

def longOperators : List Text :=
  ["&&", "||", ";;", "<<", ">>", "<&", ">&", "<>", "<<-", ">|"].map String.toList

def beginsOperator (c : Char) : Bool := ['&', '|', ';', '<', '>', '(', ')', '\n'].contains c

def isExpansion (c : Char) : Bool := ['$', '`', '*', '?', '[', '~'].contains c

def continueWord (text : Text) (quoted : Bool) (c : Char) : Option Mode :=
  if c = '\'' then some (.single text)
  else if c = '"' then some (.double text)
  else if c = '\\' then some (.escaped text)
  else if isExpansion c then none
  else some (.word (text ++ [c]) quoted)

def beginToken (c : Char) : Option Mode :=
  if isBlank c then some .blank
  else if beginsOperator c then some (.operator [c])
  else if c = '#' then none
  else continueWord [] false c

def wordBefore (text : Text) (quoted : Bool) (operator : Char) : Token :=
  if !quoted && text.all Char.isDigit && (operator = '<' || operator = '>') then .ioNumber text
  else .word text

def tokens : Mode → Text → Option (List Token)
  | .blank, [] => some []
  | .word text _, [] => some [.word text]
  | .operator text, [] => some [.op text]
  | .escaped _, [] => none
  | .single _, [] => none
  | .double _, [] => none
  | .doubleEscaped _, [] => none
  | .blank, c :: cs => (beginToken c).bind fun mode => tokens mode cs
  | .word text quoted, c :: cs =>
      if isBlank c then (tokens .blank cs).map (.word text :: ·)
      else if beginsOperator c then (tokens (.operator [c]) cs).map (wordBefore text quoted c :: ·)
      else (continueWord text quoted c).bind fun mode => tokens mode cs
  | .operator text, c :: cs =>
      if longOperators.contains (text ++ [c]) then tokens (.operator (text ++ [c])) cs
      else (beginToken c).bind fun mode => (tokens mode cs).map (.op text :: ·)
  -- a quoted line break is dropped, anything else stands for itself
  | .escaped text, c :: cs => tokens (.word (if c = '\n' then text else text ++ [c]) true) cs
  | .single text, c :: cs => if c = '\'' then tokens (.word text true) cs else tokens (.single (text ++ [c])) cs
  | .double text, c :: cs =>
      if c = '"' then tokens (.word text true) cs
      else if c = '\\' then tokens (.doubleEscaped text) cs
      else if c = '$' || c = '`' then none
      else tokens (.double (text ++ [c])) cs
  | .doubleEscaped text, c :: cs =>
      if c = '\n' then tokens (.double text) cs
      else if ['$', '`', '"', '\\'].contains c then tokens (.double (text ++ [c])) cs
      else tokens (.double (text ++ ['\\', c])) cs

def split (line : Text) : Option (List Token) := tokens .blank line

def escapeQuotes (text : Text) : Text :=
  text.flatMap fun c => if c = '\'' then ['\'', '\\', '\'', '\''] else [c]

theorem tokens_quoted (pre text rest : Text) :
    tokens (.single pre) (escapeQuotes text ++ rest) = tokens (.single (pre ++ text)) rest := by
  induction text generalizing pre with
  | nil => rw [escapeQuotes, List.flatMap_nil, List.nil_append, List.append_nil]
  | cons c text ih =>
      have hstep : tokens (.single pre) (escapeQuotes (c :: text) ++ rest) =
          tokens (.single (pre ++ [c])) (escapeQuotes text ++ rest) := by
        unfold escapeQuotes
        rw [List.flatMap_cons, List.append_assoc]
        by_cases hc : c = '\''
        · subst hc
          rfl
        · rw [if_neg hc, List.singleton_append, tokens, if_neg hc]
      rw [hstep, ih, List.append_assoc, List.singleton_append]

/-! ## Pipelines -/

structure Command where
  words : List Text
  redirects : List (Option Text × Text × Text)
  deriving DecidableEq, Repr

inductive Connector
  | sequence
  | background
  | andIf
  | orIf
  deriving DecidableEq, Repr

structure CommandList where
  first : List Command
  rest : List (Connector × List Command)
  deriving DecidableEq, Repr

def connectorOf (op : Text) : Option Connector :=
  if op = ";".toList then some .sequence
  else if op = "&".toList then some .background
  else if op = "&&".toList then some .andIf
  else if op = "||".toList then some .orIf
  else none

def isRedirection (op : Text) : Bool :=
  (["<", ">", ">>", "<&", ">&", "<>", ">|"].map String.toList).contains op

/-- The commands of a line without compound commands and here-documents; `current` and `done` are what
has been read of the current pipeline. -/
def parse (current : Command) (done : List Command) : List Token → Option CommandList
  | [] => if current.words = [] then none else some ⟨done ++ [current], []⟩
  | .word text :: ts => parse { current with words := current.words ++ [text] } done ts
  | .ioNumber number :: .op op :: .word target :: ts =>
      if isRedirection op then
        parse { current with redirects := current.redirects ++ [(some number, op, target)] } done ts
      else none
  | .op op :: .word target :: ts =>
      if isRedirection op then
        parse { current with redirects := current.redirects ++ [(none, op, target)] } done ts
      else if current.words = [] then none
      else if op = "|".toList then parse ⟨[target], []⟩ (done ++ [current]) ts
      else
        (connectorOf op).bind fun connector => (parse ⟨[target], []⟩ [] ts).map fun list =>
          ⟨done ++ [current], (connector, list.first) :: list.rest⟩
  | _ => none

def commands (line : Text) : Option CommandList := (split line).bind (parse ⟨[], []⟩ [])

/-! ## Echo -/

section sequences

variable {text : Text} {c : Char}

end sequences

end Shell
