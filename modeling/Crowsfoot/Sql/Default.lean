import Crowsfoot.Text.Scan

/-!
# Default clauses of SQL

The value after the word `default`: a string in single or double quotes, a
parenthesised expression, a function call, or anything up to a blank or a
comma.  The first form that fits is taken.  A word `default` without a value
is passed over.
-/

namespace Crowsfoot.Sql

open Crowsfoot.Text

/-- The longest string literal after its opening quote: up to a quote that is
followed by no quote where the rest allows it, else up to the last quote that
leaves an even number of them inside. -/
def singleQuoted? : List Char → Option (List Char)
  | [] => none
  | '\x27' :: '\x27' :: rest =>
      match singleQuoted? rest with
      | some literal => some ('\x27' :: '\x27' :: literal)
      | none => some ['\x27']
  | c :: rest => if c == '\x27' then some [c] else (singleQuoted? rest).map (c :: ·)

/-- A string in double quotes, after its opening quote. -/
def doubleQuoted? (text : List Char) : Option (List Char) :=
  (upTo? '\x22' text).map fun (inside, _) => inside ++ ['\x22']

/-- Parentheses without parentheses inside, after the opening one. -/
def flatParens? : List Char → Option (List Char × List Char)
  | [] => none
  | c :: rest =>
      if c == ')' then some ([c], rest)
      else if c == '(' then none
      else (flatParens? rest).map fun (inside, after) => (c :: inside, after)

/-- What follows flat parentheses is shorter than what they begin. -/
theorem length_of_flatParens? {text inside after : List Char}
    (found : flatParens? text = some (inside, after)) :
    after.length < text.length := by
  induction text generalizing inside with
  | nil => simp [flatParens?] at found
  | cons c rest ih =>
      simp only [flatParens?] at found
      split at found
      · simp only [Option.some.injEq, Prod.mk.injEq] at found
        exact found.2 ▸ Nat.lt_succ_self _
      · split at found
        · simp at found
        · simp only [Option.map_eq_some_iff, Prod.mk.injEq] at found
          obtain ⟨⟨inner, later⟩, deeper, -, rfl⟩ := found
          exact Nat.lt_succ_of_lt (ih deeper)

/-- A parenthesised expression after its opening parenthesis.  It may hold
strings in single quotes and one more level of parentheses. -/
def parenthesized? : List Char → Option (List Char)
  | [] => none
  | c :: rest =>
      if c == ')' then some [c]
      else if c == '\x27' then
        match _ : upTo? '\x27' rest with
        | some (inside, after) =>
            (parenthesized? after).map fun later => c :: (inside ++ '\x27' :: later)
        | none => none
      else if c == '(' then
        match _ : flatParens? rest with
        | some (inside, after) =>
            (parenthesized? after).map fun later => c :: (inside ++ later)
        | none => none
      else (parenthesized? rest).map (c :: ·)
termination_by text => text.length
decreasing_by
  · have := length_of_upTo? ‹_›
    simp only [List.length_cons]
    omega
  · have := length_of_flatParens? ‹_›
    simp only [List.length_cons]
    omega
  · simp

/-- A function call: a dotted name and parentheses. -/
def call? (text : List Char) : Option (List Char) := do
  let (name, rest) ← run? (fun c => isWord c || c == '.') text
  let blanks := rest.takeWhile isBlank
  match skipBlanks rest with
  | '(' :: arguments =>
      let (inside, _) ← upTo? ')' arguments
      pure (name ++ blanks ++ '(' :: (inside ++ [')']))
  | _ => none

/-- Anything up to a blank or a comma. -/
def plainValue? (text : List Char) : Option (List Char) :=
  (run? (fun c => !isBlank c && c != ',') text).map Prod.fst

/-- The value at the beginning of a text that does not begin with a blank. -/
def value? (text : List Char) : Option (List Char) :=
  let delimited : Option (List Char) := match text with
    | '\x27' :: rest => (singleQuoted? rest).map ('\x27' :: ·)
    | '\x22' :: rest => (doubleQuoted? rest).map ('\x22' :: ·)
    | '(' :: rest => (parenthesized? rest).map ('(' :: ·)
    | _ => none
  match delimited with
  | some found => some found
  | none =>
      match call? text with
      | some found => some found
      | none => plainValue? text

/-- A default clause at the beginning of a text. -/
def defaultClause? (text : List Char) : Option (List Char) := do
  let rest ← keyword? "default" text
  let rest ← blanks? rest
  value? rest

/-- The value of the first default clause among the constraints of a
column. -/
def defaultValue? (constraints : List Char) : Option (List Char) :=
  (find? defaultClause? constraints).map strip

end Crowsfoot.Sql
