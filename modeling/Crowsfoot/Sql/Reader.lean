import Crowsfoot.Sql.Comment
import Crowsfoot.Sql.Definition
import Crowsfoot.Sql.Nesting

/-!
# Reading SQL

A text of SQL declares a table with every `CREATE TABLE` and an enum with
every `CREATE TYPE … AS ENUM`; all other statements are passed over.
-/

namespace Crowsfoot

open Crowsfoot.Text

namespace Sql

/-- An enum statement: the name of the enum and the text of its values. -/
def enumStatement? (text : List Char) : Option ((List Char × List Char) × List Char) := do
  let rest ← keywords? ["create", "type"] text
  let rest ← blanks? rest
  let (name, rest) ← qualifiedName? rest
  let rest ← blanks? rest
  let rest ← keywords? ["as", "enum"] rest
  let (values, rest) ← parenthesizedList? rest
  pure ((name, values), rest)

/-- The values of an enum, without their quotes. -/
def enumValues (values : List Char) : List (List Char) :=
  (definitions values).map fun value => trim (· == '\x27') (strip value)

/-- The enum of an enum statement. -/
def enumerationOf (name values : List Char) : Enumeration where
  name := String.ofList (unqualified name)
  values := (enumValues values).map String.ofList

/-- Keywords and the blanks after them. -/
def spacedKeywords? (words : List String) (text : List Char) : Option (List Char) := do
  let rest ← keywords? words text
  blanks? rest

/-- The text after the first of several groups of keywords that it begins
with, or the whole text if it begins with none. -/
def skipKeywords : List (List String) → List Char → List Char
  | [], text => text
  | words :: others, text =>
      match spacedKeywords? words text with
      | some rest => rest
      | none => skipKeywords others text

/-- The beginning of a table statement up to and with the parenthesis that
opens its body. -/
def tableStatement? (text : List Char) : Option (List Char × List Char) := do
  let rest ← keyword? "create" text
  let rest ← blanks? rest
  let rest := skipKeywords [["temporary"], ["temp"]] rest
  let rest ← keyword? "table" rest
  let rest ← blanks? rest
  let (name, rest) ← qualifiedName? (skipKeywords [["if", "not", "exists"]] rest)
  match skipBlanks rest with
  | '(' :: body => pure (name, body)
  | _ => none

/-- The table with a given name and body. -/
def tableOf (name body : List Char) : Table :=
  let read := (definitions body).map Definition.read
  { name := String.ofList name
    columns := read.filterMap Definition.column?
    foreignKeys := read.filterMap Definition.key? }

/-! ## Progress -/

theorem length_nameParts_le (text : List Char) :
    (nameParts text).2.length ≤ text.length := by
  fun_induction nameParts text with
  | case1 => exact Nat.le_refl _
  | case2 text part after found parts rest read ih =>
      rw [read] at ih
      exact Nat.le_trans ih (Nat.le_of_lt (length_of_namePart? found))

theorem length_of_qualifiedName? {text name rest : List Char}
    (matched : qualifiedName? text = some (name, rest)) :
    rest.length ≤ text.length := by
  have shorter := length_nameParts_le text
  simp only [qualifiedName?] at matched
  split at matched
  · simp at matched
  · simp only [Option.some.injEq] at matched
    rw [matched] at shorter
    exact shorter

theorem length_of_parenthesizedList? {text inside rest : List Char}
    (matched : parenthesizedList? text = some (inside, rest)) :
    rest.length < text.length := by
  have skipped : (skipBlanks text).length ≤ text.length := length_dropWhile_le _ _
  simp only [parenthesizedList?] at matched
  split at matched
  · rename_i opened
    rw [opened, List.length_cons] at skipped
    exact Nat.lt_trans (length_of_upTo? matched) skipped
  · simp at matched

theorem length_of_enumStatement? {text rest : List Char} {parts : List Char × List Char}
    (matched : enumStatement? text = some (parts, rest)) :
    rest.length < text.length := by
  simp only [enumStatement?, Option.bind_eq_bind, Option.bind_eq_some_iff, Option.pure_def,
    Option.some.injEq, Prod.mk.injEq] at matched
  obtain ⟨afterCreate, create, beforeName, first, ⟨name, afterName⟩, named, beforeAs, second,
    afterEnum, asEnum, ⟨values, after⟩, listed, -, rfl⟩ := matched
  calc after.length
    _ < afterEnum.length := length_of_parenthesizedList? listed
    _ ≤ beforeAs.length := length_of_keywords? asEnum
    _ ≤ afterName.length := length_of_blanks? second
    _ ≤ beforeName.length := length_of_qualifiedName? named
    _ ≤ afterCreate.length := length_of_blanks? first
    _ ≤ text.length := length_of_keywords? create

theorem length_skipKeywords_le (groups : List (List String)) (text : List Char) :
    (skipKeywords groups text).length ≤ text.length := by
  induction groups with
  | nil => exact Nat.le_refl _
  | cons words others ih =>
      simp only [skipKeywords]
      split
      · rename_i matched
        simp only [spacedKeywords?, Option.bind_eq_bind, Option.bind_eq_some_iff] at matched
        obtain ⟨afterWords, wordsMatched, blanksMatched⟩ := matched
        exact Nat.le_trans (length_of_blanks? blanksMatched) (length_of_keywords? wordsMatched)
      · exact ih

theorem length_of_tableStatement? {text name body : List Char}
    (matched : tableStatement? text = some (name, body)) :
    body.length < text.length := by
  simp only [tableStatement?, Option.bind_eq_bind, Option.bind_eq_some_iff] at matched
  obtain ⟨afterCreate, create, afterBlanks, first, afterTable, table, beforeName, second,
    ⟨found, afterName⟩, qualified, opening⟩ := matched
  have shorter : afterName.length ≤ text.length :=
    calc afterName.length
      _ ≤ (skipKeywords _ beforeName).length := length_of_qualifiedName? qualified
      _ ≤ beforeName.length := length_skipKeywords_le _ _
      _ ≤ afterTable.length := length_of_blanks? second
      _ ≤ (skipKeywords _ afterBlanks).length := length_of_letters? table
      _ ≤ afterBlanks.length := length_skipKeywords_le _ _
      _ ≤ afterCreate.length := length_of_blanks? first
      _ ≤ text.length := length_of_letters? create
  have skipped : (skipBlanks afterName).length ≤ afterName.length := length_dropWhile_le _ _
  split at opening
  · rename_i opened
    simp only [Option.pure_def, Option.some.injEq, Prod.mk.injEq] at opening
    obtain ⟨-, rfl⟩ := opening
    rw [opened, List.length_cons] at skipped
    exact Nat.lt_of_lt_of_le skipped shorter
  · simp at opening

/-- The enums of a text in order. -/
def enumerations (text : List Char) : List Enumeration :=
  match _ : find? enumStatement? text with
  | none => []
  | some ((name, values), after) => enumerationOf name values :: enumerations after
termination_by text.length
decreasing_by exact length_of_find? length_of_enumStatement? ‹_›

/-- The tables of a text in order.  A body that is not closed is an error. -/
def tables (text : List Char) : Except SourceError (List Table) :=
  match _ : find? tableStatement? text with
  | none => .ok []
  | some (qualified, opened) =>
      let name := unqualified qualified
      match _ : splitBody false 0 opened with
      | none => .error (.openTable (String.ofList name))
      | some (body, after) =>
          match tables after with
          | .ok later => .ok (tableOf name body :: later)
          | .error cause => .error cause
termination_by text.length
decreasing_by
  exact Nat.lt_trans (length_of_splitBody ‹_›)
    (length_of_find? length_of_tableStatement? ‹find? tableStatement? _ = _›)

end Sql

/-- Read a text of SQL. -/
def Document.ofSql (text : String) : Except SourceError Document :=
  let bare := Sql.stripComments text.toList
  match Sql.tables bare with
  | .ok tables =>
      .ok { format := SourceFormat.sql.name, tables := tables, enums := Sql.enumerations bare }
  | .error cause => .error cause

end Crowsfoot
