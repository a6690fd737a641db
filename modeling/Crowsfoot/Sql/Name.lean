import Crowsfoot.Text.Scan
import Crowsfoot.Text.Split

/-!
# Names of SQL

Names may be quoted, and they may be qualified by a schema.  Only the last
part of a qualified name counts, without its quotes.
-/

namespace Crowsfoot.Sql

open Crowsfoot.Text

/-- The three quotation marks of names. -/
def isQuote (c : Char) : Bool :=
  c == '\x22' || c == '\x27' || c == '\x60'

/-- The last of the pieces of a text. -/
def lastPiece (isSeparator : Char → Bool) (text : List Char) : List Char :=
  (pieces isSeparator text).getLastD []

/-- The name that a possibly quoted and qualified name ends in. -/
def unqualified (name : List Char) : List Char :=
  lastPiece (· == '.') ((strip name).filter (!isQuote ·))

/-- The names between commas; blank ones do not count. -/
def nameList (text : List Char) : List (List Char) :=
  ((pieces (· == ',') text).filter fun piece => !(strip piece).isEmpty).map unqualified

/-- A quoted part of a name, nonempty between two equal marks. -/
def quotedPart? (mark : Char) (text : List Char) : Option (List Char × List Char) :=
  match text with
  | [] => none
  | c :: rest =>
      if c != mark then none
      else do
        let (inside, after) ← upTo? mark rest
        if inside.isEmpty then none else pure (c :: (inside ++ [mark]), after)

theorem length_of_quotedPart? {mark : Char} {text part after : List Char}
    (found : quotedPart? mark text = some (part, after)) :
    after.length < text.length := by
  cases text with
  | nil => simp [quotedPart?] at found
  | cons c rest =>
      simp only [quotedPart?] at found
      split at found
      · simp at found
      · simp only [Option.bind_eq_bind, Option.bind_eq_some_iff] at found
        obtain ⟨⟨inside, later⟩, closed, kept⟩ := found
        split at kept
        · simp at kept
        · simp only [Option.pure_def, Option.some.injEq, Prod.mk.injEq] at kept
          obtain ⟨-, rfl⟩ := kept
          exact Nat.lt_succ_of_lt (length_of_upTo? closed)

/-- One part of a qualified name: quoted, or a character of a bare part. -/
def namePart? (text : List Char) : Option (List Char × List Char) :=
  match quotedPart? '\x22' text with
  | some found => some found
  | none =>
      match quotedPart? '\x60' text with
      | some found => some found
      | none =>
          match text with
          | [] => none
          | c :: rest => if isWord c || c == '.' then some ([c], rest) else none

theorem length_of_namePart? {text part after : List Char}
    (found : namePart? text = some (part, after)) :
    after.length < text.length := by
  simp only [namePart?] at found
  split at found
  · rename_i quoted
    simp only [Option.some.injEq] at found
    exact length_of_quotedPart? (found ▸ quoted)
  · split at found
    · rename_i quoted
      simp only [Option.some.injEq] at found
      exact length_of_quotedPart? (found ▸ quoted)
    · split at found
      · simp at found
      · split at found
        · simp only [Option.some.injEq, Prod.mk.injEq] at found
          exact found.2 ▸ Nat.lt_succ_self _
        · simp at found

/-- The longest beginning of a text that is made of parts of names. -/
def nameParts (text : List Char) : List Char × List Char :=
  match _ : namePart? text with
  | none => ([], text)
  | some (part, after) =>
      let (parts, rest) := nameParts after
      (part ++ parts, rest)
termination_by text.length
decreasing_by exact length_of_namePart? ‹_›

/-- A possibly quoted and qualified name. -/
def qualifiedName? (text : List Char) : Option (List Char × List Char) :=
  match nameParts text with
  | ([], _) => none
  | found => some found

end Crowsfoot.Sql
