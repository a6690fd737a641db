import Crowsfoot.SourceError
import Crowsfoot.Text.Blank

/-!
# Parentheses and quotes of SQL

Finding the end of a table body, and cutting a body into its definitions at
the commas that stand outside parentheses and quotes.
-/

namespace Crowsfoot.Sql

open Crowsfoot.Text

/-- The text up to the parenthesis that closes a body, and the text after it.
Single quotes hide parentheses; `depth` counts those opened inside. -/
def splitBody (quoted : Bool) (depth : Nat) : List Char → Option (List Char × List Char)
  | [] => none
  | c :: rest =>
      let continued (quoted : Bool) (depth : Nat) : Option (List Char × List Char) :=
        (splitBody quoted depth rest).map fun (body, after) => (c :: body, after)
      if c == '\x27' then continued (!quoted) depth
      else if quoted then continued quoted depth
      else if c == '(' then continued quoted (depth + 1)
      else if c == ')' then
        match depth with
        | 0 => some ([], rest)
        | outer + 1 => continued quoted outer
      else continued quoted depth

/-- A body is followed by less text than it begins. -/
theorem length_of_splitBody {quoted : Bool} {depth : Nat} {text body after : List Char}
    (closed : splitBody quoted depth text = some (body, after)) :
    after.length < text.length := by
  induction text generalizing quoted depth body with
  | nil => simp [splitBody] at closed
  | cons c rest ih =>
      have further {quoted : Bool} {depth : Nat} {body : List Char}
          (continued : (splitBody quoted depth rest).map
            (fun (body, after) => (c :: body, after)) = some (body, after)) :
          after.length < (c :: rest).length := by
        simp only [Option.map_eq_some_iff, Prod.mk.injEq] at continued
        obtain ⟨⟨inner, later⟩, found, -, rfl⟩ := continued
        exact Nat.lt_succ_of_lt (ih found)
      simp only [splitBody] at closed
      repeat' split at closed
      all_goals first
        | exact further closed
        | simp only [Option.some.injEq, Prod.mk.injEq] at closed
          exact closed.2 ▸ Nat.lt_succ_self _

/-- Where the cut of a body into definitions stands: in single quotes, in
double quotes, or outside, at a depth of parentheses that is negative where
more were closed than opened. -/
structure Nesting where
  inSingle : Bool
  inDouble : Bool
  depth : Int
  deriving DecidableEq

/-- Outside of everything. -/
def Nesting.top : Nesting := ⟨false, false, 0⟩

/-- The nesting after a character. -/
def Nesting.next (nesting : Nesting) (c : Char) : Nesting :=
  if c == '\x27' && !nesting.inDouble then { nesting with inSingle := !nesting.inSingle }
  else if c == '\x22' && !nesting.inSingle then { nesting with inDouble := !nesting.inDouble }
  else if nesting.inSingle || nesting.inDouble then nesting
  else if c == '(' then { nesting with depth := nesting.depth + 1 }
  else if c == ')' then { nesting with depth := nesting.depth - 1 }
  else nesting

/-- Whether a character separates two definitions. -/
def Nesting.separates (nesting : Nesting) (c : Char) : Bool :=
  c == ',' && !nesting.inSingle && !nesting.inDouble && nesting.depth == 0

/-- The pieces of a body between its separating commas. -/
def topLevelPieces (nesting : Nesting) : List Char → List (List Char)
  | [] => [[]]
  | c :: rest =>
      if nesting.separates c then [] :: topLevelPieces nesting rest
      else match topLevelPieces (nesting.next c) rest with
        | [] => [[c]]
        | piece :: later => (c :: piece) :: later

/-- The definitions of a body, without blank ones. -/
def definitions (body : List Char) : List (List Char) :=
  ((topLevelPieces .top body).map strip).filter (!·.isEmpty)

end Crowsfoot.Sql
