import Crowsfoot.Text.Blank

/-!
# Cutting texts at separators

A text with `n` separators has `n + 1` pieces, empty ones included.  Lists of
names and lines of a block are cut this way; their pieces are then trimmed,
and blank pieces dropped.
-/

namespace Crowsfoot.Text

/-- The pieces of a text between its separators. -/
def pieces (isSeparator : Char → Bool) : List Char → List (List Char)
  | [] => [[]]
  | c :: rest =>
      if isSeparator c then [] :: pieces isSeparator rest
      else match pieces isSeparator rest with
        | [] => [[c]]
        | piece :: later => (c :: piece) :: later

/-- A text always has a piece. -/
theorem pieces_ne_nil (isSeparator : Char → Bool) (text : List Char) :
    pieces isSeparator text ≠ [] := by
  cases text with
  | nil => simp [pieces]
  | cons c rest =>
      simp only [pieces]
      split
      · simp
      · split <;> simp

/-- The pieces that are not blank, each without the blanks at its ends. -/
def strippedPieces (isSeparator : Char → Bool) (text : List Char) : List (List Char) :=
  ((pieces isSeparator text).map strip).filter (!·.isEmpty)

/-- A character at which a line of a block ends. -/
def isLineBoundary (c : Char) : Bool :=
  let code := c.toNat
  (0x0A ≤ code && code ≤ 0x0D) || (0x1C ≤ code && code ≤ 0x1E) ||
    code == 0x85 || code == 0x2028 || code == 0x2029

/-- The lines of a text that are not blank, each without the blanks at its
ends. -/
def strippedLines (text : List Char) : List (List Char) :=
  strippedPieces isLineBoundary text

/-- Join strings with a separator between neighbours. -/
def joined (separator : String) : List String → String
  | [] => ""
  | [text] => text
  | text :: next :: later => text ++ separator ++ joined separator (next :: later)

end Crowsfoot.Text
