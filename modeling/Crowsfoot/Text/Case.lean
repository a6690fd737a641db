import Crowsfoot.Text.Case.Table

/-!
# Letter case

Full case conversion of texts.  Lowering maps character by character except
for the capital sigma, which becomes a final sigma at the end of a word: a
cased letter stands before it and none after it, where case-ignorable
characters are passed over on both sides.
-/

namespace Crowsfoot.Text

/-- A character that has letter case. -/
def isCased (c : Char) : Bool :=
  if c.toNat < 128 then c.isAlpha else casedRanges.contains c.toNat

/-- A character that does not separate a capital sigma from its word. -/
def isCaseIgnorable (c : Char) : Bool :=
  caseIgnorableRanges.contains c.toNat

/-- The lower case of a character outside any context. -/
def lowerChar (c : Char) : List Char :=
  if c.toNat < 128 then [c.toLower]
  else if c == 'İ' then ['i', '\u0307']
  else [Char.ofNat ((lowerRuns.image? c.toNat).getD c.toNat)]

/-- Whether the next character that is not case-ignorable is a letter with
case. -/
def casedFollows : List Char → Bool
  | [] => false
  | c :: rest => if isCaseIgnorable c then casedFollows rest else isCased c

/-- Lower a text of which `casedBefore` tells whether the last character
before it that is not case-ignorable has case. -/
def lowerFrom (casedBefore : Bool) : List Char → List Char
  | [] => []
  | c :: rest =>
      let casedHere := if isCaseIgnorable c then casedBefore else isCased c
      if c == 'Σ' then
        (if casedBefore && !casedFollows rest then 'ς' else 'σ') :: lowerFrom casedHere rest
      else
        lowerChar c ++ lowerFrom casedHere rest

/-- The lower case of a text. -/
def lowerChars (text : List Char) : List Char :=
  lowerFrom false text

/-- The lower case of a string. -/
def lower (text : String) : String :=
  String.ofList (lowerChars text.toList)

/-- The upper case of a character. -/
def upperChar (c : Char) : List Char :=
  if c.toNat < 128 then [c.toUpper]
  else match upperExpansions.lookup c.toNat with
    | some codes => codes.map Char.ofNat
    | none => [Char.ofNat ((upperRuns.image? c.toNat).getD c.toNat)]

/-- The upper case of a text. -/
def upperChars (text : List Char) : List Char :=
  text.flatMap upperChar

/-- The upper case of a string. -/
def upper (text : String) : String :=
  String.ofList (upperChars text.toList)

/-- Whether a character is the small ASCII letter `letter` when letter case
is disregarded.  Four letters have partners beyond ASCII: the dotted capital
and the dotless small i, the Kelvin sign and the long s. -/
def isLetter (letter c : Char) : Bool :=
  c == letter || c == letter.toUpper ||
    (letter == 'i' && (c == 'İ' || c == 'ı')) ||
    (letter == 'k' && c == '\u212A') ||
    (letter == 's' && c == 'ſ')

end Crowsfoot.Text
