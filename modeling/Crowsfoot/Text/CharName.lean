import Crowsfoot.Text.CharName.Ancient
import Crowsfoot.Text.CharName.EastAsian
import Crowsfoot.Text.CharName.Eastern
import Crowsfoot.Text.CharName.European
import Crowsfoot.Text.CharName.Further
import Crowsfoot.Text.CharName.Hangul
import Crowsfoot.Text.CharName.Logographic
import Crowsfoot.Text.CharName.Mathematical
import Crowsfoot.Text.CharName.Pictographic
import Crowsfoot.Text.CharName.Syllabic
import Crowsfoot.Text.CharName.Symbols
import Crowsfoot.Text.CharName.Technical
import Crowsfoot.Text.Range

/-!
# Characters by name

The character that a name of the Unicode standard belongs to.  Most names stand
in tables.  A syllable is named by its letters, and an ideograph by its code
point; these names count only in capital letters, the others in any.
-/

namespace Crowsfoot.Text

/-- The value of capital hexadecimal digits. -/
def capitalHex? (digits : List Char) : Option Nat :=
  digits.foldlM (fun value c =>
    if c.isDigit then some (16 * value + (c.toNat - '0'.toNat))
    else if 'A' ≤ c && c ≤ 'F' then some (16 * value + (c.toNat - 'A'.toNat + 10))
    else none) 0

/-- The code points of unified ideographs. -/
def unifiedIdeographRanges : Ranges :=
  [(0x3400, 0x4DBF), (0x4E00, 0x9FFF), (0x20000, 0x2A6DF), (0x2A700, 0x2B738),
    (0x2B740, 0x2B81D), (0x2B820, 0x2CEA1), (0x2CEB0, 0x2EBE0), (0x30000, 0x3134A)]

/-- Names that end in the code point of their character, and the code points
of such characters. -/
def numberedNames : List (String × Ranges) :=
  [("CJK COMPATIBILITY IDEOGRAPH-", [(0xF900, 0xFA6D), (0xFA70, 0xFAD9), (0x2F800, 0x2FA1D)]),
    ("KHITAN SMALL SCRIPT CHARACTER-", [(0x18B00, 0x18CD5)]),
    ("NUSHU CHARACTER-", [(0x1B170, 0x1B2FB)])]

/-- The rest of a text behind its beginning. -/
def behind? (beginning : String) (text : List Char) : Option (List Char) :=
  if beginning.toList.isPrefixOf text then some (text.drop beginning.length) else none

/-- The code point that a name ends in, if it is written without needless
zeros and is in some ranges. -/
def numbered? (name : List Char) (beginning : String) (ranges : Ranges) : Option Nat := do
  let digits ← behind? beginning name
  let code ← capitalHex? digits
  if digits.head? != some '0' && ranges.contains code then pure code else none

/-- The code point of a unified ideograph, in four or five digits. -/
def unifiedIdeograph? (digits : List Char) : Option Nat := do
  let code ← capitalHex? digits
  if (digits.length == 4 || digits.length == 5) && unifiedIdeographRanges.contains code then
    pure code
  else none

/-- The tables of names. -/
def nameTables : List NameRuns :=
  [europeanNames, easternNames, syllabicNames, symbolsNames, technicalNames, eastAsianNames,
    ancientNames, logographicNames, mathematicalNames, pictographicNames]

/-- The code point of a name in capital letters. -/
def listedCode? (name : List Char) : Option Nat :=
  let words := pieces (· == ' ') name
  (furtherNames.lookup (String.ofList name)).or <|
    ((behind? "VS" name).bind fun digits =>
      if !digits.isEmpty && digits.all Char.isDigit && digits.head? != some '0' then
        variationSelector?
          (digits.foldl (fun number c => 10 * number + (c.toNat - '0'.toNat)) 0)
      else none).or <|
    (numberedNames.findSome? fun (beginning, ranges) => numbered? name beginning ranges).or <|
    nameTables.findSome? (·.find? words)

/-- The code point of the character of a name. -/
def charNamed? (name : String) : Option Nat :=
  let text := name.toList
  match behind? "HANGUL SYLLABLE " text, behind? "CJK UNIFIED IDEOGRAPH-" text with
  | some letters, _ => hangulSyllable? (String.ofList letters)
  | none, some digits => unifiedIdeograph? digits
  | none, none => listedCode? (text.map Char.toUpper)

end Crowsfoot.Text
