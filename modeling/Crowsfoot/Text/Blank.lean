/-!
# Blanks

White space in the full Unicode sense, and the two operations on texts that
depend on it: removing it at both ends, and cutting a text into words.
-/

namespace Crowsfoot.Text

/-- White space: the ASCII layout characters and separators, the next-line
character, and the space, line and paragraph separators of Unicode. -/
def isBlank (c : Char) : Bool :=
  let code := c.toNat
  (0x09 ≤ code && code ≤ 0x0D) || (0x1C ≤ code && code ≤ 0x20) ||
    code == 0x85 || code == 0xA0 || code == 0x1680 ||
    (0x2000 ≤ code && code ≤ 0x200A) || code == 0x2028 || code == 0x2029 ||
    code == 0x202F || code == 0x205F || code == 0x3000

/-- Remove the longest final part whose characters all satisfy `drops`. -/
def trimEnd (drops : Char → Bool) (text : List Char) : List Char :=
  (text.reverse.dropWhile drops).reverse

/-- Remove such characters at both ends. -/
def trim (drops : Char → Bool) (text : List Char) : List Char :=
  trimEnd drops (text.dropWhile drops)

/-- Remove the blanks at both ends. -/
def strip (text : List Char) : List Char :=
  trim isBlank text

/-- Remove the blanks at both ends of a string. -/
def stripped (text : String) : String :=
  String.ofList (strip text.toList)

@[simp]
theorem strip_nil : strip [] = [] :=
  rfl

/-- The first word of a text and what follows it.  The word is empty only
where the text is blank. -/
def splitWord (text : List Char) : List Char × List Char :=
  let start := text.dropWhile isBlank
  (start.takeWhile (!isBlank ·), start.dropWhile (!isBlank ·))

/-- The first word of a text. -/
def firstWord (text : List Char) : List Char :=
  (splitWord text).1

/-- Remove every blank. -/
def removeBlanks (text : List Char) : List Char :=
  text.filter (!isBlank ·)

end Crowsfoot.Text
