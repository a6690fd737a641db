/-!
# Names of Hangul syllables

A Hangul syllable is named by the letters it is made of: an initial consonant,
which may be silent, a vowel, and perhaps a final consonant.  The syllables
stand in the order of their letters.
-/

namespace Crowsfoot.Text

def hangulInitials : List String :=
  ["G", "GG", "N", "D", "DD", "R", "M", "B", "BB", "S", "SS", "", "J", "JJ", "C", "K", "T",
    "P", "H"]

def hangulVowels : List String :=
  ["A", "AE", "YA", "YAE", "EO", "E", "YEO", "YE", "O", "WA", "WAE", "OE", "YO", "U", "WEO",
    "WE", "WI", "YU", "EU", "YI", "I"]

def hangulFinals : List String :=
  ["", "G", "GG", "GS", "N", "NJ", "NH", "D", "L", "LG", "LM", "LB", "LS", "LT", "LP", "LH",
    "M", "B", "BS", "S", "SS", "NG", "J", "C", "K", "T", "P", "H"]

/-- The names of all syllables, in their order. -/
def hangulSyllables : List String :=
  hangulInitials.flatMap fun initial =>
    hangulVowels.flatMap fun vowel =>
      hangulFinals.map fun final => initial ++ vowel ++ final

/-- The code point of a syllable by its letters. -/
def hangulSyllable? (letters : String) : Option Nat :=
  (hangulSyllables.findIdx? (· == letters)).map (0xAC00 + ·)

end Crowsfoot.Text
