import Crowsfoot.Text.Case

/-!
# Letters without regard to case

Two letters are the same apart from case if they have the same small letter,
or if their small letters have one upper case in common, as the two small
sigmas have.  This module lists, for a character, all characters that are the
same letter.
-/

namespace Crowsfoot.Text

/-- The small letter of a character: the first character of its lower case. -/
def smallLetter (c : Char) : Char :=
  (lowerChar c).headD c

/-- Small letters that differ, and have one upper case. -/
def sharedCapitals : List (List Char) :=
  [['i', 'ı'], ['s', 'ſ'], ['µ', 'μ'], ['\u0345', 'ι', '\u1FBE'], ['\u0390', '\u1FD3'],
    ['\u03B0', '\u1FE3'], ['β', 'ϐ'], ['ε', 'ϵ'], ['θ', 'ϑ'], ['κ', 'ϰ'], ['π', 'ϖ'],
    ['ρ', 'ϱ'], ['ς', 'σ'], ['φ', 'ϕ'], ['в', '\u1C80'], ['д', '\u1C81'], ['о', '\u1C82'],
    ['с', '\u1C83'], ['т', '\u1C84', '\u1C85'], ['ъ', '\u1C86'], ['ѣ', '\u1C87'],
    ['ꙋ', '\u1C88'], ['ṡ', 'ẛ'], ['ﬅ', 'ﬆ']]

/-- The code points that runs map to a given one. -/
def CaseRuns.sources (runs : CaseRuns) (code : Nat) : List Nat :=
  runs.filterMap fun (first, last, step, target) =>
    if target ≤ code && code ≤ target + (last - first) && (code - target) % step == 0 then
      some (first + (code - target))
    else none

/-- The other characters that have a given small letter. -/
def capitalsOf (small : Char) : List Char :=
  (if small.isLower then [small.toUpper] else []) ++
    (if small == 'i' then ['İ'] else []) ++
    (lowerRuns.sources small.toNat).map Char.ofNat

/-- All characters that are the same letter apart from case. -/
def letterVariants (c : Char) : List Char :=
  let small := smallLetter c
  ((sharedCapitals.find? (·.contains small)).getD [small]).flatMap fun small =>
    small :: capitalsOf small

end Crowsfoot.Text
