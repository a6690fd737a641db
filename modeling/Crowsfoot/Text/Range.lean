/-!
# Character ranges

A character class of the Unicode standard is kept as the list of its code
point intervals.  The intervals are closed, disjoint and increasing, so a
membership test stops at the first interval that begins after the character.
-/

namespace Crowsfoot.Text

/-- Closed code point intervals in increasing order. -/
abbrev Ranges := List (Nat × Nat)

/-- Membership in increasing intervals. -/
def Ranges.contains : Ranges → Nat → Bool
  | [], _ => false
  | (first, last) :: later, code =>
      if code < first then false
      else if code ≤ last then true
      else Ranges.contains later code

end Crowsfoot.Text
