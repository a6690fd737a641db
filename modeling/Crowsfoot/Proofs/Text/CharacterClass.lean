import Crowsfoot.Text.Alphanumeric
import Crowsfoot.Text.Digit
import Crowsfoot.Text.Split

/-!
# Classes of characters

Names, blanks and punctuation never overlap.  The readers of this library rely
on it: a run of word characters ends where a blank or a sign begins, and a
line boundary is a blank.
-/

namespace Crowsfoot.Text

/-- A property of the characters of a text is decided on the text, never on all
characters there are. -/
instance decidableForallMemChars {holds : Char → Prop} [DecidablePred holds] (text : List Char) :
    Decidable (∀ c ∈ text, holds c) :=
  List.decidableBAll holds text

/-- The code points of blanks. -/
def blankCodes : List Nat :=
  [0x09, 0x0A, 0x0B, 0x0C, 0x0D, 0x1C, 0x1D, 0x1E, 0x1F, 0x20, 0x85, 0xA0, 0x1680,
    0x2000, 0x2001, 0x2002, 0x2003, 0x2004, 0x2005, 0x2006, 0x2007, 0x2008, 0x2009,
    0x200A, 0x2028, 0x2029, 0x202F, 0x205F, 0x3000]

theorem toNat_mem_blankCodes {c : Char} (blank : isBlank c = true) :
    c.toNat ∈ blankCodes := by
  simp only [isBlank, Bool.or_eq_true, Bool.and_eq_true, decide_eq_true_eq,
    beq_iff_eq] at blank
  simp only [blankCodes, List.mem_cons, List.not_mem_nil, or_false]
  omega

theorem isWord_of_mem_blankCodes :
    ∀ code ∈ blankCodes, isWord (Char.ofNat code) = false := by
  decide +kernel

/-- No blank is a word character. -/
theorem isWord_of_isBlank {c : Char} (blank : isBlank c = true) : isWord c = false := by
  rw [← Char.ofNat_toNat c]
  exact isWord_of_mem_blankCodes _ (toNat_mem_blankCodes blank)

/-- No word character is a blank. -/
theorem isBlank_of_isWord {c : Char} (word : isWord c = true) : isBlank c = false := by
  cases blank : isBlank c with
  | false => rfl
  | true =>
      rw [isWord_of_isBlank blank] at word
      contradiction

theorem isDecimal_of_mem_blankCodes :
    ∀ code ∈ blankCodes, isDecimal (Char.ofNat code) = false := by
  decide +kernel

/-- No decimal digit is a blank. -/
theorem isBlank_of_isDecimal {c : Char} (decimal : isDecimal c = true) : isBlank c = false := by
  cases blank : isBlank c with
  | false => rfl
  | true =>
      have notDecimal := isDecimal_of_mem_blankCodes _ (toNat_mem_blankCodes blank)
      rw [Char.ofNat_toNat, decimal] at notDecimal
      contradiction

/-- Lines end at blanks. -/
theorem isBlank_of_isLineBoundary {c : Char} (boundary : isLineBoundary c = true) :
    isBlank c = true := by
  simp only [isLineBoundary, isBlank, Bool.or_eq_true, Bool.and_eq_true, decide_eq_true_eq,
    beq_iff_eq] at *
  omega

theorem isLineBoundary_of_notBlank {c : Char} (notBlank : isBlank c = false) :
    isLineBoundary c = false := by
  cases boundary : isLineBoundary c with
  | false => rfl
  | true =>
      rw [isBlank_of_isLineBoundary boundary] at notBlank
      contradiction

/-- No line ends inside a name. -/
theorem isLineBoundary_of_isWord {c : Char} (word : isWord c = true) :
    isLineBoundary c = false :=
  isLineBoundary_of_notBlank (isBlank_of_isWord word)

theorem toNat_lt_of_isAlphanum {c : Char} (alphanumeric : c.isAlphanum = true) :
    c.toNat < 128 := by
  have ranges : ((decide (c.val ≥ 65 ∧ c.val ≤ 90) || c.val ≥ 97 && c.val ≤ 122) ||
      c.val ≥ 48 && c.val ≤ 57) = true :=
    alphanumeric
  simp [UInt32.le_iff_toNat_le] at ranges
  omega

theorem isAlpha_of_isUpper {c : Char} (capital : c.isUpper = true) : c.isAlpha = true :=
  Bool.or_eq_true_iff.mpr (.inl capital)

theorem isAlpha_of_isLower {c : Char} (small : c.isLower = true) : c.isAlpha = true :=
  Bool.or_eq_true_iff.mpr (.inr small)

theorem isAlphanum_of_isAlpha {c : Char} (letter : c.isAlpha = true) : c.isAlphanum = true :=
  Bool.or_eq_true_iff.mpr (.inl letter)

theorem isAlphanum_of_isDigit {c : Char} (digit : c.isDigit = true) : c.isAlphanum = true :=
  Bool.or_eq_true_iff.mpr (.inr digit)

theorem isAlpha_of_isDigit {c : Char} (digit : c.isDigit = true) : c.isAlpha = false := by
  have range : (c.val ≥ 48 && c.val ≤ 57) = true := digit
  change (decide (c.val ≥ 65 ∧ c.val ≤ 90) || c.val ≥ 97 && c.val ≤ 122) = false
  simp [UInt32.le_iff_toNat_le] at range ⊢
  omega

theorem isWord_of_isAlphanum {c : Char} (alphanumeric : c.isAlphanum = true) :
    isWord c = true := by
  have small := toNat_lt_of_isAlphanum alphanumeric
  simp [isWord, isAlphanumeric, small, alphanumeric]

theorem isDecimal_of_isDigit {c : Char} (digit : c.isDigit = true) : isDecimal c = true := by
  rw [isDecimal, if_pos (toNat_lt_of_isAlphanum (isAlphanum_of_isDigit digit)), digit]

/-- A character of a class differs from every character outside it. -/
theorem ne_of_class {inClass : Char → Bool} {c sign : Char} (inside : inClass c = true)
    (outside : inClass sign = false) : c ≠ sign := by
  rintro rfl
  rw [outside] at inside
  contradiction

end Crowsfoot.Text
