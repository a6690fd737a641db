import Crowsfoot.Decimal.Shortest

/-!
# Writing floating point numbers

A layout fixes how the digits of a shortest decimal are written: where
positional notation ends, how wide an exponent is, and the words for the
values that have no digits.
-/

namespace Crowsfoot.Decimal

/-- The decisions that turn digits into text. -/
structure Layout where
  /-- Positional notation is used for decimal points above `minPoint` … -/
  minPoint : Int
  /-- … and up to `maxPoint`. -/
  maxPoint : Int
  exponentWidth : Nat
  infinity : String
  notANumber : String

/-- Positional from a ten-thousandth up to sixteen places before the point,
otherwise an exponent of two digits or more. -/
def Layout.plain : Layout := ⟨-4, 16, 2, "inf", "nan"⟩

namespace Layout

variable (layout : Layout)

/-- Digits without the zeros at their end. -/
def significant (digits : Nat) : List Char :=
  match ((Nat.toDigits 10 digits).reverse.dropWhile (· == '0')).reverse with
  | [] => ['0']
  | kept => kept

/-- The exponent part: a sign and at least `exponentWidth` digits. -/
def exponentText (exponent : Int) : List Char :=
  let digits := Nat.toDigits 10 exponent.natAbs
  let padding := List.replicate (layout.exponentWidth - digits.length) '0'
  'e' :: (if exponent < 0 then '-' else '+') :: (padding ++ digits)

/-- The text of positive digits. -/
def digitsText (decimal : Digits) : List Char :=
  let digits := significant decimal.digits
  let point := decimal.point
  if layout.minPoint < point && point ≤ layout.maxPoint then
    if point ≤ 0 then
      '0' :: '.' :: (List.replicate (-point).toNat '0' ++ digits)
    else
      let whole := digits.take point.toNat
      let zeros := List.replicate (point.toNat - digits.length) '0'
      match digits.drop point.toNat with
      | [] => whole ++ zeros ++ ['.', '0']
      | fraction => whole ++ '.' :: fraction
  else
    let mantissa := match digits with
      | lead :: next :: later => lead :: '.' :: next :: later
      | single => single
    mantissa ++ layout.exponentText (point - 1)

/-- The text of a number. -/
def write (x : Float) : String :=
  let signed (negative : Bool) (text : List Char) : String :=
    String.ofList (if negative then '-' :: text else text)
  match Parts.ofFloat x with
  | .notANumber => layout.notANumber
  | .infinite negative => signed negative layout.infinity.toList
  | .zero negative => signed negative ['0', '.', '0']
  | .finite negative interval => signed negative (layout.digitsText interval.shortest)

end Layout

end Crowsfoot.Decimal
