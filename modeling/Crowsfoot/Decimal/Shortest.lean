/-!
# Shortest decimals

A binary floating point number stands for every real that rounds to it.  Its
shortest decimal is the decimal with the fewest significant digits among those
reals; of two such decimals it is the one nearer to the number, and of two
equally near ones the one whose last digit is even.

All comparisons are between natural numbers: the number is `4 * mantissa`
quarter units, a unit being the spacing at its binary exponent, so that the
midpoints towards both neighbours are whole numbers of quarter units.
-/

namespace Crowsfoot.Decimal

def powerOfTwo (exponent : Nat) : Nat := Nat.pow 2 exponent

def powerOfTen (exponent : Nat) : Nat := Nat.pow 10 exponent

/-- A positive decimal `0.d₁d₂… * 10 ^ point`. -/
structure Digits where
  digits : Nat
  point : Int

/-- A positive finite binary number with the interval of reals that round to
it: `value`, `low` and `high` are multiples of `scale / divisor`. -/
structure Interval where
  low : Nat
  value : Nat
  high : Nat
  closed : Bool
  scale : Nat
  divisor : Nat

/-- The interval of the number `mantissa * 2 ^ exponent`.  Below a power of
two the spacing is halved, unless the mantissa is subnormal. -/
def Interval.ofBinary (mantissa : Nat) (exponent : Int) (halved : Bool) : Interval where
  low := 4 * mantissa - (if halved then 1 else 2)
  value := 4 * mantissa
  high := 4 * mantissa + 2
  closed := mantissa % 2 == 0
  scale := powerOfTwo (exponent - 2).toNat
  divisor := powerOfTwo (2 - exponent).toNat

/-- The least `point` such that a positive quotient is below `10 ^ point`. -/
def decimalPoint (numerator denominator : Nat) : Int :=
  if denominator ≤ numerator then
    ((Nat.toDigits 10 (numerator / denominator)).length : Int)
  else
    let reciprocal := (denominator + numerator - 1) / numerator
    let zeros := (Nat.toDigits 10 (reciprocal - 1)).length
    if powerOfTen zeros * numerator < denominator then -(zeros : Int) else 1 - (zeros : Int)

/-- The decimal of the interval on the grid with `count` digits, if the grid
has a point in the interval. -/
def Interval.onGrid (interval : Interval) (point : Int) (count : Nat) : Option Nat :=
  let shift : Int := point - count
  let unit := interval.divisor * powerOfTen shift.toNat
  let factor := interval.scale * powerOfTen (-shift).toNat
  let below := interval.value * factor / unit
  let inside (candidate : Nat) : Bool :=
    let position := candidate * unit
    if interval.closed then
      interval.low * factor ≤ position && position ≤ interval.high * factor
    else
      interval.low * factor < position && position < interval.high * factor
  match inside below, inside (below + 1) with
  | false, false => none
  | true, false => some below
  | false, true => some (below + 1)
  | true, true =>
      let doubled := 2 * (interval.value * factor)
      let middle := (2 * below + 1) * unit
      if doubled < middle then some below
      else if middle < doubled then some (below + 1)
      else some (if below % 2 == 0 then below else below + 1)

/-- The first grid with a point in the interval, from `count` digits on. -/
def Interval.shortestFrom (interval : Interval) (point : Int) (count : Nat) :
    Nat → Nat × Nat
  | 0 => (interval.onGrid point count |>.getD 0, count)
  | tries + 1 =>
      match interval.onGrid point count with
      | some digits => (digits, count)
      | none => interval.shortestFrom point (count + 1) tries

/-- Seventeen digits always separate binary numbers of double precision. -/
def Interval.shortest (interval : Interval) : Digits :=
  let point := decimalPoint (interval.value * interval.scale) interval.divisor
  let (digits, count) := interval.shortestFrom point 1 16
  let excess := (Nat.toDigits 10 digits).length - count
  ⟨digits, point + excess⟩

/-- The parts of a double precision number. -/
inductive Parts
  | notANumber
  | infinite (negative : Bool)
  | zero (negative : Bool)
  | finite (negative : Bool) (interval : Interval)

/-- Take the bits of a number apart. -/
def Parts.ofFloat (x : Float) : Parts :=
  let bits : Nat := x.toBits.toNat
  let negative := bits / powerOfTwo 63 == 1
  let biased : Nat := bits / powerOfTwo 52 % powerOfTwo 11
  let fraction : Nat := bits % powerOfTwo 52
  if biased == powerOfTwo 11 - 1 then
    if fraction == 0 then .infinite negative else .notANumber
  else if biased == 0 then
    if fraction == 0 then .zero negative
    else .finite negative (.ofBinary fraction (-1074) false)
  else
    .finite negative
      (.ofBinary (powerOfTwo 52 + fraction) (Int.ofNat biased - 1075)
        (fraction == 0 && biased != 1))

end Crowsfoot.Decimal
