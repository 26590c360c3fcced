import SessionHandshake.Number.Binary64

namespace SessionHandshake

/-!
# The shortest decimal of a double

A finite double is written with the fewest digits that read back as the same
double, and among those with the digits nearest to its value.  The digits are
found by exact arithmetic: for one digit, two digits and so on, the two
neighbours of the value on that decimal grid are tested against the interval of
values that round to the double.

How the digits are laid out is decided in one place, `Binary64.layout`.
-/

/-- Decimal digits as a number, with the place of the decimal point. -/
structure Decimal where
  digits : Nat
  /-- How many digits stand before the decimal point. -/
  point : Int
  deriving DecidableEq

/-- How a decimal is written. -/
structure DecimalLayout where
  /-- The least exponent that is written positionally. -/
  leastPositional : Int
  /-- The first exponent that is no longer written positionally. -/
  firstScientific : Int
  /-- The least number of digits of a written exponent. -/
  exponentWidth : Nat

namespace Decimal

/-- Zeros. -/
def zeros (count : Nat) : Text :=
  List.replicate count (CodePoint.ofChar '0')

/-- A decimal in a layout. -/
def write (layout : DecimalLayout) (decimal : Decimal) : Text :=
  let digits := Text.ofNat decimal.digits
  let exponent := decimal.point - 1
  if layout.leastPositional ≤ exponent ∧ exponent < layout.firstScientific then
    if decimal.point ≤ 0 then
      ("0." : Text) ++ zeros (-decimal.point).toNat ++ digits
    else
      let whole := decimal.point.toNat
      if digits.length ≤ whole then
        digits ++ zeros (whole - digits.length) ++ (".0" : Text)
      else
        digits.take whole ++ ("." : Text) ++ digits.drop whole
  else
    let fraction := if digits.length ≤ 1 then [] else ("." : Text) ++ digits.drop 1
    let sign : Text := if exponent < 0 then "-" else "+"
    let written := Text.ofNat exponent.natAbs
    digits.take 1 ++ fraction ++ ("e" : Text) ++ sign ++
      zeros (layout.exponentWidth - written.length) ++ written

end Decimal

namespace Binary64

/--
The interval of values that round to a positive double, in units of a quarter
of its last place: lower end, the value itself, upper end.
-/
def roundingInterval (mantissa : Nat) (exponent : Int) : Nat × Nat × Nat :=
  let isBoundary := mantissa = Nat.pow 2 (precision - 1) ∧ leastExponent < exponent
  (4 * mantissa - (if isBoundary then 1 else 2), 4 * mantissa, 4 * mantissa + 2)

/-- A power with an integer exponent as a fraction. -/
def powerFraction (base : Nat) : Int → Nat × Nat
  | .ofNat power =>
      (Nat.pow base power, 1)
  | .negSucc power =>
      (1, Nat.pow base (power + 1))

/-- Search, upwards from a guess, for the place of a value's decimal point. -/
def pointAbove (numerator denominator : Nat) : Nat → Int → Int
  | 0, guess =>
      guess
  | fuel + 1, guess =>
      let (scale, divisor) := powerFraction 10 guess
      if numerator * divisor < denominator * scale then
        guess
      else
        pointAbove numerator denominator fuel (guess + 1)

/-- The least power of ten above a positive fraction. -/
def decimalPoint (numerator denominator : Nat) : Int :=
  let binary : Int := (numerator.log2 : Int) - (denominator.log2 : Int) - 1
  pointAbove numerator denominator 4 (Int.fdiv (binary * 30103) 100000)

/--
The digits of a value on the grid of a given number of digits, when one of its
two neighbours there lies in the rounding interval.
-/
def digitsOnGrid?
    (mantissa : Nat)
    (exponent : Int)
    (point : Int)
    (count : Nat) :
    Option Nat :=
  let (low, value, high) := roundingInterval mantissa exponent
  let (unit, unitDivisor) := powerFraction 2 (exponent - 2)
  let (step, stepDivisor) := powerFraction 10 (point - count)
  -- The grid step in the units of the interval is `step / (stepDivisor * unit)`.
  let scaledStep := step * unitDivisor
  let scale := stepDivisor * unit
  let below := value * scale / scaledStep
  let isInside := fun (candidate : Nat) =>
    if mantissa % 2 = 0 then
      low * scale ≤ candidate * scaledStep && candidate * scaledStep ≤ high * scale
    else
      low * scale < candidate * scaledStep && candidate * scaledStep < high * scale
  let isBelowInside := below ≠ 0 && isInside below
  let isAboveInside := isInside (below + 1)
  if isBelowInside && isAboveInside then
    let twice := 2 * (value * scale - below * scaledStep)
    if twice < scaledStep || (twice = scaledStep && below % 2 = 0) then
      some below
    else
      some (below + 1)
  else if isBelowInside then
    some below
  else if isAboveInside then
    some (below + 1)
  else
    none

/-- Trailing zeros of a number taken off. -/
def withoutTrailingZeros (number : Nat) : Nat :=
  if reducible : number ≠ 0 ∧ number % 10 = 0 then
    withoutTrailingZeros (number / 10)
  else
    number
termination_by number
decreasing_by
  have := reducible.1
  omega

/-- The shortest decimal of a positive double. -/
def shortest (mantissa : Nat) (exponent : Int) : Decimal :=
  let (numerator, denominator) :=
    match powerFraction 2 exponent with
    | (scale, divisor) => (mantissa * scale, divisor)
  let point := decimalPoint numerator denominator
  let digits :=
    ((List.range 17).findSome? fun index =>
      (digitsOnGrid? mantissa exponent point (index + 1)).map fun digits =>
        (digits, index + 1)).getD (0, 1)
  let carried := if digits.1 = Nat.pow 10 digits.2 then point + 1 else point
  { digits := withoutTrailingZeros digits.1, point := carried }

/--
Doubles are written positionally from `0.0001` up to below ten to the
sixteenth, always with a digit after the point; outside of that range with a
signed exponent of at least two digits.
-/
def layout : DecimalLayout where
  leastPositional := -4
  firstScientific := 16
  exponentWidth := 2

/-- The shortest text of a double that reads back as the same double. -/
def toText : Binary64 → Text
  | .notANumber =>
      "nan"
  | .infinite false =>
      "inf"
  | .infinite true =>
      "-inf"
  | .finite isNegative mantissa exponent =>
      let sign : Text := if isNegative then "-" else ""
      if mantissa = 0 then
        sign ++ ("0.0" : Text)
      else
        sign ++ Decimal.write layout (shortest mantissa exponent)

end Binary64

end SessionHandshake
