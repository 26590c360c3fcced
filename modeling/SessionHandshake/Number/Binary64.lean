import SessionHandshake.Text.Basic

namespace SessionHandshake

/-!
# Double-precision numbers

A double is kept as its exact value, a whole number times a power of two, so
that reading, comparing and writing doubles are facts about whole numbers.
`Binary64.nearest` is the only place where a value is rounded: to the nearest
double, and to the even one of two that are equally near.
-/

/--
A double-precision number.

A finite one is `mantissa * 2 ^ exponent`.  Every value built by
`Binary64.nearest` has the mantissa of a normal number, or the least exponent.
-/
inductive Binary64 where
  | notANumber
  | infinite (isNegative : Bool)
  | finite (isNegative : Bool) (mantissa : Nat) (exponent : Int)
  deriving DecidableEq

namespace Binary64

/-- The exponent of the least positive double. -/
def leastExponent : Int := -1074

/-- The exponent of the greatest finite double. -/
def greatestExponent : Int := 971

/-- The number of bits of the mantissa of a normal number. -/
def precision : Nat := 53

/-- Positive or negative zero. -/
def signedZero (isNegative : Bool) : Binary64 :=
  .finite isNegative 0 leastExponent

/-- A quotient rounded to the nearest whole number, and to even from halfway. -/
def roundQuotient (numerator denominator : Nat) : Nat :=
  let quotient := numerator / denominator
  let twice := 2 * (numerator % denominator)
  if twice < denominator then
    quotient
  else if denominator < twice then
    quotient + 1
  else
    quotient + quotient % 2

/-- A quotient of a fraction by a power of two, rounded to a whole number. -/
def roundScaled (numerator denominator : Nat) (exponent : Int) : Nat :=
  match exponent with
  | .ofNat power =>
      roundQuotient numerator (denominator * Nat.pow 2 power)
  | .negSucc power =>
      roundQuotient (numerator * Nat.pow 2 (power + 1)) denominator

/-- The fraction is at least a power of two. -/
def atLeastPower (numerator denominator : Nat) (exponent : Int) : Bool :=
  match exponent with
  | .ofNat power =>
      denominator * Nat.pow 2 power ≤ numerator
  | .negSucc power =>
      denominator ≤ numerator * Nat.pow 2 (power + 1)

/-- The exponent that gives a positive fraction a mantissa of full precision. -/
def exponentFor (numerator denominator : Nat) : Int :=
  let guess : Int := (numerator.log2 : Int) - (denominator.log2 : Int)
  let leading := if atLeastPower numerator denominator guess then guess else guess - 1
  max leastExponent (leading - (precision - 1 : Nat))

/-- The double nearest to a fraction, with a given sign. -/
def nearest (isNegative : Bool) (numerator denominator : Nat) : Binary64 :=
  if numerator = 0 then
    signedZero isNegative
  else
    let exponent := exponentFor numerator denominator
    let mantissa := roundScaled numerator denominator exponent
    if mantissa = 0 then
      signedZero isNegative
    else
      let (mantissa, exponent) :=
        if mantissa = Nat.pow 2 precision then
          (Nat.pow 2 (precision - 1), exponent + 1)
        else
          (mantissa, exponent)
      if greatestExponent < exponent then
        .infinite isNegative
      else
        .finite isNegative mantissa exponent

/-- The double nearest to a whole number. -/
def ofInt (number : Int) : Binary64 :=
  nearest (number < 0) number.natAbs 1

/--
The double nearest to a decimal: its digits as a number, times a power of ten.

Powers of ten far outside the range of doubles are answered without being
computed.
-/
def ofDecimal (isNegative : Bool) (digits : Nat) (power : Int) : Binary64 :=
  if digits = 0 then
    signedZero isNegative
  else
    let places : Int := (Nat.log2 digits / 3 + 1 : Nat)
    if 400 < power then
      .infinite isNegative
    else if places + power < -400 then
      signedZero isNegative
    else
      match power with
      | .ofNat power =>
          nearest isNegative (digits * Nat.pow 10 power) 1
      | .negSucc power =>
          nearest isNegative digits (Nat.pow 10 (power + 1))

/-- The value of a finite double as a fraction: signed numerator, denominator. -/
def fraction? : Binary64 → Option (Int × Nat)
  | .finite isNegative mantissa exponent =>
      let signed : Int := if isNegative then -mantissa else mantissa
      match exponent with
      | .ofNat power =>
          some (signed * Nat.pow 2 power, 1)
      | .negSucc power =>
          some (signed, Nat.pow 2 (power + 1))
  | _ =>
      none

/-- The sign bit. -/
def isNegative : Binary64 → Bool
  | .notANumber =>
      false
  | .infinite sign =>
      sign
  | .finite sign _ _ =>
      sign

/-- Neither of the two zeros. -/
def isNonzero : Binary64 → Bool
  | .finite _ mantissa _ =>
      mantissa ≠ 0
  | _ =>
      true

/-- The double with the other sign. -/
def negate : Binary64 → Binary64
  | .notANumber =>
      .notANumber
  | .infinite sign =>
      .infinite !sign
  | .finite sign mantissa exponent =>
      .finite (!sign) mantissa exponent

/-- How a whole number compares with a double; nothing compares with NaN. -/
def compareInt? (number : Int) : Binary64 → Option Ordering
  | .notANumber =>
      none
  | .infinite true =>
      some .gt
  | .infinite false =>
      some .lt
  | .finite sign mantissa exponent =>
      match fraction? (.finite sign mantissa exponent) with
      | none =>
          none
      | some (numerator, denominator) =>
          some (compare (number * denominator) numerator)

/-- Equality of values: the zeros are equal and NaN equals nothing. -/
def sameValue : Binary64 → Binary64 → Bool
  | .infinite left, .infinite right =>
      left = right
  | .finite leftSign leftMantissa leftExponent, .finite rightSign rightMantissa rightExponent =>
      (leftMantissa = 0 && rightMantissa = 0) ||
        (leftSign = rightSign && leftMantissa = rightMantissa &&
          leftExponent = rightExponent)
  | _, _ =>
      false

/-- The product of two doubles. -/
def multiply (left right : Binary64) : Binary64 :=
  match left, right with
  | .notANumber, _ =>
      .notANumber
  | _, .notANumber =>
      .notANumber
  | .infinite sign, other =>
      if other.isNonzero then .infinite (sign != other.isNegative) else .notANumber
  | other, .infinite sign =>
      if other.isNonzero then .infinite (sign != other.isNegative) else .notANumber
  | .finite leftSign leftMantissa leftExponent, .finite rightSign rightMantissa rightExponent =>
      match fraction? (.finite false leftMantissa leftExponent),
        fraction? (.finite false rightMantissa rightExponent) with
      | some (leftNumerator, leftDenominator), some (rightNumerator, rightDenominator) =>
          nearest (leftSign != rightSign) (leftNumerator.natAbs * rightNumerator.natAbs)
            (leftDenominator * rightDenominator)
      | _, _ =>
          .notANumber

/-- The sum of two doubles; a sum of zero is negative only if both are. -/
def add (left right : Binary64) : Binary64 :=
  match left, right with
  | .notANumber, _ =>
      .notANumber
  | _, .notANumber =>
      .notANumber
  | .infinite sign, .infinite other =>
      if sign = other then .infinite sign else .notANumber
  | .infinite sign, _ =>
      .infinite sign
  | _, .infinite sign =>
      .infinite sign
  | left, right =>
      match fraction? left, fraction? right with
      | some (leftNumerator, leftDenominator), some (rightNumerator, rightDenominator) =>
          let sum := leftNumerator * rightDenominator + rightNumerator * leftDenominator
          if sum = 0 then
            signedZero (left.isNegative && right.isNegative)
          else
            nearest (sum < 0) sum.natAbs (leftDenominator * rightDenominator)
      | _, _ =>
          .notANumber

end Binary64

end SessionHandshake
