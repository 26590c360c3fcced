import SessionHandshake.Number.Modular

namespace SessionHandshake

/-!
# Agreement keys on Montgomery curves

A point is known by its first coordinate only.  The private key is a string of
bytes that, with some bits fixed, is the multiple of the base point that the
public key is; multiples are found by climbing a ladder, whose two sides are
always one base point apart.
-/

/-- A curve over the integers modulo a prime, as climbing its ladder needs it. -/
structure MontgomeryCurve where
  prime : Nat
  /-- A quarter of two less than the coefficient of the curve. -/
  coefficient : Nat
  /-- The first coordinate of the base point. -/
  base : Nat
  /-- The number of bytes of a private and of a public key. -/
  length : Nat
  /-- How many of the lowest bits of a multiple are cleared. -/
  clearedBits : Nat
  /-- The highest bit of a multiple, which is always set. -/
  highestBit : Nat

/-- A first coordinate as a quotient. -/
structure MontgomeryPoint where
  numerator : Nat
  denominator : Nat

namespace MontgomeryCurve

/-- The point added to itself. -/
def double (curve : MontgomeryCurve) (point : MontgomeryPoint) : MontgomeryPoint :=
  let prime := curve.prime
  let sum := point.numerator + point.denominator
  let difference := Modular.subtract point.numerator point.denominator prime
  let larger := sum * sum % prime
  let smaller := difference * difference % prime
  let gap := Modular.subtract larger smaller prime
  {
    numerator := larger * smaller % prime
    denominator := gap * (larger + curve.coefficient * gap) % prime
  }

/-- The sum of two points that are one base point apart. -/
def addApart (curve : MontgomeryCurve) (left right : MontgomeryPoint) : MontgomeryPoint :=
  let prime := curve.prime
  let first := Modular.subtract left.numerator left.denominator prime *
    (right.numerator + right.denominator)
  let second := (left.numerator + left.denominator) *
    Modular.subtract right.numerator right.denominator prime
  let sum := (first + second) % prime
  let difference := Modular.subtract first second prime
  {
    numerator := sum * sum % prime
    denominator := curve.base * (difference * difference % prime) % prime
  }

/-- So many times the base point, and once more. -/
def ladder (curve : MontgomeryCurve) (count : Nat) : MontgomeryPoint × MontgomeryPoint :=
  if _isZero : count = 0 then
    (⟨1, 0⟩, ⟨curve.base, 1⟩)
  else
    let (lower, upper) := ladder curve (count / 2)
    let between := curve.addApart upper lower
    if count % 2 = 1 then
      (between, curve.double upper)
    else
      (curve.double lower, between)
termination_by count
decreasing_by omega

/-- The multiple that a private key stands for. -/
def multiplier (curve : MontgomeryCurve) (secret : Bytes) : Nat :=
  let number := Hash.numberOf secret.reverse
  let low := Nat.pow 2 curve.clearedBits
  let high := Nat.pow 2 curve.highestBit
  number % high / low * low + high

/-- The public key of a private key. -/
def publicKey (curve : MontgomeryCurve) (secret : Bytes) : Bytes :=
  let point := (curve.ladder (curve.multiplier secret)).1
  Hash.littleEndian curve.length
    (Modular.divide point.numerator point.denominator curve.prime)

/-- The curve of X25519 keys. -/
def x25519 : MontgomeryCurve where
  prime := 0x7fffffffffffffffffffffffffffffffffffffffffffffffffffffffffffffed
  coefficient := 121665
  base := 9
  length := 32
  clearedBits := 3
  highestBit := 254

/-- The curve of X448 keys. -/
def x448 : MontgomeryCurve where
  prime := 0xfffffffffffffffffffffffffffffffffffffffffffffffffffffffeffffffffffffffffffffffffffffffffffffffffffffffffffffffff
  coefficient := 39081
  base := 5
  length := 56
  clearedBits := 2
  highestBit := 447

end MontgomeryCurve

end SessionHandshake
