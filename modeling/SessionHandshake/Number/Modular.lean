import SessionHandshake.Hash.Block

namespace SessionHandshake

/-!
# Arithmetic modulo a number

Powers by repeated squaring, inverses, and the strong probable-prime test, as
key generation and the check of a private key use them.

Which numbers pass for primes is the business of a library that draws the bases of
its test at random, so whatever needs such a check is given one.
-/

/-- A check whether a number is a prime. -/
abbrev PrimalityCheck := Nat → Bool

namespace Modular

/-- A power modulo a number, by repeated squaring. -/
def power (base exponent modulus : Nat) : Nat :=
  if _isZero : exponent = 0 then
    1 % modulus
  else
    let half := power base (exponent / 2) modulus
    let square := half * half % modulus
    if exponent % 2 = 1 then
      square * base % modulus
    else
      square
termination_by exponent
decreasing_by omega

/-- A power computed by squaring is the remainder of the power. -/
theorem power_eq (base exponent modulus : Nat) :
    power base exponent modulus = Nat.pow base exponent % modulus := by
  induction exponent using Nat.strongRecOn with
  | ind exponent inductionHypothesis =>
      unfold power
      split
      · next isZero =>
          simp [isZero]
      · next notZero =>
          have half := inductionHypothesis (exponent / 2) (by omega)
          simp only [half]
          have doubled : Nat.pow base (exponent / 2) * Nat.pow base (exponent / 2) =
              Nat.pow base (exponent / 2 * 2) := by
            rw [Nat.mul_two]
            exact (Nat.pow_add base (exponent / 2) (exponent / 2)).symm
          split
          · next isOdd =>
              have parts : Nat.pow base exponent = Nat.pow base (exponent / 2 * 2) * base := by
                have isSuccessor : exponent = exponent / 2 * 2 + 1 := by omega
                exact (congrArg (Nat.pow base) isSuccessor).trans rfl
              rw [← Nat.mul_mod, doubled, Nat.mod_mul_mod, parts]
          · next isEven =>
              have parts : exponent = exponent / 2 * 2 := by omega
              rw [← Nat.mul_mod, doubled, ← parts]

/--
The coefficients of the extended Euclidean algorithm, followed until the
remainder is zero: the greatest common divisor and the factor of the second
number that gives it.
-/
def bezout (fuel : Nat) (oldRemainder remainder oldFactor factor : Int) : Int × Int :=
  match fuel with
  | 0 =>
      (oldRemainder, oldFactor)
  | fuel + 1 =>
      if remainder = 0 then
        (oldRemainder, oldFactor)
      else
        let quotient := oldRemainder / remainder
        bezout fuel remainder (oldRemainder - quotient * remainder)
          factor (oldFactor - quotient * factor)

/-- The inverse of a number modulo another one, if there is one. -/
def inverse? (number modulus : Nat) : Option Nat :=
  let (divisor, factor) := bezout (2 * modulus.log2 + 4) modulus (number % modulus) 0 1
  if divisor = 1 then
    some (factor % modulus).toNat
  else
    none

/-- A difference modulo a number. -/
def subtract (left right modulus : Nat) : Nat :=
  (left + (modulus - right % modulus)) % modulus

/-- A quotient modulo a number, zero where the denominator has no inverse. -/
def divide (numerator denominator modulus : Nat) : Nat :=
  numerator * (inverse? denominator modulus).getD 0 % modulus

/-- Some further squaring of a residue gives the last residue. -/
def reachesLast (modulus : Nat) : Nat → Nat → Bool
  | 0, _ =>
      false
  | squarings + 1, residue =>
      residue = modulus - 1 || reachesLast modulus squarings (residue * residue % modulus)

/-- How often two divides a number, and the odd part. -/
def splitTwos (number : Nat) : Nat × Nat :=
  if _isEven : number ≠ 0 ∧ number % 2 = 0 then
    let (count, odd) := splitTwos (number / 2)
    (count + 1, odd)
  else
    (0, number)
termination_by number
decreasing_by omega

/-- The strong probable-prime test of an odd number for one base. -/
def isStrongProbablePrime (number base : Nat) : Bool :=
  let (count, odd) := splitTwos (number - 1)
  let residue := power base odd number
  residue = 1 || reachesLast number count residue

/-- The bases of the primality test, which are also the primes divided out first. -/
def smallPrimes : List Nat :=
  [2, 3, 5, 7, 11, 13, 17, 19, 23, 29, 31, 37, 41, 43, 47, 53, 59, 61, 67, 71, 73, 79, 83, 89]

/--
A number that no small prime divides and no small base proves composite.

This is the check that is asked when no other is given.
-/
def isProbablePrime : PrimalityCheck := fun number =>
  if number < 2 then
    false
  else if smallPrimes.contains number then
    true
  else if smallPrimes.any (number % · = 0) then
    false
  else
    smallPrimes.all (isStrongProbablePrime number)

end Modular

end SessionHandshake
