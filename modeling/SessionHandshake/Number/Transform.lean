import SessionHandshake.Number.Modular

namespace SessionHandshake

/-!
# Polynomials by their values

A polynomial modulo a prime, of fewer coefficients than a power of two, is
known by its values at the odd powers of a root of unity: values can be
multiplied one by one.  The values are listed in the order in which the number
of the power, read backwards in binary, counts up.
-/

namespace Transform

/-- The lowest bits of a number in reverse order. -/
def reverseBits : Nat → Nat → Nat
  | 0, _ =>
      0
  | bits + 1, number =>
      number % 2 * Nat.pow 2 bits + reverseBits bits (number / 2)

/-- The value of a polynomial, its lowest coefficient first, at a point. -/
def evaluate (prime : Nat) (polynomial : List Nat) (point : Nat) : Nat :=
  polynomial.foldr (fun coefficient value => (coefficient + value * point) % prime) 0

/-- The odd powers of a root, in the order of the values. -/
def points (prime root bits : Nat) : List Nat :=
  (List.range (Nat.pow 2 bits)).map fun index =>
    Modular.power root (2 * reverseBits bits index + 1) prime

/-- The values of a polynomial. -/
def values (prime root bits : Nat) (polynomial : List Nat) : List Nat :=
  (points prime root bits).map (evaluate prime polynomial)

/--
The polynomial of values.

A coefficient is the mean of the values, each divided by the power of its point:
what other coefficients contribute cancels out.
-/
def coefficients (prime root bits : Nat) (values : List Nat) : List Nat :=
  let count := Nat.pow 2 bits
  let inverse := (Modular.inverse? root prime).getD 0
  let share := (Modular.inverse? count prime).getD 0
  let inOrder := (List.range count).map fun index => values.getD (reverseBits bits index) 0
  (List.range count).map fun index =>
    let step := Modular.power inverse index prime
    evaluate prime inOrder (step * step % prime) * step % prime * share % prime

end Transform

end SessionHandshake
