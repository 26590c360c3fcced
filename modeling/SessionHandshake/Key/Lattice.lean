import SessionHandshake.Hash.Sponge
import SessionHandshake.Number.Transform

namespace SessionHandshake

/-!
# What keys over lattices share

The keys are made of polynomials of 256 coefficients.  A matrix of polynomials
is drawn from a public seed, two short vectors from a secret one; the public key
is the matrix times the first vector plus the second.
-/

/-- The coefficients of a polynomial, lowest first, or its values. -/
abbrev Polynomial := List Nat

namespace Lattice

/-- The number of coefficients. -/
def degree : Nat := 256

/-- The halves of bytes, the lower half of each first. -/
def halves (bytes : Bytes) : List Nat :=
  bytes.flatMap fun byte => [byte.toNat % 16, byte.toNat / 16]

/-- A sum of polynomials. -/
def add (prime : Nat) (left right : Polynomial) : Polynomial :=
  List.zipWith (fun first second => (first + second) % prime) left right

/-- A product of values, one by one. -/
def multiplyValues (prime : Nat) (left right : Polynomial) : Polynomial :=
  List.zipWith (fun first second => first * second % prime) left right

/-- The product of a row and a vector under a product of polynomials. -/
def rowProduct
    (prime : Nat)
    (multiply : Polynomial → Polynomial → Polynomial)
    (row vector : List Polynomial) :
    Polynomial :=
  (List.zipWith multiply row vector).foldl (add prime) (List.replicate degree 0)

/-- The matrix whose entries are drawn from a seed, the column and the row. -/
def matrix
    (draw : Bytes → Polynomial)
    (seed : Bytes)
    (rows columns : Nat) :
    List (List Polynomial) :=
  (List.range rows).map fun row =>
    (List.range columns).map fun column =>
      draw (seed ++ [UInt8.ofNat column, UInt8.ofNat row])

/-- Coefficients written with so many bits each, lowest bit first. -/
def packed (bits : Nat) (polynomial : Polynomial) : Bytes :=
  Hash.littleEndian (polynomial.length * bits / 8)
    (polynomial.foldr (fun coefficient higher => coefficient + Nat.pow 2 bits * higher) 0)

end Lattice

end SessionHandshake
