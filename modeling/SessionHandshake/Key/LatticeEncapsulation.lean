import SessionHandshake.Key.Lattice

namespace SessionHandshake

/-!
# Encapsulation keys over lattices

The private key is a seed, of which the first half decides the public key: the
product, given by its values, and the seed of the matrix.  The prime has no root
of unity of twice the degree, so a polynomial is known by the values of its even
and of its odd half, which are taken together in pairs.
-/

/-- The size of the matrix. -/
structure LatticeEncapsulation where
  rank : Nat

namespace LatticeEncapsulation

/-- The keys of ML-KEM-768. -/
def mlKem768 : LatticeEncapsulation where
  rank := 3

/-- The keys of ML-KEM-1024. -/
def mlKem1024 : LatticeEncapsulation where
  rank := 4

/-- The prime of the coefficients. -/
def prime : Nat := 3329

/-- A root of unity of the degree. -/
def root : Nat := 17

/-- Half the degree is this power of two. -/
def halfDegreeBits : Nat := 7

/-- The number of bits of a written value. -/
def valueBits : Nat := 12

/-- How many bytes are drawn for a polynomial of any values. -/
def uniformLength : Nat := 840

/-- How many bytes are drawn for a polynomial of small coefficients. -/
def boundedLength : Nat := 128

/-- Numbers of twelve bits, those from the prime on left out. -/
def uniformNumbers : Bytes → List Nat
  | low :: middle :: high :: rest =>
      let first := low.toNat + 256 * (middle.toNat % 16)
      let second := middle.toNat / 16 + 16 * high.toNat
      [first, second].filter (· < prime) ++ uniformNumbers rest
  | _ =>
      []

/-- The values of a polynomial from a seed. -/
def uniform (seed : Bytes) : Polynomial :=
  (uniformNumbers (Hash.shake128 uniformLength seed)).take Lattice.degree

/-- The small coefficient of half a byte: two bits are counted up and two down. -/
def boundedNumber (half : Nat) : Nat :=
  let up := half % 2 + half / 2 % 2
  let down := half / 4 % 2 + half / 8
  (prime + up - down) % prime

/-- A polynomial of small coefficients from a seed and a number. -/
def bounded (seed : Bytes) (number : Nat) : Polynomial :=
  let bytes := Hash.shake256 boundedLength (seed ++ [UInt8.ofNat number])
  (Lattice.halves bytes).map boundedNumber

/-- The coefficients in even and in odd places. -/
def unzip : Polynomial → Polynomial × Polynomial
  | even :: odd :: rest =>
      let (evens, odds) := unzip rest
      (even :: evens, odd :: odds)
  | rest =>
      (rest, [])

/-- The values of both halves of a polynomial, in pairs. -/
def values (polynomial : Polynomial) : Polynomial :=
  let (evens, odds) := unzip polynomial
  let transform := Transform.values prime root halfDegreeBits
  ((transform evens).zip (transform odds)).flatMap fun (even, odd) => [even, odd]

/-- The products of pairs of values, each at its point. -/
def multiplyPairs : List Nat → Polynomial → Polynomial → Polynomial
  | point :: points, even :: odd :: left, otherEven :: otherOdd :: right =>
      (even * otherEven + odd * otherOdd % prime * point) % prime ::
        (even * otherOdd + odd * otherEven) % prime ::
        multiplyPairs points left right
  | _, _, _ =>
      []

/-- The public key of a private key. -/
def publicKey (sizes : LatticeEncapsulation) (secret : Bytes) : Bytes :=
  let seeds := Hash.sha3With512Bits (secret.take 32 ++ [UInt8.ofNat sizes.rank])
  let matrixSeed := seeds.take 32
  let draw (number : Nat) : Polynomial := values (bounded (seeds.drop 32) number)
  let first := (List.range sizes.rank).map draw
  let second := (List.range sizes.rank).map fun row => draw (sizes.rank + row)
  let multiply := multiplyPairs (Transform.points prime root halfDegreeBits)
  let products := (Lattice.matrix uniform matrixSeed sizes.rank sizes.rank).map fun row =>
    Lattice.rowProduct prime multiply row first
  let sums := List.zipWith (Lattice.add prime) products second
  sums.flatMap (Lattice.packed valueBits) ++ matrixSeed

end LatticeEncapsulation

end SessionHandshake
