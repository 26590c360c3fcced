import SessionHandshake.Key.Lattice

namespace SessionHandshake

/-!
# Signature keys over lattices

The private key is a seed.  The public key is the seed of the matrix, and the
product without the lowest bits of its coefficients.
-/

/-- The size of the matrix and of the secret coefficients. -/
structure LatticeSignature where
  rows : Nat
  columns : Nat
  /-- The greatest size of a secret coefficient. -/
  bound : Nat

namespace LatticeSignature

/-- The keys of ML-DSA-44. -/
def mlDsa44 : LatticeSignature where
  rows := 4
  columns := 4
  bound := 2

/-- The keys of ML-DSA-65. -/
def mlDsa65 : LatticeSignature where
  rows := 6
  columns := 5
  bound := 4

/-- The keys of ML-DSA-87. -/
def mlDsa87 : LatticeSignature where
  rows := 8
  columns := 7
  bound := 2

/-- The prime of the coefficients. -/
def prime : Nat := 8380417

/-- A root of unity of twice the degree. -/
def root : Nat := 1753

/-- The degree is this power of two. -/
def degreeBits : Nat := 8

/-- How many of the lowest bits of a coefficient the public key leaves out. -/
def droppedBits : Nat := 13

/-- How many bits of a coefficient the public key keeps. -/
def keptBits : Nat := 10

/-- How many bytes are drawn for a polynomial of any coefficients. -/
def uniformLength : Nat := 894

/-- How many bytes are drawn for a polynomial of small coefficients. -/
def boundedLength : Nat := 481

/-- Numbers of twenty-three bits, those from the prime on left out. -/
def uniformNumbers : Bytes → List Nat
  | low :: middle :: high :: rest =>
      let number := low.toNat + 256 * middle.toNat + 65536 * (high.toNat % 128)
      if number < prime then
        number :: uniformNumbers rest
      else
        uniformNumbers rest
  | _ =>
      []

/-- A polynomial of any coefficients from a seed. -/
def uniform (seed : Bytes) : Polynomial :=
  (uniformNumbers (Hash.shake128 uniformLength seed)).take Lattice.degree

/-- The small coefficient that half a byte stands for, if it stands for one. -/
def boundedNumber? (bound half : Nat) : Option Nat :=
  let size := 2 * bound + 1
  if half < 15 / size * size then
    some ((prime + bound - half % size) % prime)
  else
    none

/-- A polynomial of small coefficients from a seed and a number. -/
def bounded (bound : Nat) (seed : Bytes) (number : Nat) : Polynomial :=
  let bytes := Hash.shake256 boundedLength (seed ++ Hash.littleEndian 2 number)
  ((Lattice.halves bytes).filterMap (boundedNumber? bound)).take Lattice.degree

/-- The highest bits of a coefficient: the nearest multiple of what the lowest can hold. -/
def highBits (coefficient : Nat) : Nat :=
  let unit := Nat.pow 2 droppedBits
  (coefficient + unit / 2 - 1) / unit

/-- The public key of a private key. -/
def publicKey (sizes : LatticeSignature) (secret : Bytes) : Bytes :=
  let seeds := Hash.shake256 96
    (secret ++ [UInt8.ofNat sizes.rows, UInt8.ofNat sizes.columns])
  let matrixSeed := seeds.take 32
  let draw := bounded sizes.bound (seeds.drop 32)
  let first := (List.range sizes.columns).map draw
  let second := (List.range sizes.rows).map fun row => draw (sizes.columns + row)
  let values := first.map (Transform.values prime root degreeBits)
  let products := (Lattice.matrix uniform matrixSeed sizes.rows sizes.columns).map fun row =>
    Transform.coefficients prime root degreeBits
      (Lattice.rowProduct prime (Lattice.multiplyValues prime) row values)
  let sums := List.zipWith (Lattice.add prime) products second
  matrixSeed ++ sums.flatMap fun sum => Lattice.packed keptBits (sum.map highBits)

end LatticeSignature

end SessionHandshake
