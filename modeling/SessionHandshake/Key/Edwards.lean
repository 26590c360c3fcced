import SessionHandshake.Hash.Sha2
import SessionHandshake.Hash.Sponge
import SessionHandshake.Number.Modular
import SessionHandshake.Number.Multiple

namespace SessionHandshake

/-!
# Signature keys on twisted Edwards curves

The private key is a string of bytes.  Its hash, with some bits fixed, is the
multiple of the base point that the public key is.
-/

/--
A curve `squares * x² + y² = 1 + products * x² * y²` over the integers modulo a
prime, with its base point.
-/
structure EdwardsCurve where
  prime : Nat
  squares : Nat
  products : Nat
  baseX : Nat
  baseY : Nat
  /-- The number of bytes of a private and of a public key. -/
  length : Nat
  /-- The hash of a private key, twice as long. -/
  hash : Bytes → Bytes
  /-- How many of the lowest bits of a multiple are cleared. -/
  clearedBits : Nat
  /-- The highest bit of a multiple, which is always set. -/
  highestBit : Nat

/-- A point of an Edwards curve: there is none at infinity. -/
structure EdwardsPoint where
  x : Nat
  y : Nat
  deriving DecidableEq

namespace EdwardsCurve

/-- The point that changes nothing when it is added. -/
def neutral : EdwardsPoint where
  x := 0
  y := 1

/-- The base point. -/
def base (curve : EdwardsCurve) : EdwardsPoint where
  x := curve.baseX
  y := curve.baseY

/-- The sum of two points; one formula serves for all of them. -/
def add (curve : EdwardsCurve) (left right : EdwardsPoint) : EdwardsPoint :=
  let prime := curve.prime
  let mixed := curve.products * (left.x * right.x % prime) * (left.y * right.y % prime) % prime
  let cross := left.x * right.y + left.y * right.x
  let straight :=
    Modular.subtract (left.y * right.y) (curve.squares * (left.x * right.x)) prime
  {
    x := Modular.divide cross (1 + mixed) prime
    y := Modular.divide straight (Modular.subtract 1 mixed prime) prime
  }

/-- The bytes of a point: the second coordinate, and the parity of the first at the end. -/
def writePoint (curve : EdwardsCurve) (point : EdwardsPoint) : Bytes :=
  let parity := point.x % 2 * Nat.pow 2 (8 * curve.length - 1)
  Hash.littleEndian curve.length (point.y + parity)

/-- The multiple that a private key stands for. -/
def multiplier (curve : EdwardsCurve) (secret : Bytes) : Nat :=
  let number := Hash.numberOf ((curve.hash secret).take curve.length).reverse
  let low := Nat.pow 2 curve.clearedBits
  let high := Nat.pow 2 curve.highestBit
  number % high / low * low + high

/-- The public key of a private key. -/
def publicKey (curve : EdwardsCurve) (secret : Bytes) : Bytes :=
  curve.writePoint
    (multiple curve.add neutral (curve.multiplier secret) curve.base)

/-- The curve of Ed25519 keys. -/
def ed25519 : EdwardsCurve where
  prime := 0x7fffffffffffffffffffffffffffffffffffffffffffffffffffffffffffffed
  squares := 0x7fffffffffffffffffffffffffffffffffffffffffffffffffffffffffffffec
  products := 0x52036cee2b6ffe738cc740797779e89800700a4d4141d8ab75eb4dca135978a3
  baseX := 0x216936d3cd6e53fec0a4e231fdd6dc5c692cc7609525a7b2c9562d608f25d51a
  baseY := 0x6666666666666666666666666666666666666666666666666666666666666658
  length := 32
  hash := Hash.sha512
  clearedBits := 3
  highestBit := 254

/-- The curve of Ed448 keys. -/
def ed448 : EdwardsCurve where
  prime := 0xfffffffffffffffffffffffffffffffffffffffffffffffffffffffeffffffffffffffffffffffffffffffffffffffffffffffffffffffff
  squares := 1
  products := 0xfffffffffffffffffffffffffffffffffffffffffffffffffffffffeffffffffffffffffffffffffffffffffffffffffffffffffffff6756
  baseX := 0x4f1970c66bed0ded221d15a622bf36da9e146570470f1767ea6de324a3d3a46412ae1af72ab66511433b80e18b00938e2626a82bc70cc05e
  baseY := 0x693f46716eb6bc248876203756c9c7624bea73736ca3984087789c1e05a0c2d73ad3ff1ce67c39c4fdbd132c4ed7c8ad9808795bf230fa14
  length := 57
  hash := Hash.shake256 114
  clearedBits := 2
  highestBit := 447

end EdwardsCurve

end SessionHandshake
