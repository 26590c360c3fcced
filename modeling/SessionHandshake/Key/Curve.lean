import SessionHandshake.Key.ObjectIdentifier
import SessionHandshake.Number.Modular
import SessionHandshake.Number.Multiple

namespace SessionHandshake

/-!
# Elliptic curves

The points of `y² = x³ + linear * x + constant` over the integers modulo a
prime, together with one at infinity, can be added.  A private key is a number;
its public key is the point that many times the base point.
-/

/-- A curve, its base point, and the number of points that multiples of it reach. -/
structure Curve where
  /-- The name of the curve. -/
  identifier : ObjectIdentifier
  prime : Nat
  linear : Nat
  constant : Nat
  baseX : Nat
  baseY : Nat
  /-- The least positive multiple of the base point that is the point at infinity. -/
  order : Nat
  /-- What a description of the curve in full may name as the seed of its constants. -/
  seed : Bytes
  deriving DecidableEq

/-- A point of a curve. -/
inductive CurvePoint where
  | infinity
  | affine (x y : Nat)
  deriving DecidableEq

namespace Curve

/-! ## Known curves -/

/-- The curve P-192. -/
def nist192 : Curve where
  identifier := [1, 2, 840, 10045, 3, 1, 1]
  prime := 0xfffffffffffffffffffffffffffffffeffffffffffffffff
  linear := 0xfffffffffffffffffffffffffffffffefffffffffffffffc
  constant := 0x64210519e59c80e70fa7e9ab72243049feb8deecc146b9b1
  baseX := 0x188da80eb03090f67cbf20eb43a18800f4ff0afd82ff1012
  baseY := 0x7192b95ffc8da78631011ed6b24cdd573f977a11e794811
  order := 0xffffffffffffffffffffffff99def836146bc9b1b4d22831
  seed := []

/-- The curve P-224. -/
def nist224 : Curve where
  identifier := [1, 3, 132, 0, 33]
  prime := 0xffffffffffffffffffffffffffffffff000000000000000000000001
  linear := 0xfffffffffffffffffffffffffffffffefffffffffffffffffffffffe
  constant := 0xb4050a850c04b3abf54132565044b0b7d7bfd8ba270b39432355ffb4
  baseX := 0xb70e0cbd6bb4bf7f321390b94a03c1d356c21122343280d6115c1d21
  baseY := 0xbd376388b5f723fb4c22dfe6cd4375a05a07476444d5819985007e34
  order := 0xffffffffffffffffffffffffffff16a2e0b8f03e13dd29455c5c2a3d
  seed := []

/-- The curve P-256. -/
def nist256 : Curve where
  identifier := [1, 2, 840, 10045, 3, 1, 7]
  prime := 0xffffffff00000001000000000000000000000000ffffffffffffffffffffffff
  linear := 0xffffffff00000001000000000000000000000000fffffffffffffffffffffffc
  constant := 0x5ac635d8aa3a93e7b3ebbd55769886bc651d06b0cc53b0f63bce3c3e27d2604b
  baseX := 0x6b17d1f2e12c4247f8bce6e563a440f277037d812deb33a0f4a13945d898c296
  baseY := 0x4fe342e2fe1a7f9b8ee7eb4a7c0f9e162bce33576b315ececbb6406837bf51f5
  order := 0xffffffff00000000ffffffffffffffffbce6faada7179e84f3b9cac2fc632551
  seed := [
    0xc4, 0x9d, 0x36, 0x08, 0x86, 0xe7, 0x04, 0x93, 0x6a, 0x66, 0x78, 0xe1,
    0x13, 0x9d, 0x26, 0xb7, 0x81, 0x9f, 0x7e, 0x90]

/-- The curve P-384. -/
def nist384 : Curve where
  identifier := [1, 3, 132, 0, 34]
  prime := 0xfffffffffffffffffffffffffffffffffffffffffffffffffffffffffffffffeffffffff0000000000000000ffffffff
  linear := 0xfffffffffffffffffffffffffffffffffffffffffffffffffffffffffffffffeffffffff0000000000000000fffffffc
  constant := 0xb3312fa7e23ee7e4988e056be3f82d19181d9c6efe8141120314088f5013875ac656398d8a2ed19d2a85c8edd3ec2aef
  baseX := 0xaa87ca22be8b05378eb1c71ef320ad746e1d3b628ba79b9859f741e082542a385502f25dbf55296c3a545e3872760ab7
  baseY := 0x3617de4a96262c6f5d9e98bf9292dc29f8f41dbd289a147ce9da3113b5f0b8c00a60b1ce1d7e819d7a431d7c90ea0e5f
  order := 0xffffffffffffffffffffffffffffffffffffffffffffffffc7634d81f4372ddf581a0db248b0a77aecec196accc52973
  seed := [
    0xa3, 0x35, 0x92, 0x6a, 0xa3, 0x19, 0xa2, 0x7a, 0x1d, 0x00, 0x89, 0x6a,
    0x67, 0x73, 0xa4, 0x82, 0x7a, 0xcd, 0xac, 0x73]

/-- The curve P-521. -/
def nist521 : Curve where
  identifier := [1, 3, 132, 0, 35]
  prime := 0x1ffffffffffffffffffffffffffffffffffffffffffffffffffffffffffffffffffffffffffffffffffffffffffffffffffffffffffffffffffffffffffffffffff
  linear := 0x1fffffffffffffffffffffffffffffffffffffffffffffffffffffffffffffffffffffffffffffffffffffffffffffffffffffffffffffffffffffffffffffffffc
  constant := 0x51953eb9618e1c9a1f929a21a0b68540eea2da725b99b315f3b8b489918ef109e156193951ec7e937b1652c0bd3bb1bf073573df883d2c34f1ef451fd46b503f00
  baseX := 0xc6858e06b70404e9cd9e3ecb662395b4429c648139053fb521f828af606b4d3dbaa14b5e77efe75928fe1dc127a2ffa8de3348b3c1856a429bf97e7e31c2e5bd66
  baseY := 0x11839296a789a3bc0045c8a5fb42c7d1bd998f54449579b446817afbd17273e662c97ee72995ef42640c550b9013fad0761353c7086a272c24088be94769fd16650
  order := 0x1fffffffffffffffffffffffffffffffffffffffffffffffffffffffffffffffffa51868783bf2f966b7fcc0148f709a5d03bb5c9b8899c47aebb6fb71e91386409
  seed := [
    0xd0, 0x9e, 0x88, 0x00, 0x29, 0x1c, 0xb8, 0x53, 0x96, 0xcc, 0x67, 0x17,
    0x39, 0x32, 0x84, 0xaa, 0xa0, 0xda, 0x64, 0xba]

/-- The curve secp256k1. -/
def koblitz256 : Curve where
  identifier := [1, 3, 132, 0, 10]
  prime := 0xfffffffffffffffffffffffffffffffffffffffffffffffffffffffefffffc2f
  linear := 0x0
  constant := 0x7
  baseX := 0x79be667ef9dcbbac55a06295ce870b07029bfcdb2dce28d959f2815b16f81798
  baseY := 0x483ada7726a3c4655da4fbfc0e1108a8fd17b448a68554199c47d08ffb10d4b8
  order := 0xfffffffffffffffffffffffffffffffebaaedce6af48a03bbfd25e8cd0364141
  seed := []

/-- The curve brainpoolP256r1. -/
def brainpool256 : Curve where
  identifier := [1, 3, 36, 3, 3, 2, 8, 1, 1, 7]
  prime := 0xa9fb57dba1eea9bc3e660a909d838d726e3bf623d52620282013481d1f6e5377
  linear := 0x7d5a0975fc2c3057eef67530417affe7fb8055c126dc5c6ce94a4b44f330b5d9
  constant := 0x26dc5c6ce94a4b44f330b5d9bbd77cbf958416295cf7e1ce6bccdc18ff8c07b6
  baseX := 0x8bd2aeb9cb7e57cb2c4b482ffc81b7afb9de27e1e3bd23c23a4453bd9ace3262
  baseY := 0x547ef835c3dac4fd97f8461a14611dc9c27745132ded8e545c1d54c72f046997
  order := 0xa9fb57dba1eea9bc3e660a909d838d718c397aa3b561a6f7901e0e82974856a7
  seed := []

/-- The curve brainpoolP384r1. -/
def brainpool384 : Curve where
  identifier := [1, 3, 36, 3, 3, 2, 8, 1, 1, 11]
  prime := 0x8cb91e82a3386d280f5d6f7e50e641df152f7109ed5456b412b1da197fb71123acd3a729901d1a71874700133107ec53
  linear := 0x7bc382c63d8c150c3c72080ace05afa0c2bea28e4fb22787139165efba91f90f8aa5814a503ad4eb04a8c7dd22ce2826
  constant := 0x4a8c7dd22ce28268b39b55416f0447c2fb77de107dcd2a62e880ea53eeb62d57cb4390295dbc9943ab78696fa504c11
  baseX := 0x1d1c64f068cf45ffa2a63a81b7c13f6b8847a3e77ef14fe3db7fcafe0cbd10e8e826e03436d646aaef87b2e247d4af1e
  baseY := 0x8abe1d7520f9c2a45cb1eb8e95cfd55262b70b29feec5864e19c054ff99129280e4646217791811142820341263c5315
  order := 0x8cb91e82a3386d280f5d6f7e50e641df152f7109ed5456b31f166e6cac0425a7cf3ab6af6b7fc3103b883202e9046565
  seed := []

/-- The curve brainpoolP512r1. -/
def brainpool512 : Curve where
  identifier := [1, 3, 36, 3, 3, 2, 8, 1, 1, 13]
  prime := 0xaadd9db8dbe9c48b3fd4e6ae33c9fc07cb308db3b3c9d20ed6639cca703308717d4d9b009bc66842aecda12ae6a380e62881ff2f2d82c68528aa6056583a48f3
  linear := 0x7830a3318b603b89e2327145ac234cc594cbdd8d3df91610a83441caea9863bc2ded5d5aa8253aa10a2ef1c98b9ac8b57f1117a72bf2c7b9e7c1ac4d77fc94ca
  constant := 0x3df91610a83441caea9863bc2ded5d5aa8253aa10a2ef1c98b9ac8b57f1117a72bf2c7b9e7c1ac4d77fc94cadc083e67984050b75ebae5dd2809bd638016f723
  baseX := 0x81aee4bdd82ed9645a21322e9c4c6a9385ed9f70b5d916c1b43b62eef4d0098eff3b1f78e2d0d48d50d1687b93b97d5f7c6d5047406a5e688b352209bcb9f822
  baseY := 0x7dde385d566332ecc0eabfa9cf7822fdf209f70024a57b1aa000c55b881f8111b2dcde494a5f485e5bca4bd88a2763aed1ca2b2fa8f0540678cd1e0f3ad80892
  order := 0xaadd9db8dbe9c48b3fd4e6ae33c9fc07cb308db3b3c9d20ed6639cca70330870553e5c414ca92619418661197fac10471db1d381085ddaddb58796829ca90069
  seed := []

/-- The curves whose keys are recognised. -/
def known : List Curve := [
  nist192, nist224, nist256, nist384, nist521, koblitz256, brainpool256, brainpool384,
  brainpool512]

/-- The curve that an object identifier names. -/
def named? (identifier : ObjectIdentifier) : Option Curve :=
  known.find? (fun curve => curve.identifier = identifier)

/-! ## Points -/

/-- The base point, of which public keys are multiples. -/
def base (curve : Curve) : CurvePoint :=
  .affine curve.baseX curve.baseY

/-- The right-hand side of the equation of the curve. -/
def cubic (curve : Curve) (x : Nat) : Nat :=
  (x * x * x + curve.linear * x + curve.constant) % curve.prime

/-- The point with two coordinates lies on the curve. -/
def contains (curve : Curve) (x y : Nat) : Bool :=
  x < curve.prime && y < curve.prime && y * y % curve.prime = curve.cubic x

/-- The third point of a line with a slope, mirrored: the sum of the other two. -/
def alongLine (curve : Curve) (slope firstX firstY secondX : Nat) : CurvePoint :=
  let x := Modular.subtract (slope * slope) (firstX + secondX) curve.prime
  let y := Modular.subtract (slope * Modular.subtract firstX x curve.prime) firstY curve.prime
  .affine x y

/--
The sum of two points.

The line through them meets the curve once more, at the sum mirrored; a point
and itself have their tangent as that line, and a point and its mirror image add
up to infinity.
-/
def add (curve : Curve) : CurvePoint → CurvePoint → CurvePoint
  | .infinity, right =>
      right
  | left, .infinity =>
      left
  | .affine firstX firstY, .affine secondX secondY =>
      if firstX ≠ secondX then
        let rise := Modular.subtract secondY firstY curve.prime
        let run := Modular.subtract secondX firstX curve.prime
        curve.alongLine (Modular.divide rise run curve.prime) firstX firstY secondX
      else if (firstY + secondY) % curve.prime = 0 then
        .infinity
      else
        let rise := 3 * firstX * firstX + curve.linear
        curve.alongLine (Modular.divide rise (2 * firstY) curve.prime) firstX firstY secondX

/-- So many times the base point. -/
def baseMultiple (curve : Curve) (count : Nat) : CurvePoint :=
  multiple curve.add .infinity count curve.base

/-! ## Points as bytes -/

/-- The number of bytes of a coordinate. -/
def coordinateLength (curve : Curve) : Nat :=
  (curve.prime.log2 + 8) / 8

/-- The number of bytes of a private key. -/
def secretLength (curve : Curve) : Nat :=
  (curve.order.log2 + 8) / 8

/-- Some point with a first coordinate, and a second one of given parity, exists. -/
def containsAbove (curve : Curve) (x : Nat) (isOdd : Bool) : Bool :=
  let square := curve.cubic x
  x < curve.prime &&
    (if square = 0 then
      !isOdd
    else
      Modular.power square ((curve.prime - 1) / 2) curve.prime = 1)

/--
Bytes are a point of the curve other than the one at infinity.

The first byte says whether both coordinates follow, or the first one alone
with the parity of the second, or both of them with that parity.
-/
def isPoint (curve : Curve) (bytes : Bytes) : Bool :=
  match bytes with
  | [] =>
      false
  | form :: coordinates =>
      let length := curve.coordinateLength
      let x := Hash.numberOf (coordinates.take length)
      let y := Hash.numberOf (coordinates.drop length)
      let isOdd := form.toNat % 2 = 1
      if form = 2 ∨ form = 3 then
        coordinates.length = length && curve.containsAbove x isOdd
      else if form = 4 then
        coordinates.length = 2 * length && curve.contains x y
      else if form = 6 ∨ form = 7 then
        coordinates.length = 2 * length && curve.contains x y &&
          decide (isOdd ↔ y % 2 = 1)
      else
        false

/-- A point with both coordinates written out. -/
def writePoint (curve : Curve) : CurvePoint → Bytes
  | .infinity =>
      [0]
  | .affine x y =>
      let length := curve.coordinateLength
      4 :: Hash.bigEndian length x ++ Hash.bigEndian length y

/-- All the ways to write a point: in full, shortened to a parity, and with both. -/
def writings (curve : Curve) (point : CurvePoint) : List Bytes :=
  match point with
  | .infinity =>
      [curve.writePoint point]
  | .affine x y =>
      let length := curve.coordinateLength
      let parity := UInt8.ofNat (y % 2)
      let coordinates := Hash.bigEndian length x ++ Hash.bigEndian length y
      [4 :: coordinates, (2 + parity) :: coordinates.take length, (6 + parity) :: coordinates]

end Curve

end SessionHandshake
