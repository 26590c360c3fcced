import SessionHandshake.Key.ObjectIdentifier

namespace SessionHandshake

/-!
# Kinds of keys

Only RSA keys are used in the handshake.  Keys of other kinds are told from
bytes that are no key at all.
-/

/-- The kinds of keys that are a string of bytes of a fixed length. -/
inductive StringKeyKind where
  | ed25519
  | ed448
  | x25519
  | x448
  | mlDsa44
  | mlDsa65
  | mlDsa87
  | mlKem768
  | mlKem1024
  deriving DecidableEq

namespace StringKeyKind

/-- All kinds. -/
def all : List StringKeyKind := [
  .ed25519, .ed448, .x25519, .x448, .mlDsa44, .mlDsa65, .mlDsa87, .mlKem768, .mlKem1024]

/-- The name of a kind. -/
def identifier : StringKeyKind → ObjectIdentifier
  | .x25519 =>
      [1, 3, 101, 110]
  | .x448 =>
      [1, 3, 101, 111]
  | .ed25519 =>
      [1, 3, 101, 112]
  | .ed448 =>
      [1, 3, 101, 113]
  | .mlDsa44 =>
      [2, 16, 840, 1, 101, 3, 4, 3, 17]
  | .mlDsa65 =>
      [2, 16, 840, 1, 101, 3, 4, 3, 18]
  | .mlDsa87 =>
      [2, 16, 840, 1, 101, 3, 4, 3, 19]
  | .mlKem768 =>
      [2, 16, 840, 1, 101, 3, 4, 4, 2]
  | .mlKem1024 =>
      [2, 16, 840, 1, 101, 3, 4, 4, 3]

/-- The number of bytes of a public key. -/
def publicLength : StringKeyKind → Nat
  | .x25519 =>
      32
  | .x448 =>
      56
  | .ed25519 =>
      32
  | .ed448 =>
      57
  | .mlDsa44 =>
      1312
  | .mlDsa65 =>
      1952
  | .mlDsa87 =>
      2592
  | .mlKem768 =>
      1184
  | .mlKem1024 =>
      1568

/-- The number of bytes of a private key. -/
def secretLength : StringKeyKind → Nat
  | .x25519 =>
      32
  | .x448 =>
      56
  | .ed25519 =>
      32
  | .ed448 =>
      57
  | .mlDsa44 =>
      32
  | .mlDsa65 =>
      32
  | .mlDsa87 =>
      32
  | .mlKem768 =>
      64
  | .mlKem1024 =>
      64

/-- The private key is only the seed of a longer one. -/
def hasSeed : StringKeyKind → Bool
  | .mlDsa44 =>
      true
  | .mlDsa65 =>
      true
  | .mlDsa87 =>
      true
  | .mlKem768 =>
      true
  | .mlKem1024 =>
      true
  | _ =>
      false

/-- What a public key of a kind calls itself. -/
def publicName : StringKeyKind → Text
  | .x25519 =>
      "X25519PublicKey"
  | .x448 =>
      "X448PublicKey"
  | .ed25519 =>
      "Ed25519PublicKey"
  | .ed448 =>
      "Ed448PublicKey"
  | .mlDsa44 =>
      "MLDSA44PublicKey"
  | .mlDsa65 =>
      "MLDSA65PublicKey"
  | .mlDsa87 =>
      "MLDSA87PublicKey"
  | .mlKem768 =>
      "MLKEM768PublicKey"
  | .mlKem1024 =>
      "MLKEM1024PublicKey"

/-- The kind with a name. -/
def named? (identifier : ObjectIdentifier) : Option StringKeyKind :=
  all.find? (fun kind => kind.identifier = identifier)

end StringKeyKind

/-- The kinds of keys that can be read but not used. -/
inductive OtherKey where
  | ellipticCurve
  | digitalSignature
  | agreement
  | string (kind : StringKeyKind)
  deriving DecidableEq

/-- What a public key of a kind calls itself. -/
def OtherKey.name : OtherKey → Text
  | .ellipticCurve =>
      "ECPublicKey"
  | .digitalSignature =>
      "DSAPublicKey"
  | .agreement =>
      "DHPublicKey"
  | .string kind =>
      kind.publicName

end SessionHandshake
