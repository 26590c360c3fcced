import SessionHandshake.Fault.Basic
import SessionHandshake.Key.Algorithm

namespace SessionHandshake

/-!
# Public keys

A server sends its public key in distinguished encoding, wrapped with the name
of its algorithm or bare.  Only an RSA key can be used, and every ciphertext of
the handshake has the length of a 1024-bit modulus.
-/

/-- The size of the keys of the handshake in bits. -/
def handshakeKeySize : Nat := 1024

/-- The length of a ciphertext of the handshake in bytes. -/
def handshakeCiphertextLength : Nat := handshakeKeySize / 8

/-- What bytes are that are a public key of some kind. -/
inductive ParsedKey where
  | rsa (key : RsaPublicKey)
  | other (key : OtherKey)

namespace ParsedKey

/-- The fault of bytes that are no key. -/
def unreadable : Fault := .badValue .unspecified

/-- A key of a kind that is read but not used, if its bytes are such a key. -/
def checked (isKey : Bool) (key : OtherKey) : Except Fault ParsedKey :=
  if isKey then
    .ok (.other key)
  else
    .error unreadable

/-- A bare RSA key: modulus and exponent. -/
def ofBareRsa? (bytes : Bytes) : Option RsaPublicKey :=
  match (Der.element? bytes).bind DerElement.members? with
  | some [modulus, exponent] =>
      match modulus.natural?, exponent.natural? with
      | some modulus, some exponent =>
          let key : RsaPublicKey := { modulus := modulus, exponent := exponent }
          if key.isValid then
            some key
          else
            none
      | _, _ =>
          none
  | _ =>
      none

/-- Bytes are one element that is a number. -/
def isWrittenNumber (bytes : Bytes) : Bool :=
  ((Der.element? bytes).bind DerElement.natural?).isSome

/-- The key of an algorithm from the bytes of the key. -/
def ofAlgorithm (algorithm : Algorithm) (bytes : Bytes) : Except Fault ParsedKey :=
  match algorithm with
  | .rsa =>
      match ofBareRsa? bytes with
      | some key =>
          .ok (.rsa key)
      | none =>
          .error unreadable
  | .curve parameters =>
      match parameters.curve? with
      | some curve =>
          checked (curve.isPoint bytes) .ellipticCurve
      | none =>
          .error .unknownAlgorithm
  | .signature _ =>
      checked (isWrittenNumber bytes) .digitalSignature
  | .agreement group =>
      checked (group.isUsableForAgreement && isWrittenNumber bytes) .agreement
  | .string kind =>
      checked (bytes.length = kind.publicLength) (.string kind)
  | .other =>
      .error .unknownAlgorithm

/-- A key wrapped with the name of its algorithm. -/
def ofWrapped (bytes : Bytes) : Except Fault ParsedKey :=
  match (Der.element? bytes).bind DerElement.members? with
  | some [algorithm, content] =>
      match Algorithm.ofElement? algorithm, content.wholeBits? with
      | some algorithm, some bytes =>
          ofAlgorithm algorithm bytes
      | _, _ =>
          .error unreadable
  | _ =>
      .error unreadable

/-- The key that bytes are, wrapped or else bare. -/
def ofBytes (bytes : Bytes) : Except Fault ParsedKey :=
  match ofWrapped bytes with
  | .ok key =>
      .ok key
  | .error fault =>
      match ofBareRsa? bytes with
      | some key =>
          .ok (.rsa key)
      | none =>
          .error fault

end ParsedKey

/-- An RSA key together with the bytes from which it was read. -/
structure PublicKey where
  key : RsaPublicKey
  der : Bytes
  deriving DecidableEq

namespace PublicKey

/-- The number of bits of the modulus. -/
def keySize (publicKey : PublicKey) : Nat :=
  publicKey.key.keySize

/-- The key of bytes, which must be an RSA key. -/
def ofBytes (bytes : Bytes) : Except Fault PublicKey :=
  match ParsedKey.ofBytes bytes with
  | .ok (.rsa key) =>
      .ok { key := key, der := bytes }
  | .ok (.other key) =>
      .error (.invalidPublicKey (.notRsa key) none)
  | .error .unknownAlgorithm =>
      .error (.invalidPublicKey .unknownAlgorithm (some .unknownAlgorithm))
  | .error fault =>
      .error (.invalidPublicKey .unreadable (some fault))

/-- The key of a value of any type. -/
def ofValue (value : Value) : Except Fault PublicKey :=
  match value.toBytes? with
  | some bytes =>
      ofBytes bytes
  | none =>
      .error (.invalidPublicKey .unreadable (some .wrongType))

/-- A message encrypted for the handshake, whose ciphertexts have one length. -/
def encryptBytes
    (publicKey : PublicKey)
    (padding : PaddingSource)
    (message : Bytes) :
    Except Fault Bytes :=
  match publicKey.key.encrypt? padding message with
  | none =>
      .error (.encryptionFailed (.encryption message.length) (some (.badValue .unspecified)))
  | some ciphertext =>
      if ciphertext.length = handshakeCiphertextLength then
        .ok ciphertext
      else
        .error (.encryptionFailed
          (.ciphertextLength handshakeCiphertextLength ciphertext.length) none)

/--
A value of any type encrypted: only unchanging bytes can be.

The fault names the length of the value, so a value without one is of the wrong
type for the fault as well.
-/
def encrypt
    (publicKey : PublicKey)
    (padding : PaddingSource)
    (message : Value) :
    Except Fault Bytes :=
  match message with
  | .bytes content =>
      publicKey.encryptBytes padding content
  | other =>
      match other.length? with
      | some length =>
          .error (.encryptionFailed (.encryption length) (some .wrongType))
      | none =>
          .error .wrongType

end PublicKey

end SessionHandshake
