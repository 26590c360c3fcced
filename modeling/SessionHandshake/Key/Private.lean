import SessionHandshake.Fault.Basic
import SessionHandshake.Key.Algorithm
import SessionHandshake.Key.Edwards
import SessionHandshake.Key.LatticeEncapsulation
import SessionHandshake.Key.LatticeSignature
import SessionHandshake.Key.Montgomery

namespace SessionHandshake

/-!
# Private keys

A private key is read wrapped with the name of its algorithm, or bare in the
form of its kind, and always written wrapped.  Its public key follows from it
and is written in the same way.
-/

/-- A private key on a curve, with its public key. -/
structure CurvePrivateKey where
  curve : Curve
  secret : Nat
  point : CurvePoint
  deriving DecidableEq

/-- A private key in a group, with its public key. -/
structure GroupPrivateKey where
  group : PrimeGroup
  secret : Nat
  power : Nat
  deriving DecidableEq

/-- A private key of any kind. -/
inductive PrivateKey where
  | rsa (key : RsaPrivateKey)
  | curve (key : CurvePrivateKey)
  | signature (key : GroupPrivateKey)
  | agreement (key : GroupPrivateKey)
  | string (kind : StringKeyKind) (secret : Bytes)
  deriving DecidableEq

namespace CurvePrivateKey

/-- The version that a bare key on a curve begins with. -/
def currentVersion : Nat := 1

/-- What may follow the number of a bare key: its curve and its public key. -/
structure Extras where
  parameters : Option CurveParameters
  point : Option Bytes

/-- The curve and the public key that elements hold, each at its place. -/
def extras? (elements : List DerElement) : Option Extras :=
  let parameters? (element : DerElement) : Option CurveParameters :=
    (element.enclosed? (DerTag.enclosing 0)).bind CurveParameters.ofElement?
  let point? (element : DerElement) : Option Bytes :=
    (element.enclosed? (DerTag.enclosing 1)).bind DerElement.bits?
  match elements with
  | [] =>
      some { parameters := none, point := none }
  | [element] =>
      match parameters? element, point? element with
      | some parameters, _ =>
          some { parameters := some parameters, point := none }
      | none, some point =>
          some { parameters := none, point := some point }
      | none, none =>
          none
  | [first, second] =>
      match parameters? first, point? second with
      | some parameters, some point =>
          some { parameters := some parameters, point := some point }
      | _, _ =>
          none
  | _ =>
      none

/-- The parameters on which two places agree, of which one may say nothing. -/
def agreed? (outer inner : Option CurveParameters) : Option CurveParameters :=
  match outer, inner with
  | some outer, some inner =>
      if outer = inner then some outer else none
  | some outer, none =>
      some outer
  | none, inner =>
      inner

/--
The key of a number on a curve.

The number is as long as the order of the curve, less than it and not zero; a
public key that is given must be the one that follows.
-/
def ofSecret? (curve : Curve) (secret : Bytes) (given : Option Bytes) : Option CurvePrivateKey :=
  let number := Hash.numberOf secret
  if secret.length = curve.secretLength ∧ 0 < number ∧ number < curve.order then
    let point := curve.baseMultiple number
    if given.all ((curve.writings point).contains ·) then
      some { curve := curve, secret := number, point := point }
    else
      none
  else
    none

/-- The key that bytes are, on the curve that was named with it or that they name. -/
def ofBare (outer : Option CurveParameters) (bytes : Bytes) : Except Fault CurvePrivateKey :=
  match (Der.element? bytes).bind DerElement.members? with
  | some (version :: secret :: rest) =>
      match version.natural?, secret.bytes?, extras? rest with
      | some version, some secret, some extras =>
          match agreed? outer extras.parameters with
          | some parameters =>
              if version = currentVersion then
                match parameters.curve? with
                | some curve =>
                    match ofSecret? curve secret extras.point with
                    | some key =>
                        .ok key
                    | none =>
                        .error (.badValue .unspecified)
                | none =>
                    .error .unknownAlgorithm
              else
                .error (.badValue .unspecified)
          | none =>
              .error (.badValue .unspecified)
      | _, _, _ =>
          .error (.badValue .unspecified)
  | _ =>
      .error (.badValue .unspecified)

/-- The bytes of the public key. -/
def publicBytes (key : CurvePrivateKey) : Bytes :=
  key.curve.writePoint key.point

/-- The bare key with its public key and without its curve. -/
def bareBytes (key : CurvePrivateKey) : Bytes :=
  Der.writeSequence [
    Der.writeNatural currentVersion,
    Der.writeBytes (Hash.bigEndian key.curve.secretLength key.secret),
    Der.writeElement (DerTag.enclosing 1) (Der.writeBits key.publicBytes)]

end CurvePrivateKey

namespace GroupPrivateKey

/-- The key of a number in a group. -/
def ofSecret (group : PrimeGroup) (secret : Nat) : GroupPrivateKey where
  group := group
  secret := secret
  power := group.powerOf secret

/-- The key of a written number in a group; there are no powers modulo zero. -/
def ofBytes? (group : PrimeGroup) (bytes : Bytes) : Option GroupPrivateKey :=
  if group.prime = 0 then
    none
  else
    ((Der.element? bytes).bind DerElement.natural?).map (ofSecret group)

/-- A bare key for signatures: a version of zero, the group, public and private key. -/
def ofBareSignature? (bytes : Bytes) : Option GroupPrivateKey :=
  match ((Der.element? bytes).bind DerElement.members?).bind (·.mapM DerElement.natural?) with
  | some [version, prime, order, generator, power, secret] =>
      if version = 0 then
        some {
          group := { prime := prime, generator := generator, order := some order }
          secret := secret
          power := power
        }
      else
        none
  | _ =>
      none

end GroupPrivateKey

namespace RsaPrivateKey

/-- The key that bytes are: its numbers after a version of zero, which belong together. -/
def ofBare? (isPrime : PrimalityCheck) (bytes : Bytes) : Option RsaPrivateKey :=
  match ((Der.element? bytes).bind DerElement.members?).bind (·.mapM DerElement.natural?) with
  | some [version, modulus, publicExponent, privateExponent, firstPrime, secondPrime,
      firstExponent, secondExponent, coefficient] =>
      let key : RsaPrivateKey := {
        modulus := modulus
        publicExponent := publicExponent
        privateExponent := privateExponent
        firstPrime := firstPrime
        secondPrime := secondPrime
        firstExponent := firstExponent
        secondExponent := secondExponent
        coefficient := coefficient
      }
      if version = 0 ∧ key.isConsistent isPrime then
        some key
      else
        none
  | _ =>
      none

/-- The numbers of the public key. -/
def publicBytes (key : RsaPrivateKey) : Bytes :=
  Der.writeSequence (List.map Der.writeNatural [key.modulus, key.publicExponent])

/-- The numbers of the key after a version of zero. -/
def bareBytes (key : RsaPrivateKey) : Bytes :=
  Der.writeSequence (List.map Der.writeNatural (0 :: key.numbers))

end RsaPrivateKey

namespace StringKeyKind

/-- The public key of a private key. -/
def publicKey (kind : StringKeyKind) (secret : Bytes) : Bytes :=
  match kind with
  | .ed25519 =>
      EdwardsCurve.ed25519.publicKey secret
  | .ed448 =>
      EdwardsCurve.ed448.publicKey secret
  | .x25519 =>
      MontgomeryCurve.x25519.publicKey secret
  | .x448 =>
      MontgomeryCurve.x448.publicKey secret
  | .mlDsa44 =>
      LatticeSignature.mlDsa44.publicKey secret
  | .mlDsa65 =>
      LatticeSignature.mlDsa65.publicKey secret
  | .mlDsa87 =>
      LatticeSignature.mlDsa87.publicKey secret
  | .mlKem768 =>
      LatticeEncapsulation.mlKem768.publicKey secret
  | .mlKem1024 =>
      LatticeEncapsulation.mlKem1024.publicKey secret

/-- The tag of a bare private key, which says that it is a seed where it is one. -/
def secretTag (kind : StringKeyKind) : DerTag :=
  if kind.hasSeed then DerTag.place 0 else DerTag.byteString

end StringKeyKind

namespace PrivateKey

/-! ## Reading -/

/-- The fault of bytes that are no private key. -/
def unreadable : Fault := .badValue .unspecified

/-- The key that was found, or the fault that none was. -/
def orUnreadable (found : Option PrivateKey) : Except Fault PrivateKey :=
  match found with
  | some key =>
      .ok key
  | none =>
      .error unreadable

/-- The private key of an algorithm from the bytes of the key. -/
def ofAlgorithm
    (isPrime : PrimalityCheck)
    (algorithm : Algorithm)
    (bytes : Bytes) :
    Except Fault PrivateKey :=
  match algorithm with
  | .rsa =>
      orUnreadable ((RsaPrivateKey.ofBare? isPrime bytes).map .rsa)
  | .curve parameters =>
      (CurvePrivateKey.ofBare (some parameters) bytes).map .curve
  | .signature group =>
      orUnreadable ((GroupPrivateKey.ofBytes? group bytes).map .signature)
  | .agreement group =>
      if group.isUsableForAgreement then
        orUnreadable ((GroupPrivateKey.ofBytes? group bytes).map .agreement)
      else
        .error unreadable
  | .string kind =>
      match Der.element? bytes with
      | some element =>
          if element.tag = kind.secretTag ∧ element.content.length = kind.secretLength then
            .ok (.string kind element.content)
          else
            .error unreadable
      | none =>
          .error unreadable
  | .other =>
      .error .unknownAlgorithm

/-- An attribute of a wrapped key: its name and a set of values. -/
def isAttribute (element : DerElement) : Bool :=
  match element.members? with
  | some [identifier, values] =>
      identifier.identifier?.isSome && values.tag = DerTag.set &&
        (DerElement.ofSet? values.content).isSome
  | _ =>
      false

/-- What may follow a wrapped private key: nothing, or a set of attributes. -/
def areAttributes (elements : List DerElement) : Bool :=
  match elements with
  | [] =>
      true
  | [attributes] =>
      attributes.tag = DerTag.enclosing 0 &&
        (DerElement.ofSet? attributes.content).any (·.all isAttribute)
  | _ =>
      false

/-- A private key wrapped with the name of its algorithm after a version of zero. -/
def ofWrapped (isPrime : PrimalityCheck) (bytes : Bytes) : Except Fault PrivateKey :=
  match (Der.element? bytes).bind DerElement.members? with
  | some (version :: algorithm :: content :: attributes) =>
      match Algorithm.ofElement? algorithm, content.bytes? with
      | some algorithm, some bytes =>
          if version.natural? = some 0 ∧ areAttributes attributes then
            ofAlgorithm isPrime algorithm bytes
          else
            .error unreadable
      | _, _ =>
          .error unreadable
  | _ =>
      .error unreadable

/-- A private key that says nothing of its algorithm. -/
def ofBare? (isPrime : PrimalityCheck) (bytes : Bytes) : Option PrivateKey :=
  match CurvePrivateKey.ofBare none bytes with
  | .ok key =>
      some (.curve key)
  | .error _ =>
      ((RsaPrivateKey.ofBare? isPrime bytes).map .rsa).or
        ((GroupPrivateKey.ofBareSignature? bytes).map .signature)

/-- Bytes are a private key that a password protects. -/
def isEncrypted (bytes : Bytes) : Bool :=
  match (Der.element? bytes).bind DerElement.members? with
  | some [algorithm, content] =>
      (Algorithm.ofElement? algorithm).isSome && content.bytes?.isSome
  | _ =>
      false

/--
The private key that bytes are, wrapped or else bare.

A key that a password protects is of the wrong type, since there is no password
to give; the fault of any other bytes is that they are no wrapped key.
-/
def ofBytes (isPrime : PrimalityCheck) (bytes : Bytes) : Except Fault PrivateKey :=
  match ofWrapped isPrime bytes with
  | .ok key =>
      .ok key
  | .error fault =>
      match ofBare? isPrime bytes with
      | some key =>
          .ok key
      | none =>
          if isEncrypted bytes then
            .error .wrongType
          else
            .error fault

/-! ## Writing -/

/-- The name of the algorithm of a key, with its parameters. -/
def algorithm : PrivateKey → Bytes
  | .rsa _ =>
      Algorithm.writeRsa
  | .curve key =>
      Algorithm.writeCurve key.curve
  | .signature key =>
      Algorithm.writeSignature key.group
  | .agreement key =>
      Algorithm.writeAgreement key.group
  | .string kind _ =>
      Algorithm.writeString kind

/-- The bytes of the public key of a key. -/
def publicBytes : PrivateKey → Bytes
  | .rsa key =>
      key.publicBytes
  | .curve key =>
      key.publicBytes
  | .signature key =>
      Der.writeNatural key.power
  | .agreement key =>
      Der.writeNatural key.power
  | .string kind secret =>
      kind.publicKey secret

/-- The bytes of a key without the name of its algorithm. -/
def bareBytes : PrivateKey → Bytes
  | .rsa key =>
      key.bareBytes
  | .curve key =>
      key.bareBytes
  | .signature key =>
      Der.writeNatural key.secret
  | .agreement key =>
      Der.writeNatural key.secret
  | .string kind secret =>
      Der.writeElement kind.secretTag secret

/-- The public key, wrapped with the name of its algorithm. -/
def publicDer (key : PrivateKey) : Bytes :=
  Der.writeSequence [key.algorithm, Der.writeBits key.publicBytes]

/-- The private key, wrapped with the name of its algorithm. -/
def privateDer (key : PrivateKey) : Bytes :=
  Der.writeSequence [Der.writeNatural 0, key.algorithm, Der.writeBytes key.bareBytes]

end PrivateKey

end SessionHandshake
