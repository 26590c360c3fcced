import SessionHandshake.Key.CurveParameters
import SessionHandshake.Key.Kind
import SessionHandshake.Key.Rsa

namespace SessionHandshake

/-!
# Names of algorithms

A key says by an object identifier which algorithm it is for, and by parameters
that may follow it in which group.  What parameters an algorithm takes is known
for many algorithms that no key is for; an identifier of one of them with other
parameters cannot be read at all, which is another fault than that there is no
key for it.
-/

/-- The powers of a generator modulo a prime. -/
structure PrimeGroup where
  prime : Nat
  generator : Nat
  /-- The number of powers, where it is stated. -/
  order : Option Nat
  deriving DecidableEq

/-- What a key is for. -/
inductive Algorithm where
  | rsa
  /-- Any use of points of a curve. -/
  | curve (parameters : CurveParameters)
  /-- The digital signature algorithm. -/
  | signature (group : PrimeGroup)
  /-- The agreement on a power of powers. -/
  | agreement (group : PrimeGroup)
  | string (kind : StringKeyKind)
  /-- An algorithm that no key is for. -/
  | other
  deriving DecidableEq

namespace PrimeGroup

/-- The power of the generator that a private key stands for. -/
def powerOf (group : PrimeGroup) (secret : Nat) : Nat :=
  Modular.power group.generator secret group.prime

/-- The group of a digital signature key: prime, order, generator. -/
def ofSignature? (element : DerElement) : Option PrimeGroup :=
  match element.members?.bind (·.mapM DerElement.natural?) with
  | some [prime, order, generator] =>
      some { prime := prime, generator := generator, order := some order }
  | _ =>
      none

/-- The least number of bits of the prime of a group for agreement. -/
def minimalAgreementBits : Nat := 512

/-- What may end the description of a group whose order is not stated. -/
def isSecretLength : List DerElement → Bool
  | [] =>
      true
  | [length] =>
      length.isNaturalOf 32
  | _ =>
      false

/-- What may end the description of a group whose order is stated. -/
def isValidation : List DerElement → Bool
  | [] =>
      true
  | [element] =>
      element.natural?.isSome || element.tag = DerTag.sequence
  | [factor, validation] =>
      factor.natural?.isSome && validation.tag = DerTag.sequence
  | _ =>
      false

/-- The group of an agreement key without its order: prime, generator. -/
def ofAgreement? (element : DerElement) : Option PrimeGroup :=
  match element.members? with
  | some (prime :: generator :: rest) =>
      match prime.natural?, generator.natural? with
      | some prime, some generator =>
          if isSecretLength rest then
            some { prime := prime, generator := generator, order := none }
          else
            none
      | _, _ =>
          none
  | _ =>
      none

/-- The group of an agreement key with its order: prime, generator, order. -/
def ofAgreementWithOrder? (element : DerElement) : Option PrimeGroup :=
  match element.members? with
  | some (prime :: generator :: order :: rest) =>
      match prime.natural?, generator.natural?, order.natural? with
      | some prime, some generator, some order =>
          if isValidation rest then
            some { prime := prime, generator := generator, order := some order }
          else
            none
      | _, _, _ =>
          none
  | _ =>
      none

/-- The group is large enough for agreement. -/
def isUsableForAgreement (group : PrimeGroup) : Bool :=
  minimalAgreementBits ≤ Rsa.bitLength group.prime

end PrimeGroup

/-- What the parameters of an algorithm that no key is for must be. -/
inductive ParameterForm where
  | absent
  | absentOrNull
  /-- A string of so many bytes. -/
  | bytes (length : Nat)
  /-- A string of bytes, of a fixed length or not, and how often to hash it. -/
  | saltAndCount (saltLength : Option Nat)
  /-- Perhaps a version, and a string of so many bytes. -/
  | versionAndBytes (length : Nat)
  /-- How to make a key from a password, and how to encrypt with it. -/
  | twoAlgorithms
  /-- Salt, count, perhaps a length, and the hash if it is not the usual one. -/
  | repeatedHash
  /-- Salt, three costs, and perhaps a length. -/
  | saltAndCosts

namespace Algorithm

/-! ## Identifiers -/

/-- The name of RSA keys. -/
def rsaIdentifier : ObjectIdentifier := [1, 2, 840, 113549, 1, 1, 1]

/-- The name of RSA keys that are for signatures with random padding. -/
def rsaSignatureIdentifier : ObjectIdentifier := [1, 2, 840, 113549, 1, 1, 10]

/-- The name of keys on curves. -/
def curveIdentifier : ObjectIdentifier := [1, 2, 840, 10045, 2, 1]

/-- The name of keys of the digital signature algorithm. -/
def signatureIdentifier : ObjectIdentifier := [1, 2, 840, 10040, 4, 1]

/-- The name of agreement keys in a group whose order is not stated. -/
def agreementIdentifier : ObjectIdentifier := [1, 2, 840, 113549, 1, 3, 1]

/-- The name of agreement keys in a group whose order is stated. -/
def agreementWithOrderIdentifier : ObjectIdentifier := [1, 2, 840, 10046, 2, 1]

/-- The name of SHA-1. -/
def sha1Identifier : ObjectIdentifier := [1, 3, 14, 3, 2, 26]

/-- The name of the usual hash of a repeated hash. -/
def sha1KeyedIdentifier : ObjectIdentifier := [1, 2, 840, 113549, 2, 7]

/-- The name of the usual way to stretch a hash. -/
def stretchIdentifier : ObjectIdentifier := [1, 2, 840, 113549, 1, 1, 8]

/-- So many names that end in consecutive numbers. -/
def consecutive (stem : List Nat) (first count : Nat) : List ObjectIdentifier :=
  (List.range count).map fun index => stem ++ [first + index]

/-- The names of algorithms that no key is for and that take no parameters but a null. -/
def plainIdentifiers : List ObjectIdentifier :=
  [sha1Identifier] ++
    consecutive [2, 16, 840, 1, 101, 3, 4, 2] 1 4 ++
    consecutive [2, 16, 840, 1, 101, 3, 4, 2] 7 4 ++
    [[1, 2, 840, 10045, 4, 1]] ++
    consecutive [1, 2, 840, 10045, 4, 3] 1 4 ++
    [[1, 2, 840, 113549, 1, 1, 5]] ++
    consecutive [1, 2, 840, 113549, 1, 1] 11 4 ++
    [[1, 3, 14, 3, 2, 29]] ++
    consecutive [2, 16, 840, 1, 101, 3, 4, 3] 13 4 ++
    [[1, 2, 840, 10040, 4, 3]] ++
    consecutive [2, 16, 840, 1, 101, 3, 4, 3] 1 4 ++
    consecutive [1, 2, 840, 113549, 2] 7 5

/-- The algorithms that no key is for and whose parameters are known, by their names. -/
def otherForms : List (ObjectIdentifier × ParameterForm) :=
  plainIdentifiers.map (fun identifier => (identifier, .absentOrNull)) ++
    (consecutive [2, 16, 840, 1, 101, 3, 4, 3] 9 4).map
      (fun identifier => (identifier, .absent)) ++ [
    ([2, 16, 840, 1, 101, 3, 4, 1, 2], .bytes 16),
    ([2, 16, 840, 1, 101, 3, 4, 1, 22], .bytes 16),
    ([2, 16, 840, 1, 101, 3, 4, 1, 42], .bytes 16),
    ([1, 2, 840, 113549, 3, 7], .bytes 8),
    ([1, 2, 840, 113549, 3, 2], .versionAndBytes 8),
    ([1, 2, 840, 113549, 1, 5, 3], .saltAndCount (some 8)),
    ([1, 2, 840, 113549, 1, 12, 1, 3], .saltAndCount none),
    ([1, 2, 840, 113549, 1, 12, 1, 6], .saltAndCount none),
    ([1, 2, 840, 113549, 1, 5, 13], .twoAlgorithms),
    ([1, 2, 840, 113549, 1, 5, 12], .repeatedHash),
    ([1, 3, 6, 1, 4, 1, 11591, 4, 11], .saltAndCosts)]

/-! ## Parameters -/

/-- The element of an algorithm, whose parameters are written already. -/
def element (identifier : ObjectIdentifier) (parameters : List Bytes) : DerElement where
  tag := DerTag.sequence
  content := (Der.writeIdentifier identifier :: parameters).flatten

/-- The usual hash of a signature with random padding. -/
def usualHash : DerElement :=
  element sha1Identifier [Der.writeNull]

/-- The usual way to stretch the hash of a signature with random padding. -/
def usualStretch : DerElement :=
  element stretchIdentifier [usualHash.encoded]

/-- The usual hash of a repeated hash. -/
def usualKeyedHash : DerElement :=
  element sha1KeyedIdentifier [Der.writeNull]

/-- The usual number of random bytes in a signature with random padding. -/
def usualSaltLength : Nat := 20

/-- The usual mark at the end of a signature with random padding. -/
def usualTrailer : Nat := 1

/-- A way to stretch a hash: a name and the hash. -/
def isStretch (isAlgorithm : DerElement → Bool) (element : DerElement) : Bool :=
  match element.members? with
  | some [identifier, hash] =>
      identifier.identifier?.isSome && isAlgorithm hash
  | _ =>
      false

/--
What stands at a place of the parameters of a signature with random padding.

The usual value is left out there, so it must not be written.
-/
def isPaddingField
    (isAlgorithm : DerElement → Bool)
    (place : Nat)
    (element : DerElement) :
    Bool :=
  match place with
  | 0 =>
      isAlgorithm element && element ≠ usualHash
  | 1 =>
      isStretch isAlgorithm element && element ≠ usualStretch
  | 2 =>
      element.isNaturalOf 16 && element.natural? ≠ some usualSaltLength
  | 3 =>
      element.isNaturalOf 8 && element.natural? ≠ some usualTrailer
  | _ =>
      false

/-- Elements fill some of the places from a given one on, in their order. -/
def arePaddingFields
    (isAlgorithm : DerElement → Bool)
    (firstPlace : Nat) :
    List DerElement → Bool
  | [] =>
      true
  | element :: rest =>
      let place := element.tag.number
      firstPlace ≤ place &&
        ((element.enclosed? (DerTag.enclosing place)).any (isPaddingField isAlgorithm place)) &&
        arePaddingFields isAlgorithm (place + 1) rest

/-- The parameters of a signature with random padding. -/
def arePaddingParameters (isAlgorithm : DerElement → Bool) : List DerElement → Bool
  | [] =>
      true
  | [element] =>
      match element.members? with
      | some members =>
          arePaddingFields isAlgorithm 0 members
      | none =>
          false
  | _ =>
      false

/-- Perhaps a length of so many bits, and what may follow it. -/
def isLengthThen (bits : Nat) (follows : List DerElement → Bool) : List DerElement → Bool
  | [] =>
      follows []
  | element :: rest =>
      if element.tag = DerTag.integer then
        element.isNaturalOf bits && follows rest
      else
        follows (element :: rest)

/-- A hash that is not the usual one, or nothing. -/
def isUnusualHash (isAlgorithm : DerElement → Bool) : List DerElement → Bool
  | [] =>
      true
  | [hash] =>
      isAlgorithm hash && hash ≠ usualKeyedHash
  | _ =>
      false

/-- The members of a sequence of parameters are as the form of the parameters says. -/
def areMembers
    (isAlgorithm : DerElement → Bool)
    (form : ParameterForm)
    (members : List DerElement) :
    Bool :=
  match form, members with
  | .saltAndCount saltLength, [salt, count] =>
      match salt.bytes? with
      | some bytes =>
          saltLength.all (bytes.length = ·) && count.isNaturalOf 64
      | none =>
          false
  | .versionAndBytes length, [bytes] =>
      bytes.bytes?.map List.length = some length
  | .versionAndBytes length, [version, bytes] =>
      version.isNaturalOf 32 && bytes.bytes?.map List.length = some length
  | .twoAlgorithms, [first, second] =>
      isAlgorithm first && isAlgorithm second
  | .repeatedHash, salt :: count :: rest =>
      salt.bytes?.isSome && count.isNaturalOf 64 &&
        isLengthThen 64 (isUnusualHash isAlgorithm) rest
  | .saltAndCosts, salt :: cost :: width :: height :: rest =>
      salt.bytes?.isSome && cost.isNaturalOf 64 && width.isNaturalOf 64 &&
        height.isNaturalOf 64 && isLengthThen 32 List.isEmpty rest
  | _, _ =>
      false

/-- Parameters are as their form says. -/
def haveForm
    (isAlgorithm : DerElement → Bool)
    (form : ParameterForm)
    (parameters : List DerElement) :
    Bool :=
  match form, parameters with
  | .absent, parameters =>
      parameters.isEmpty
  | .absentOrNull, parameters =>
      parameters.all DerElement.isNull
  | .bytes length, [parameter] =>
      parameter.bytes?.map List.length = some length
  | form, [parameter] =>
      match parameter.members? with
      | some members =>
          areMembers isAlgorithm form members
      | none =>
          false
  | _, _ =>
      false

/-! ## Reading -/

/-- The algorithm of a name and at most one parameter. -/
def ofParts?
    (isAlgorithm : DerElement → Bool)
    (identifier : ObjectIdentifier)
    (parameters : List DerElement) :
    Option Algorithm :=
  if identifier = rsaIdentifier then
    if parameters.all DerElement.isNull then some .rsa else none
  else if identifier = rsaSignatureIdentifier then
    if arePaddingParameters isAlgorithm parameters then some .rsa else none
  else if identifier = curveIdentifier then
    (parameters.head?.bind CurveParameters.ofElement?).map .curve
  else if identifier = signatureIdentifier then
    (parameters.head?.bind PrimeGroup.ofSignature?).map .signature
  else if identifier = agreementIdentifier then
    (parameters.head?.bind PrimeGroup.ofAgreement?).map .agreement
  else if identifier = agreementWithOrderIdentifier then
    (parameters.head?.bind PrimeGroup.ofAgreementWithOrder?).map .agreement
  else
    match StringKeyKind.named? identifier with
    | some kind =>
        if parameters.isEmpty then some (.string kind) else none
    | none =>
        match otherForms.lookup identifier with
        | some form =>
            if haveForm isAlgorithm form parameters then some .other else none
        | none =>
            some .other

/-- The algorithm that an element names; parameters may name further ones inside. -/
def read? : Nat → DerElement → Option Algorithm
  | 0, _ =>
      none
  | fuel + 1, element =>
      match element.members? with
      | some (identifier :: parameters) =>
          match identifier.identifier? with
          | some identifier =>
              if parameters.length ≤ 1 then
                ofParts? (fun inner => (read? fuel inner).isSome) identifier parameters
              else
                none
          | none =>
              none
      | _ =>
          none

/-- The algorithm that an element names; what it holds is shorter than itself. -/
def ofElement? (element : DerElement) : Option Algorithm :=
  read? (element.content.length + 1) element

/-! ## Writing -/

/-- The parameters of a group for signatures. -/
def writeSignatureGroup (group : PrimeGroup) : Bytes :=
  Der.writeSequence (List.map Der.writeNatural [
    group.prime, group.order.getD 0, group.generator])

/-- The name and the parameters of a group for agreement. -/
def agreementParts (group : PrimeGroup) : ObjectIdentifier × Bytes :=
  match group.order with
  | some order =>
      (agreementWithOrderIdentifier,
        Der.writeSequence (List.map Der.writeNatural [group.prime, group.generator, order]))
  | none =>
      (agreementIdentifier,
        Der.writeSequence (List.map Der.writeNatural [group.prime, group.generator]))

/-- An RSA key's algorithm, with a null as its parameters. -/
def writeRsa : Bytes :=
  (element rsaIdentifier [Der.writeNull]).encoded

/-- The algorithm of a key on a curve, which is named. -/
def writeCurve (curve : Curve) : Bytes :=
  (element curveIdentifier [Der.writeIdentifier curve.identifier]).encoded

/-- The algorithm of a key for signatures in a group. -/
def writeSignature (group : PrimeGroup) : Bytes :=
  (element signatureIdentifier [writeSignatureGroup group]).encoded

/-- The algorithm of a key for agreement in a group. -/
def writeAgreement (group : PrimeGroup) : Bytes :=
  let (identifier, parameters) := agreementParts group
  (element identifier [parameters]).encoded

/-- The algorithm of a key that is a string of bytes. -/
def writeString (kind : StringKeyKind) : Bytes :=
  (element kind.identifier []).encoded

end Algorithm

end SessionHandshake
