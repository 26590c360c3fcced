import SessionHandshake.Number.Modular

namespace SessionHandshake

/-!
# RSA with random padding

A message is padded to the length of the modulus as `00 02`, at least eight
padding bytes that are not zero, `00`, and the message itself; it is then raised
to the public exponent.  Decryption inverts both steps.

Where the padding bytes come from is a parameter, so that encryption is a
function.
-/

/-- A byte of padding, which must not be zero: zero ends the padding. -/
abbrev PaddingByte := { byte : UInt8 // byte ≠ 0 }

/-- An endless supply of padding bytes. -/
abbrev PaddingSource := Nat → PaddingByte

/-- A public key: messages are raised to its exponent modulo its modulus. -/
structure RsaPublicKey where
  modulus : Nat
  exponent : Nat
  deriving DecidableEq

/-- A private key with the parts that decryption and its written form need. -/
structure RsaPrivateKey where
  modulus : Nat
  publicExponent : Nat
  privateExponent : Nat
  firstPrime : Nat
  secondPrime : Nat
  /-- The private exponent modulo one less than each prime. -/
  firstExponent : Nat
  secondExponent : Nat
  /-- The inverse of the second prime modulo the first. -/
  coefficient : Nat
  deriving DecidableEq

namespace Rsa

/-- The number of bits of a number. -/
def bitLength (number : Nat) : Nat :=
  if number = 0 then 0 else number.log2 + 1

/-- The number of bytes of a number. -/
def byteLength (number : Nat) : Nat :=
  (bitLength number + 7) / 8

/-- The bytes that padding takes at least. -/
def paddingOverhead : Nat := 11

/-- The greatest modulus, in bits, that is used. -/
def maximalModulusBits : Nat := 16384

/-- Above this many bits of the modulus the exponent must be short. -/
def largeModulusBits : Nat := 3072

/-- The greatest exponent, in bits, that is used with a large modulus. -/
def maximalExponentBits : Nat := 64

/-- The greatest number, in bits, that the arithmetic of keys has room for. -/
def maximalNumberBits : Nat := 8388607 * 64

/-- The arithmetic of keys has room for a number. -/
def hasRoomFor (number : Nat) : Bool :=
  bitLength number ≤ maximalNumberBits

/-- A message with padding in front of it, as long as the modulus. -/
def pad (length : Nat) (padding : PaddingSource) (message : Bytes) : Bytes :=
  let filler := (List.range (length - message.length - 3)).map fun index => (padding index).val
  [0x00, 0x02] ++ filler ++ [0x00] ++ message

/-- The message after its padding, if the padding is as it must be. -/
def unpad? (padded : Bytes) : Option Bytes :=
  match padded with
  | 0x00 :: 0x02 :: rest =>
      let filler := rest.takeWhile (· ≠ 0)
      if filler.length < 8 ∨ filler.length = rest.length then
        none
      else
        some (rest.drop (filler.length + 1))
  | _ =>
      none

end Rsa

namespace RsaPublicKey

/-- The number of bits of the modulus. -/
def keySize (key : RsaPublicKey) : Nat :=
  Rsa.bitLength key.modulus

/-- The number of bytes of a ciphertext. -/
def ciphertextLength (key : RsaPublicKey) : Nat :=
  Rsa.byteLength key.modulus

/-- The sizes of modulus and exponent are within what is used. -/
def hasUsableSize (key : RsaPublicKey) : Bool :=
  key.keySize ≤ Rsa.maximalModulusBits &&
    (key.keySize ≤ Rsa.largeModulusBits ||
      Rsa.bitLength key.exponent ≤ Rsa.maximalExponentBits)

/--
The ciphertext of a message.

The message must leave room for the padding, and the modulus must be odd and of
a usable size.
-/
def encrypt? (key : RsaPublicKey) (padding : PaddingSource) (message : Bytes) : Option Bytes :=
  let length := key.ciphertextLength
  if message.length + Rsa.paddingOverhead ≤ length ∧ key.hasUsableSize ∧
      key.modulus % 2 = 1 then
    let number := Hash.numberOf (Rsa.pad length padding message)
    some (Hash.bigEndian length (Modular.power number key.exponent key.modulus))
  else
    none

/-- The numbers of a key are such that it can be a key at all. -/
def isValid (key : RsaPublicKey) : Bool :=
  Rsa.hasRoomFor key.modulus && 3 ≤ key.modulus && key.exponent % 2 = 1 && 3 ≤ key.exponent &&
    key.exponent < key.modulus

end RsaPublicKey

namespace RsaPrivateKey

/-- The public half of a private key. -/
def publicKey (key : RsaPrivateKey) : RsaPublicKey where
  modulus := key.modulus
  exponent := key.publicExponent

/-- The numbers of a private key, in the order in which they are written. -/
def numbers (key : RsaPrivateKey) : List Nat :=
  [key.modulus, key.publicExponent, key.privateExponent, key.firstPrime, key.secondPrime,
    key.firstExponent, key.secondExponent, key.coefficient]

/-- The parts of a private key belong together; two is not used as a prime. -/
def isConsistent (isPrime : PrimalityCheck) (key : RsaPrivateKey) : Bool :=
  let first := key.firstPrime - 1
  let second := key.secondPrime - 1
  key.numbers.all Rsa.hasRoomFor &&
    key.firstPrime % 2 = 1 && key.secondPrime % 2 = 1 &&
    isPrime key.firstPrime && isPrime key.secondPrime &&
    key.modulus = key.firstPrime * key.secondPrime &&
    key.publicExponent % 2 = 1 && 1 < key.publicExponent &&
    key.privateExponent * key.publicExponent % Nat.lcm first second = 1 % Nat.lcm first second &&
    key.firstExponent = key.privateExponent % first &&
    key.secondExponent = key.privateExponent % second &&
    Modular.inverse? key.secondPrime key.firstPrime = some key.coefficient

/-- The padded message that a number stands for, as bytes. -/
def unlock (key : RsaPrivateKey) (ciphertext : Bytes) : Bytes :=
  Hash.bigEndian (Rsa.byteLength key.modulus)
    (Modular.power (Hash.numberOf ciphertext) key.privateExponent key.modulus)

/--
What a ciphertext with wrong padding is answered with.

Nothing in it tells that the padding was wrong: it is a hash of the ciphertext
and of the private exponent, cut to a length that the hash decides.
-/
def decoy (key : RsaPrivateKey) (hash : Bytes → Bytes) (ciphertext : Bytes) : Bytes :=
  let secret := Hash.bigEndian (Rsa.byteLength key.modulus) key.privateExponent
  let drawn := hash (secret ++ ciphertext)
  drawn.drop ((drawn.headD 0).toNat % (drawn.length + 1))

/--
The message of a ciphertext.

The ciphertext must have the length of the modulus and stand for a smaller
number; wrong padding is answered with a decoy.  The decoy is prepared in any
case, so the private exponent must not be longer than the modulus.
-/
def decrypt? (key : RsaPrivateKey) (hash : Bytes → Bytes) (ciphertext : Bytes) : Option Bytes :=
  if ciphertext.length = Rsa.byteLength key.modulus ∧
      Hash.numberOf ciphertext < key.modulus ∧
      Rsa.byteLength key.privateExponent ≤ Rsa.byteLength key.modulus then
    some ((Rsa.unpad? (key.unlock ciphertext)).getD (key.decoy hash ciphertext))
  else
    none

/-- The key of two primes and a public exponent, if the exponent can be inverted. -/
def ofPrimes? (first second publicExponent : Nat) : Option RsaPrivateKey :=
  match Modular.inverse? publicExponent (Nat.lcm (first - 1) (second - 1)),
      Modular.inverse? second first with
  | some privateExponent, some coefficient =>
      some {
        modulus := first * second
        publicExponent := publicExponent
        privateExponent := privateExponent
        firstPrime := first
        secondPrime := second
        firstExponent := privateExponent % (first - 1)
        secondExponent := privateExponent % (second - 1)
        coefficient := coefficient
      }
  | _, _ =>
      none

end RsaPrivateKey

end SessionHandshake
