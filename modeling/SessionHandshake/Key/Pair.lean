import SessionHandshake.Hash.Sha2
import SessionHandshake.Key.Private
import SessionHandshake.Key.Public

namespace SessionHandshake

/-!
# Key pairs

The server side of the handshake holds a key pair.  It is read from a private
key of any kind, but only an RSA key can decrypt what a client sends.
-/

/-- The key pair of a server: a private key, from which the public one follows. -/
structure KeyPair where
  key : PrivateKey
  deriving DecidableEq

namespace KeyPair

/-! ## Reading and writing -/

/-- The key pair of the bytes of a private key. -/
def ofBytes
    (bytes : Bytes)
    (isPrime : PrimalityCheck := Modular.isProbablePrime) :
    Except Fault KeyPair :=
  (PrivateKey.ofBytes isPrime bytes).map fun key => { key := key }

/-- The key pair of a value of any type. -/
def ofValue
    (value : Value)
    (isPrime : PrimalityCheck := Modular.isProbablePrime) :
    Except Fault KeyPair :=
  match value.toBytes? with
  | some bytes =>
      ofBytes bytes isPrime
  | none =>
      .error .wrongType

/-- The public key, wrapped with the name of its algorithm. -/
def publicDer (pair : KeyPair) : Bytes :=
  pair.key.publicDer

/-- The private key, wrapped with the name of its algorithm. -/
def privateDer (pair : KeyPair) : Bytes :=
  pair.key.privateDer

/-! ## Use -/

/-- The message of a ciphertext, which only an RSA key can find. -/
def decryptBytes (pair : KeyPair) (ciphertext : Bytes) : Except Fault Bytes :=
  match pair.key with
  | .rsa key =>
      match key.decrypt? Hash.sha256 ciphertext with
      | some message =>
          .ok message
      | none =>
          .error (.encryptionFailed .decryption (some (.badValue .unspecified)))
  | _ =>
      .error .noSuchOperation

/--
The message of a ciphertext of any type: only unchanging bytes can be one.

That the key cannot decrypt is found out before the type is.
-/
def decrypt (pair : KeyPair) (ciphertext : Value) : Except Fault Bytes :=
  match pair.key, ciphertext with
  | .rsa _, .bytes content =>
      pair.decryptBytes content
  | .rsa _, _ =>
      .error .wrongType
  | _, _ =>
      .error .noSuchOperation

/-! ## Generation -/

/-- The public exponent of generated keys. -/
def generatedExponent : Nat := 65537

/-- The number of bits of each prime of a generated key. -/
def generatedPrimeBits : Nat := handshakeKeySize / 2

/-- How many odd numbers are tried from where the search for a prime starts. -/
def searchLength : Nat := 20000

/-- The first prime among odd numbers that leaves the exponent invertible. -/
def findPrime? (isPrime : PrimalityCheck) : Nat → Nat → Option Nat
  | 0, _ =>
      none
  | fuel + 1, candidate =>
      if candidate % generatedExponent ≠ 1 ∧ isPrime candidate then
        some candidate
      else
        findPrime? isPrime fuel (candidate + 2)

/-- An odd number of the bits of a prime whose two highest bits are set. -/
def primeStart (drawn : Nat) : Nat :=
  let free := Nat.pow 2 (generatedPrimeBits - 2)
  let number := 3 * free + drawn % free
  number + (1 - number % 2)

/--
A key pair from two drawn numbers.

The numbers say where the searches for the primes start; drawing the same prime
twice, or finding none, gives no pair.
-/
def generate?
    (firstDrawn secondDrawn : Nat)
    (isPrime : PrimalityCheck := Modular.isProbablePrime) :
    Option KeyPair :=
  match findPrime? isPrime searchLength (primeStart firstDrawn),
      findPrime? isPrime searchLength (primeStart secondDrawn) with
  | some first, some second =>
      if first = second then
        none
      else
        (RsaPrivateKey.ofPrimes? (max first second) (min first second) generatedExponent).map
          fun key => { key := .rsa key }
  | _, _ =>
      none

end KeyPair

end SessionHandshake
