import SessionHandshake.Key.Public
import SessionHandshake.Random

namespace SessionHandshake

/-!
# The exchange of the shared secret

A client answers a server's encryption request with a shared secret and the
server's verify token, both encrypted with the server's public key.
-/

/-- What a client needs to answer an encryption request. -/
structure EncryptionResponse where
  sharedSecret : Value
  encryptedSecret : Bytes
  encryptedVerifyToken : Bytes

/-- The padding that is left when a number of bytes has been used up. -/
def PaddingSource.after (padding : PaddingSource) (count : Nat) : PaddingSource :=
  fun index => padding (count + index)

namespace EncryptionResponse

/-- How much padding is set aside for each encryption. -/
def paddingPerMessage : Nat := handshakeCiphertextLength

/-- The answer with a given secret: the key is read, then both values are encrypted. -/
def ofSecret
    (padding : PaddingSource)
    (publicKey verifyToken sharedSecret : Value) :
    Except Fault EncryptionResponse := do
  let publicKey ← PublicKey.ofValue publicKey
  let encryptedSecret ← publicKey.encrypt padding sharedSecret
  let encryptedVerifyToken ←
    publicKey.encrypt (padding.after paddingPerMessage) verifyToken
  return {
    sharedSecret := sharedSecret
    encryptedSecret := encryptedSecret
    encryptedVerifyToken := encryptedVerifyToken
  }

/-- The answer with a given secret, or with a drawn one if none is given. -/
def create
    (source : RandomSource)
    (before : List Value)
    (padding : PaddingSource)
    (publicKey verifyToken sharedSecret : Value) :
    Except Fault EncryptionResponse := do
  if sharedSecret.isNull then
    let drawn ← source.sharedSecret before
    ofSecret padding publicKey verifyToken (.bytes drawn)
  else
    ofSecret padding publicKey verifyToken sharedSecret

end EncryptionResponse

end SessionHandshake
