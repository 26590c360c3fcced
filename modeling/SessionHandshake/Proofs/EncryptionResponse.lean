import SessionHandshake.Proofs.KeyPair
import SessionHandshake.Proofs.Random

namespace SessionHandshake

/-!
# Responses to encryption requests

A response is made entirely or not at all.  A secret must be at hand or be drawn, the
server's key must be an RSA key of the size of the handshake, and both messages must leave
room for their padding.  What is missing first decides the fault, and a response that is
made gives the secret and the token to whoever holds the private key.
-/

/-! ## Encryption -/

namespace RsaPublicKey

variable {key : RsaPublicKey} {padding : PaddingSource} {message ciphertext : Bytes}

/-- A ciphertext is as long as the modulus, and its message has left room for the padding. -/
theorem lengths_of_encrypt? (encrypted : key.encrypt? padding message = some ciphertext) :
    ciphertext.length = key.ciphertextLength ∧
      message.length + Rsa.paddingOverhead ≤ key.ciphertextLength := by
  simp only [encrypt?] at encrypted
  split at encrypted
  · next possible =>
      cases encrypted
      exact ⟨Hash.bigEndian_length _ _, possible.1⟩
  · cases encrypted

/-- Every message is encrypted that leaves room for the padding. -/
def EncryptsWhatFits (key : RsaPublicKey) : Prop :=
  ∀ padding message,
    message.length + Rsa.paddingOverhead ≤ key.ciphertextLength →
    (key.encrypt? padding message).isSome

/-- The ciphertexts of a key are those of the handshake. -/
def FitsHandshake (key : RsaPublicKey) : Prop :=
  key.ciphertextLength = handshakeCiphertextLength

theorem fitsHandshake_iff : key.FitsHandshake ↔ 1017 ≤ key.keySize ∧ key.keySize ≤ 1024 := by
  have length : key.ciphertextLength = (key.keySize + 7) / 8 := rfl
  have bytes : handshakeCiphertextLength = 128 := rfl
  rw [FitsHandshake, length, bytes]
  omega

theorem FitsHandshake.hasRoom_iff (fits : key.FitsHandshake) :
    message.length + Rsa.paddingOverhead ≤ key.ciphertextLength ↔ message.length ≤ 117 := by
  have length : key.ciphertextLength = 128 := fits
  have overhead : Rsa.paddingOverhead = 11 := rfl
  omega

/-- A key of the handshake encrypts what fits exactly if its modulus is odd. -/
theorem FitsHandshake.encryptsWhatFits_iff (fits : key.FitsHandshake) :
    key.EncryptsWhatFits ↔ key.modulus % 2 = 1 := by
  constructor
  · intro encrypts
    have room : ([] : Bytes).length + Rsa.paddingOverhead ≤ key.ciphertextLength := by
      rw [fits]
      decide
    have encrypted := encrypts (fun _ => ⟨1, by decide⟩) [] room
    simp only [encrypt?] at encrypted
    split at encrypted
    · next possible =>
        exact possible.2.2
    · cases encrypted
  · intro isOdd padding message room
    simp only [encrypt?]
    rw [if_pos ⟨room, hasUsableSize_of_length fits, isOdd⟩]
    rfl

end RsaPublicKey

theorem RsaPrivateKey.IsHandshakeKey.fitsHandshake
    {key : RsaPrivateKey}
    (isKey : key.IsHandshakeKey) :
    key.publicKey.FitsHandshake :=
  isKey.byteLength

namespace PublicKey

variable
  {publicKey : PublicKey}
  {padding : PaddingSource}
  {der message ciphertext : Bytes}
  {fault : Fault}

/-- A public key is read from exactly those bytes that are an RSA key. -/
theorem ofBytes_eq_ok_iff :
    ofBytes der = .ok publicKey ↔
      ParsedKey.ofBytes der = .ok (.rsa publicKey.key) ∧ publicKey.der = der := by
  unfold ofBytes
  split
  · next key parsed =>
      rw [Except.ok.injEq, parsed]
      constructor
      · rintro rfl
        exact ⟨rfl, rfl⟩
      · rintro ⟨isKey, isDer⟩
        cases isKey
        rw [← isDer]
  all_goals
    next parsed =>
      rw [parsed]
      constructor
      · intro isOk
        cases isOk
      · rintro ⟨isRsa, _⟩
        cases isRsa

/-- Bytes that are no RSA key are an invalid public key. -/
theorem ofBytes_of_notRsa (notRsa : ∀ key, ParsedKey.ofBytes der ≠ .ok (.rsa key)) :
    ∃ problem cause, ofBytes der = .error (.invalidPublicKey problem cause) := by
  unfold ofBytes
  split
  · next key parsed =>
      exact (notRsa key parsed).elim
  all_goals
    exact ⟨_, _, rfl⟩

/-- A ciphertext of the handshake is one that has the right length. -/
theorem encrypt_eq_ok_iff :
    publicKey.encrypt padding (.bytes message) = .ok ciphertext ↔
      publicKey.key.encrypt? padding message = some ciphertext ∧
        publicKey.key.FitsHandshake := by
  rw [encrypt_bytes, encryptBytes]
  constructor
  · intro succeeded
    split at succeeded
    · cases succeeded
    · next other encrypted =>
        split at succeeded
        · next isWhole =>
            cases succeeded
            exact ⟨encrypted, (RsaPublicKey.lengths_of_encrypt? encrypted).1.symm.trans isWhole⟩
        · cases succeeded
  · rintro ⟨encrypted, fits⟩
    simp only [encrypted]
    rw [if_pos ((RsaPublicKey.lengths_of_encrypt? encrypted).1.trans fits)]

/-- Bytes that cannot be encrypted are a failed encryption. -/
theorem encrypt_error
    (failed : publicKey.encrypt padding (.bytes message) = .error fault) :
    ∃ problem cause, fault = .encryptionFailed problem cause := by
  rw [encrypt_bytes, encryptBytes] at failed
  split at failed
  · cases failed
    exact ⟨_, _, rfl⟩
  · split at failed
    · cases failed
    · cases failed
      exact ⟨_, _, rfl⟩

end PublicKey

namespace KeyPair

variable {pair : KeyPair} {key : RsaPrivateKey}

/-- The bytes that a key pair of the handshake writes are its public key. -/
theorem parsed_publicDer
    (isRsa : pair.key = .rsa key)
    (isKey : key.IsHandshakeKey) :
    ParsedKey.ofBytes pair.publicDer = .ok (.rsa key.publicKey) := by
  have read := ofValue_publicDer isRsa isKey
  rw [PublicKey.ofValue_bytes, PublicKey.ofBytes_eq_ok_iff] at read
  exact read.1

/-- Whatever its public key has encrypted is decrypted by a pair. -/
theorem decrypt_of_encrypt?
    {padding : PaddingSource}
    {message ciphertext : Bytes}
    (isRsa : pair.key = .rsa key)
    (genuine : key.IsGenuine)
    (fits : key.publicKey.FitsHandshake)
    (encrypted : key.publicKey.encrypt? padding message = some ciphertext) :
    pair.decrypt (.bytes ciphertext) = .ok message := by
  have room : message.length + Rsa.paddingOverhead ≤ handshakeCiphertextLength :=
    fits ▸ (RsaPublicKey.lengths_of_encrypt? encrypted).2
  obtain ⟨other, same, decrypted⟩ :=
    decrypt_encrypt isRsa genuine fits pair.publicDer room padding
  cases encrypted.symm.trans (PublicKey.encrypt_eq_ok_iff.mp same).1
  exact decrypted

end KeyPair

/-! ## Responses -/

namespace EncryptionResponse

variable
  {source : RandomSource}
  {before : List Value}
  {padding : PaddingSource}
  {der token secret : Bytes}
  {given : Option Bytes}
  {fault : Fault}

/-- The secret that is handed over with a request, as a value. -/
def handedOver : Option Bytes → Value
  | none =>
      .null
  | some secret =>
      .bytes secret

/-- The secret of a response is the one that is handed over, or else what the source gives. -/
inductive Obtains (source : RandomSource) (before : List Value) :
    Option Bytes → Bytes → Prop where
  | given (secret : Bytes) : Obtains source before (some secret) secret
  | drawn {secret : Bytes} :
      source.Gives before sharedSecretLength secret →
      Obtains source before none secret

/-- A secret that cannot be obtained is one that the source withholds. -/
theorem withholds_of_not_obtains
    (nowhere : ∀ secret, ¬ Obtains source before given secret) :
    given = none ∧ ∃ fault, source.Withholds before sharedSecretLength fault := by
  cases given with
  | some secret =>
      exact (nowhere secret (.given secret)).elim
  | none =>
      rcases source.gives_or_withholds before sharedSecretLength with
        ⟨secret, gives⟩ | withholds
      · exact (nowhere secret (.drawn gives)).elim
      · exact ⟨rfl, withholds⟩

/-- Without a secret one is drawn before anything else is done. -/
theorem create_null
    (source : RandomSource)
    (before : List Value)
    (padding : PaddingSource)
    (publicKey verifyToken : Value) :
    create source before padding publicKey verifyToken .null =
      source.sharedSecret before >>= fun drawn =>
        ofSecret padding publicKey verifyToken (.bytes drawn) :=
  rfl

theorem create_of_obtains
    (obtains : Obtains source before given secret)
    (padding : PaddingSource)
    (publicKey verifyToken : Value) :
    create source before padding publicKey verifyToken (handedOver given) =
      ofSecret padding publicKey verifyToken (.bytes secret) := by
  cases obtains with
  | given =>
      rfl
  | drawn gives =>
      have drawn : source.sharedSecret before = .ok secret :=
        RandomSource.fixedBytes_of_gives gives
      rw [handedOver, create_null, drawn, ok_bind]

theorem create_of_withholds
    (withholds : source.Withholds before sharedSecretLength fault)
    (padding : PaddingSource)
    (publicKey verifyToken : Value) :
    create source before padding publicKey verifyToken (handedOver none) = .error fault := by
  have undrawn : source.sharedSecret before = .error fault :=
    RandomSource.fixedBytes_of_withholds withholds
  rw [handedOver, create_null, undrawn]
  rfl

/-- A response is made with the secret that is obtained. -/
theorem obtains_of_create
    {publicKey verifyToken : Value}
    {response : EncryptionResponse}
    (made :
      create source before padding publicKey verifyToken (handedOver given) = .ok response) :
    ∃ secret,
      Obtains source before given secret ∧
      ofSecret padding publicKey verifyToken (.bytes secret) = .ok response := by
  by_cases obtained : ∃ secret, Obtains source before given secret
  · obtain ⟨secret, obtains⟩ := obtained
    exact ⟨secret, obtains, (create_of_obtains obtains padding _ _).symm.trans made⟩
  · obtain ⟨rfl, fault, withholds⟩ := withholds_of_not_obtains (not_exists.mp obtained)
    cases (create_of_withholds withholds padding _ _).symm.trans made

/-! ## With a secret -/

/-- A response is made of a key of the handshake that encrypts the secret and the token. -/
theorem ofSecret_eq_ok_iff {response : EncryptionResponse} :
    ofSecret padding (.bytes der) (.bytes token) (.bytes secret) = .ok response ↔
      ∃ key,
        ParsedKey.ofBytes der = .ok (.rsa key) ∧
        key.FitsHandshake ∧
        response.sharedSecret = .bytes secret ∧
        key.encrypt? padding secret = some response.encryptedSecret ∧
        key.encrypt? (padding.after paddingPerMessage) token =
          some response.encryptedVerifyToken := by
  simp only [ofSecret, bind_eq_ok_iff, pure_eq_ok_iff, PublicKey.ofValue_bytes,
    PublicKey.ofBytes_eq_ok_iff, PublicKey.encrypt_eq_ok_iff]
  constructor
  · rintro ⟨publicKey, ⟨parsed, _⟩, encryptedSecret, ⟨secretEncrypted, fits⟩, encryptedToken,
      ⟨tokenEncrypted, _⟩, rfl⟩
    exact ⟨publicKey.key, parsed, fits, rfl, secretEncrypted, tokenEncrypted⟩
  · rintro ⟨key, parsed, fits, isSecret, secretEncrypted, tokenEncrypted⟩
    refine ⟨⟨key, der⟩, ⟨parsed, rfl⟩, _, ⟨secretEncrypted, fits⟩, _, ⟨tokenEncrypted, fits⟩, ?_⟩
    rw [← isSecret]

/-- Bytes that are no RSA key are found out before anything is encrypted. -/
theorem ofSecret_of_notRsa (notRsa : ∀ key, ParsedKey.ofBytes der ≠ .ok (.rsa key)) :
    ∃ problem cause,
      ofSecret padding (.bytes der) (.bytes token) (.bytes secret) =
        .error (.invalidPublicKey problem cause) := by
  obtain ⟨problem, cause, failed⟩ := PublicKey.ofBytes_of_notRsa notRsa
  refine ⟨problem, cause, ?_⟩
  rw [ofSecret, PublicKey.ofValue_bytes, failed]
  rfl

/-- With an RSA key only an encryption can fail. -/
theorem ofSecret_error
    {key : RsaPublicKey}
    (parsed : ParsedKey.ofBytes der = .ok (.rsa key))
    (failed :
      ofSecret padding (.bytes der) (.bytes token) (.bytes secret) = .error fault) :
    ∃ problem cause, fault = .encryptionFailed problem cause := by
  have read : PublicKey.ofBytes der = .ok ⟨key, der⟩ :=
    PublicKey.ofBytes_eq_ok_iff.mpr ⟨parsed, rfl⟩
  rw [ofSecret, PublicKey.ofValue_bytes, read, ok_bind] at failed
  rcases bind_eq_error_iff.mp failed with secretFailed | ⟨encryptedSecret, _, failed⟩
  · exact PublicKey.encrypt_error secretFailed
  · rcases bind_eq_error_iff.mp failed with tokenFailed | ⟨encryptedToken, _, failed⟩
    · exact PublicKey.encrypt_error tokenFailed
    · cases failed

/-- What a response needs: an RSA key of the handshake, and two messages with room for padding. -/
structure IsPossible (der token secret : Bytes) (key : RsaPublicKey) : Prop where
  isKey : ParsedKey.ofBytes der = .ok (.rsa key)
  keySize_ge : 1017 ≤ key.keySize
  keySize_le : key.keySize ≤ 1024
  secret_length : secret.length ≤ 117
  token_length : token.length ≤ 117

theorem IsPossible.fitsHandshake
    {key : RsaPublicKey}
    (possible : IsPossible der token secret key) :
    key.FitsHandshake :=
  RsaPublicKey.fitsHandshake_iff.mpr ⟨possible.keySize_ge, possible.keySize_le⟩

/-- Nothing else is needed of a key that encrypts what fits. -/
theorem IsPossible.ofSecret_eq_ok
    {key : RsaPublicKey}
    (possible : IsPossible der token secret key)
    (encrypts : key.EncryptsWhatFits)
    (padding : PaddingSource) :
    ∃ response,
      ofSecret padding (.bytes der) (.bytes token) (.bytes secret) = .ok response := by
  have fits := possible.fitsHandshake
  have secretFits := fits.hasRoom_iff.mpr possible.secret_length
  have tokenFits := fits.hasRoom_iff.mpr possible.token_length
  obtain ⟨encryptedSecret, secretEncrypted⟩ :=
    Option.isSome_iff_exists.mp (encrypts padding secret secretFits)
  obtain ⟨encryptedToken, tokenEncrypted⟩ :=
    Option.isSome_iff_exists.mp (encrypts (padding.after paddingPerMessage) token tokenFits)
  exact ⟨⟨.bytes secret, encryptedSecret, encryptedToken⟩,
    ofSecret_eq_ok_iff.mpr ⟨key, possible.isKey, fits, rfl, secretEncrypted, tokenEncrypted⟩⟩

section Made

variable {response : EncryptionResponse}
  (made : ofSecret padding (.bytes der) (.bytes token) (.bytes secret) = .ok response)
include made

theorem isPossible_of_ofSecret : ∃ key, IsPossible der token secret key := by
  obtain ⟨key, parsed, fits, _, secretEncrypted, tokenEncrypted⟩ := ofSecret_eq_ok_iff.mp made
  obtain ⟨keySize_ge, keySize_le⟩ := RsaPublicKey.fitsHandshake_iff.mp fits
  exact ⟨key, parsed, keySize_ge, keySize_le,
    fits.hasRoom_iff.mp (RsaPublicKey.lengths_of_encrypt? secretEncrypted).2,
    fits.hasRoom_iff.mp (RsaPublicKey.lengths_of_encrypt? tokenEncrypted).2⟩

/-- The holder of the private key gets back what the response was made of. -/
theorem decrypt_of_ofSecret
    {pair : KeyPair}
    {key : RsaPrivateKey}
    (isRsa : pair.key = .rsa key)
    (genuine : key.IsGenuine)
    (belongs : ParsedKey.ofBytes der = .ok (.rsa key.publicKey)) :
    pair.decrypt (.bytes response.encryptedSecret) = .ok secret ∧
      pair.decrypt (.bytes response.encryptedVerifyToken) = .ok token := by
  obtain ⟨publicKey, parsed, fits, _, secretEncrypted, tokenEncrypted⟩ :=
    ofSecret_eq_ok_iff.mp made
  cases parsed.symm.trans belongs
  exact ⟨KeyPair.decrypt_of_encrypt? isRsa genuine fits secretEncrypted,
    KeyPair.decrypt_of_encrypt? isRsa genuine fits tokenEncrypted⟩

end Made

/-- An RSA key for which something else is missing is a failed encryption. -/
theorem ofSecret_of_impossible
    {key : RsaPublicKey}
    (parsed : ParsedKey.ofBytes der = .ok (.rsa key))
    (impossible : ¬ IsPossible der token secret key) :
    ∃ problem cause,
      ofSecret padding (.bytes der) (.bytes token) (.bytes secret) =
        .error (.encryptionFailed problem cause) := by
  cases answered : ofSecret padding (.bytes der) (.bytes token) (.bytes secret) with
  | ok response =>
      obtain ⟨other, possible⟩ := isPossible_of_ofSecret answered
      cases parsed.symm.trans possible.isKey
      exact (impossible possible).elim
  | error fault =>
      obtain ⟨problem, cause, rfl⟩ := ofSecret_error parsed answered
      exact ⟨problem, cause, rfl⟩

/-! ## All or nothing -/

/-- A response that is made of a secret, a token and a public key. -/
structure IsMadeOf (response : EncryptionResponse) (der token secret : Bytes) : Prop where
  sharedSecret_eq : response.sharedSecret = .bytes secret
  encryptedSecret_length : response.encryptedSecret.length = 128
  encryptedVerifyToken_length : response.encryptedVerifyToken.length = 128
  /-- The private key that belongs to the public one decrypts both messages. -/
  decrypts :
    ∀ (pair : KeyPair) (key : RsaPrivateKey),
      pair.key = .rsa key →
      key.IsGenuine →
      ParsedKey.ofBytes der = .ok (.rsa key.publicKey) →
      pair.decrypt (.bytes response.encryptedSecret) = .ok secret ∧
        pair.decrypt (.bytes response.encryptedVerifyToken) = .ok token

theorem isMadeOf_of_ofSecret
    {response : EncryptionResponse}
    (made : ofSecret padding (.bytes der) (.bytes token) (.bytes secret) = .ok response) :
    response.IsMadeOf der token secret := by
  obtain ⟨key, _, fits, isSecret, secretEncrypted, tokenEncrypted⟩ := ofSecret_eq_ok_iff.mp made
  exact {
    sharedSecret_eq := isSecret
    encryptedSecret_length := (RsaPublicKey.lengths_of_encrypt? secretEncrypted).1.trans fits
    encryptedVerifyToken_length := (RsaPublicKey.lengths_of_encrypt? tokenEncrypted).1.trans fits
    decrypts := fun _ _ isRsa genuine belongs => decrypt_of_ofSecret made isRsa genuine belongs }

/--
The answers to an encryption request, given the source and what it was asked before.

A response is made exactly if all that it needs is there.  Otherwise the fault is that of
the first thing that is missing: the secret, the RSA key, or the encryption.
-/
structure AllOrNothing
    (respond : RandomSource → List Value → Except Fault EncryptionResponse)
    (der token : Bytes)
    (given : Option Bytes)
    (source : RandomSource)
    (before : List Value) : Prop where
  responds_iff :
    (∃ response, respond source before = .ok response) ↔
      ∃ secret key, Obtains source before given secret ∧ IsPossible der token secret key
  isMadeOf :
    ∀ response,
      respond source before = .ok response →
      ∃ secret, Obtains source before given secret ∧ response.IsMadeOf der token secret
  /-- With a secret at hand nothing depends on what a source gives. -/
  undrawn :
    given.isSome → ∀ otherSource otherBefore,
      respond otherSource otherBefore = respond source before
  withheld :
    (∀ secret, ¬ Obtains source before given secret) →
    ∃ fault,
      source.Withholds before sharedSecretLength fault ∧ respond source before = .error fault
  notRsa :
    ∀ secret,
      Obtains source before given secret →
      (∀ key, ParsedKey.ofBytes der ≠ .ok (.rsa key)) →
      ∃ problem cause, respond source before = .error (.invalidPublicKey problem cause)
  unencrypted :
    ∀ secret key,
      Obtains source before given secret →
      ParsedKey.ofBytes der = .ok (.rsa key) →
      ¬ IsPossible der token secret key →
      ∃ problem cause, respond source before = .error (.encryptionFailed problem cause)

/--
A response is made entirely or not at all, and encrypts what it is made of.

All that is supposed of the arithmetic is that a key of the handshake encrypts whatever
leaves room for the padding, as every key with an odd modulus does.
-/
theorem create_allOrNothing
    (source : RandomSource)
    (before : List Value)
    (padding : PaddingSource)
    (der token : Bytes)
    (given : Option Bytes)
    (encrypts :
      ∀ key,
        ParsedKey.ofBytes der = .ok (.rsa key) → key.FitsHandshake → key.EncryptsWhatFits) :
    AllOrNothing
      (fun source before =>
        create source before padding (.bytes der) (.bytes token) (handedOver given))
      der token given source before := by
  constructor
  case responds_iff =>
    constructor
    · rintro ⟨response, made⟩
      obtain ⟨secret, obtains, made⟩ := obtains_of_create made
      obtain ⟨key, possible⟩ := isPossible_of_ofSecret made
      exact ⟨secret, key, obtains, possible⟩
    · rintro ⟨secret, key, obtains, possible⟩
      obtain ⟨response, made⟩ :=
        possible.ofSecret_eq_ok (encrypts key possible.isKey possible.fitsHandshake) padding
      exact ⟨response, (create_of_obtains obtains padding _ _).trans made⟩
  case isMadeOf =>
    intro response made
    obtain ⟨secret, obtains, made⟩ := obtains_of_create made
    exact ⟨secret, obtains, isMadeOf_of_ofSecret made⟩
  case undrawn =>
    intro isGiven otherSource otherBefore
    obtain ⟨secret, rfl⟩ := Option.isSome_iff_exists.mp isGiven
    rfl
  case withheld =>
    intro nowhere
    obtain ⟨rfl, fault, withholds⟩ := withholds_of_not_obtains nowhere
    exact ⟨fault, withholds, create_of_withholds withholds padding _ _⟩
  case notRsa =>
    intro secret obtains notRsa
    obtain ⟨problem, cause, failed⟩ := ofSecret_of_notRsa notRsa
    exact ⟨problem, cause, (create_of_obtains obtains padding _ _).trans failed⟩
  case unencrypted =>
    intro secret key obtains parsed impossible
    obtain ⟨problem, cause, failed⟩ := ofSecret_of_impossible parsed impossible
    exact ⟨problem, cause, (create_of_obtains obtains padding _ _).trans failed⟩

/-- A source that gives sixteen equal bytes has a response made for a key of the handshake. -/
theorem create_allOrNothing_smooth :
    let pair : KeyPair := ⟨.rsa RsaPrivateKey.smooth⟩
    let drawn : Bytes := List.replicate sharedSecretLength 7
    (∀ key,
        ParsedKey.ofBytes pair.publicDer = .ok (.rsa key) →
        key.FitsHandshake →
        key.EncryptsWhatFits) ∧
      ∃ response,
        create (fun _ _ => .ok (.bytes drawn)) [] (fun _ => ⟨1, by decide⟩)
            (.bytes pair.publicDer) (.bytes [1, 2, 3, 4]) .null =
          .ok response ∧
        response.sharedSecret = .bytes drawn ∧
        response.encryptedSecret.length = 128 ∧
        response.encryptedVerifyToken.length = 128 ∧
        pair.decrypt (.bytes response.encryptedSecret) = .ok drawn ∧
        pair.decrypt (.bytes response.encryptedVerifyToken) = .ok [1, 2, 3, 4] := by
  intro pair drawn
  have isKey := RsaPrivateKey.smooth_isHandshakeKey
  have parsed :
      ParsedKey.ofBytes pair.publicDer = .ok (.rsa RsaPrivateKey.smooth.publicKey) :=
    KeyPair.parsed_publicDer rfl isKey
  have encrypts :
      ∀ key,
        ParsedKey.ofBytes pair.publicDer = .ok (.rsa key) →
        key.FitsHandshake →
        key.EncryptsWhatFits := by
    intro key isRead fits
    cases parsed.symm.trans isRead
    exact fits.encryptsWhatFits_iff.mpr isKey.modulus_odd
  have answers :=
    create_allOrNothing (fun _ _ => .ok (.bytes drawn)) [] (fun _ => ⟨1, by decide⟩)
      pair.publicDer [1, 2, 3, 4] none encrypts
  obtain ⟨keySize_ge, keySize_le⟩ := RsaPublicKey.fitsHandshake_iff.mp isKey.fitsHandshake
  have possible : IsPossible pair.publicDer [1, 2, 3, 4] drawn RsaPrivateKey.smooth.publicKey :=
    ⟨parsed, keySize_ge, keySize_le, by decide, by decide⟩
  obtain ⟨response, made⟩ := answers.responds_iff.mpr ⟨drawn, _, .drawn ⟨rfl, rfl⟩, possible⟩
  obtain ⟨secret, obtains, isMade⟩ := answers.isMadeOf response made
  cases obtains with
  | drawn gives =>
      cases gives.1
      obtain ⟨secretBack, tokenBack⟩ :=
        isMade.decrypts pair RsaPrivateKey.smooth rfl isKey.toIsGenuine parsed
      exact ⟨encrypts, response, made, isMade.sharedSecret_eq, isMade.encryptedSecret_length,
        isMade.encryptedVerifyToken_length, secretBack, tokenBack⟩

end EncryptionResponse

end SessionHandshake
