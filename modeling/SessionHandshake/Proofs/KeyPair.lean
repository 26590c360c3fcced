import SessionHandshake.Key.Exchange
import SessionHandshake.Key.Pair
import SessionHandshake.Proofs.Der
import SessionHandshake.Proofs.Outcome
import SessionHandshake.Proofs.Rsa

namespace SessionHandshake

/-!
# Key pairs of the handshake

A genuine key pair of the handshake's size writes a public key that every client
reads back, and decrypts whatever was encrypted with it.
-/

/-! ## Written numbers -/

namespace Rsa

theorem bitLength_le_of_le {small large : Nat} (isLess : small ≤ large) :
    bitLength small ≤ bitLength large := by
  by_cases isZero : small = 0
  · rw [isZero]
    exact Nat.zero_le _
  · have notZero : large ≠ 0 := by
      omega
    have logarithms : small.log2 ≤ large.log2 :=
      (Nat.le_log2 notZero).mpr ((Nat.log2_self_le isZero).trans isLess)
    rw [bitLength, bitLength, if_neg isZero, if_neg notZero]
    omega

theorem hasRoomFor_of_le
    {small large : Nat}
    (isLess : small ≤ large)
    (room : hasRoomFor large = true) :
    hasRoomFor small = true := by
  rw [hasRoomFor, decide_eq_true_eq] at room ⊢
  exact (bitLength_le_of_le isLess).trans room

end Rsa

namespace Der

/-- A number that the arithmetic of keys has room for is a short element. -/
theorem naturalElement_length_le_of_room
    {number : Nat}
    (room : Rsa.hasRoomFor number = true) :
    (naturalElement number).content.length ≤ 67108858 := by
  have bits : Rsa.bitLength number ≤ 536870848 := of_decide_eq_true room
  have bytes : Rsa.byteLength number ≤ 67108856 := by
    rw [Rsa.byteLength]
    omega
  have fits : number < 256 ^ (Rsa.byteLength number + 1) :=
    (Rsa.lt_pow_byteLength number).trans_le
      (Nat.pow_le_pow_right (by decide) (Nat.le_succ _))
  have short := naturalElement_length_le fits
  omega

theorem naturalElement_isPlain
    {number : Nat}
    (room : Rsa.hasRoomFor number = true) :
    (naturalElement number).IsPlain where
  number := by
    show 2 < 31
    decide
  form := rfl
  length := by
    have short := naturalElement_length_le_of_room room
    omega

section Naturals

variable
  {numbers : List Nat}
  (rooms : ∀ number ∈ numbers, Rsa.hasRoomFor number = true)
include rooms

theorem naturals_arePlain : ∀ element ∈ numbers.map naturalElement, element.IsPlain := by
  intro element member
  obtain ⟨number, isNumber, rfl⟩ := List.mem_map.mp member
  exact naturalElement_isPlain (rooms number isNumber)

theorem naturals_length_le :
    (sequenceElement (numbers.map naturalElement)).content.length ≤
      numbers.length * 67108864 := by
  have sum := sequenceElement_length_le (naturals_arePlain rooms) (by
    intro element member
    obtain ⟨number, isNumber, rfl⟩ := List.mem_map.mp member
    exact naturalElement_length_le_of_room (rooms number isNumber))
  rwa [List.length_map] at sum

end Naturals

end Der

namespace Algorithm

/-- The element that names the algorithm of RSA keys. -/
def rsaElement : DerElement :=
  element rsaIdentifier [Der.writeNull]

theorem rsaElement_isPlain : rsaElement.IsPlain where
  number := by
    decide
  form := by
    decide
  length := by
    decide +kernel

theorem rsaElement_length_le : rsaElement.content.length ≤ 20 := by
  decide +kernel

theorem ofElement?_rsaElement : ofElement? rsaElement = some .rsa := by
  decide +kernel

end Algorithm

/-! ## The written public key -/

/-- The arithmetic of keys has room for the numbers of a public key. -/
structure RsaPublicKey.HasRoom (key : RsaPublicKey) : Prop where
  modulus : Rsa.hasRoomFor key.modulus = true
  exponent : Rsa.hasRoomFor key.exponent = true

namespace RsaPrivateKey

variable {key : RsaPrivateKey}

/-- The element of the numbers of the public key. -/
def publicElement (key : RsaPrivateKey) : DerElement :=
  Der.sequenceElement ([key.modulus, key.publicExponent].map Der.naturalElement)

theorem publicBytes_eq (key : RsaPrivateKey) : key.publicBytes = key.publicElement.encoded :=
  rfl

section Room

variable (room : key.publicKey.HasRoom)
include room

theorem publicNumbers_haveRoom :
    ∀ number ∈ [key.modulus, key.publicExponent], Rsa.hasRoomFor number = true := by
  rw [List.forall_mem_cons, List.forall_mem_singleton]
  exact ⟨room.modulus, room.exponent⟩

theorem publicElement_length_le : key.publicElement.content.length ≤ 134217728 := by
  have sum := Der.naturals_length_le (publicNumbers_haveRoom room)
  have count : [key.modulus, key.publicExponent].length = 2 := rfl
  rw [count] at sum
  exact sum.trans (by decide)

theorem publicElement_isPlain : key.publicElement.IsPlain := by
  refine Der.sequenceElement_isPlain ?_
  have short := publicElement_length_le room
  rw [publicElement] at short
  omega

theorem publicBytes_length_le : key.publicBytes.length ≤ 134217734 := by
  have short := publicElement_length_le room
  have whole := Der.encoded_length_le (publicElement_isPlain room)
  rw [publicBytes_eq]
  omega

/-- The numbers of the public key are read back if they can be those of a key. -/
theorem ofBareRsa?_publicBytes :
    ParsedKey.ofBareRsa? key.publicBytes =
      if key.publicKey.isValid then some key.publicKey else none := by
  rw [ParsedKey.ofBareRsa?, publicBytes_eq, Der.element?_encoded (publicElement_isPlain room),
    Option.bind_some, publicElement,
    Der.members?_sequenceElement (Der.naturals_arePlain (publicNumbers_haveRoom room))]
  simp only [List.map_cons, List.map_nil, Der.natural?_naturalElement]
  rfl

end Room

end RsaPrivateKey

namespace PublicKey

theorem ofValue_bytes (der : Bytes) : ofValue (.bytes der) = ofBytes der :=
  rfl

theorem encrypt_bytes (publicKey : PublicKey) (padding : PaddingSource) (message : Bytes) :
    publicKey.encrypt padding (.bytes message) = publicKey.encryptBytes padding message :=
  rfl

end PublicKey

namespace KeyPair

variable {pair : KeyPair} {key : RsaPrivateKey}

/-- The elements of a written public key: the name of the algorithm, and the bytes of the key. -/
def publicParts (key : RsaPrivateKey) : List DerElement :=
  [Algorithm.rsaElement, Der.bitsElement key.publicBytes]

theorem publicDer_eq (isRsa : pair.key = .rsa key) :
    pair.publicDer = (Der.sequenceElement (publicParts key)).encoded := by
  rw [publicDer, PrivateKey.publicDer, isRsa]
  rfl

section Room

variable (room : key.publicKey.HasRoom)
include room

theorem publicParts_arePlain : ∀ element ∈ publicParts key, element.IsPlain := by
  have short := RsaPrivateKey.publicBytes_length_le room
  rw [publicParts, List.forall_mem_cons, List.forall_mem_singleton]
  exact ⟨Algorithm.rsaElement_isPlain, Der.bitsElement_isPlain (by omega)⟩

theorem publicParts_length_le :
    (Der.sequenceElement (publicParts key)).content.length ≤ 268435482 := by
  have areShort : ∀ element ∈ publicParts key, element.content.length ≤ 134217735 := by
    have short := RsaPrivateKey.publicBytes_length_le room
    rw [publicParts, List.forall_mem_cons, List.forall_mem_singleton]
    exact ⟨Algorithm.rsaElement_length_le.trans (by decide), Nat.succ_le_succ short⟩
  have sum := Der.sequenceElement_length_le (publicParts_arePlain room) areShort
  have count : (publicParts key).length = 2 := rfl
  omega

theorem members?_publicDer (isRsa : pair.key = .rsa key) :
    (Der.element? pair.publicDer).bind DerElement.members? = some (publicParts key) := by
  have isPlain : (Der.sequenceElement (publicParts key)).IsPlain := by
    refine Der.sequenceElement_isPlain ?_
    have short := publicParts_length_le room
    omega
  rw [publicDer_eq isRsa, Der.element?_encoded isPlain, Option.bind_some,
    Der.members?_sequenceElement (publicParts_arePlain room)]

/-- A client reads the public key that a key pair writes, if its numbers can be those of a key. -/
theorem ofValue_publicDer_eq (isRsa : pair.key = .rsa key) :
    PublicKey.ofValue (.bytes pair.publicDer) =
      if key.publicKey.isValid then
        .ok { key := key.publicKey, der := pair.publicDer }
      else
        .error (.invalidPublicKey .unreadable (some ParsedKey.unreadable)) := by
  have members := members?_publicDer room isRsa
  -- The name of the algorithm is no number, so the whole is no bare key.
  have notBare : ParsedKey.ofBareRsa? pair.publicDer = none := by
    rw [ParsedKey.ofBareRsa?, members]
    rfl
  have wrapped :
      ParsedKey.ofWrapped pair.publicDer =
        if key.publicKey.isValid then
          .ok (.rsa key.publicKey)
        else
          .error ParsedKey.unreadable := by
    rw [ParsedKey.ofWrapped, members]
    simp only [publicParts, Algorithm.ofElement?_rsaElement, Der.wholeBits?_bitsElement,
      ParsedKey.ofAlgorithm, RsaPrivateKey.ofBareRsa?_publicBytes room]
    cases key.publicKey.isValid <;> rfl
  rw [PublicKey.ofValue_bytes, PublicKey.ofBytes, ParsedKey.ofBytes, wrapped]
  cases key.publicKey.isValid with
  | true =>
      rfl
  | false =>
      simp only [Bool.false_eq_true, if_false, notBare]
      rfl

end Room

end KeyPair

/-! ## Keys of the handshake -/

/-- A private key is a genuine RSA key of the size that the handshake uses. -/
structure RsaPrivateKey.IsHandshakeKey (key : RsaPrivateKey) : Prop extends key.IsGenuine where
  size : key.publicKey.keySize = handshakeKeySize

namespace RsaPrivateKey.IsHandshakeKey

variable {key : RsaPrivateKey}

theorem byteLength (isKey : key.IsHandshakeKey) :
    Rsa.byteLength key.modulus = handshakeCiphertextLength := by
  have bits : Rsa.bitLength key.modulus = handshakeKeySize := isKey.size
  rw [Rsa.byteLength, bits]
  rfl

theorem hasRoom (isKey : key.IsHandshakeKey) : key.publicKey.HasRoom := by
  have bits : Rsa.bitLength key.modulus = handshakeKeySize := isKey.size
  have modulus : Rsa.hasRoomFor key.modulus = true := by
    rw [Rsa.hasRoomFor, bits]
    decide
  exact ⟨modulus, Rsa.hasRoomFor_of_le isKey.exponent_lt.le modulus⟩

theorem isValid (isKey : key.IsHandshakeKey) : key.publicKey.isValid = true := by
  have large : 3 ≤ key.modulus := isKey.exponent_ge.trans isKey.exponent_lt.le
  simp only [RsaPublicKey.isValid, Bool.and_eq_true]
  exact ⟨⟨⟨⟨isKey.hasRoom.modulus, decide_eq_true large⟩, decide_eq_true isKey.exponent_odd⟩,
    decide_eq_true isKey.exponent_ge⟩, decide_eq_true isKey.exponent_lt⟩

end RsaPrivateKey.IsHandshakeKey

/-- A modulus as long as the ciphertexts of the handshake is not too large to be used. -/
theorem RsaPublicKey.hasUsableSize_of_length
    {key : RsaPublicKey}
    (isLong : Rsa.byteLength key.modulus = handshakeCiphertextLength) :
    key.hasUsableSize = true := by
  have isShort : key.keySize ≤ Rsa.largeModulusBits := by
    have bytes : (key.keySize + 7) / 8 = 128 := isLong
    have bits : Rsa.largeModulusBits = 3072 := rfl
    omega
  simp only [hasUsableSize, Bool.and_eq_true, Bool.or_eq_true, decide_eq_true_eq]
  exact ⟨isShort.trans (by decide), .inl isShort⟩

namespace KeyPair

variable {pair : KeyPair} {key : RsaPrivateKey}

/-- A client reads the public key that a key pair writes. -/
theorem ofValue_publicDer
    (isRsa : pair.key = .rsa key)
    (isKey : key.IsHandshakeKey) :
    PublicKey.ofValue (.bytes pair.publicDer) =
      .ok { key := key.publicKey, der := pair.publicDer } := by
  rw [ofValue_publicDer_eq isKey.hasRoom isRsa, if_pos isKey.isValid]

/-- The pair decrypts whatever a client encrypts for it. -/
theorem decrypt_encrypt
    (isRsa : pair.key = .rsa key)
    (genuine : key.IsGenuine)
    (isLong : Rsa.byteLength key.modulus = handshakeCiphertextLength)
    (der : Bytes)
    {message : Bytes}
    (fits : message.length + Rsa.paddingOverhead ≤ handshakeCiphertextLength)
    (padding : PaddingSource) :
    ∃ ciphertext,
      PublicKey.encrypt { key := key.publicKey, der := der } padding (.bytes message) =
        .ok ciphertext ∧
      pair.decrypt (.bytes ciphertext) = .ok message := by
  obtain ⟨ciphertext, encrypted, length, decrypted⟩ :=
    genuine.decrypts (RsaPublicKey.hasUsableSize_of_length isLong) (isLong ▸ fits) padding
  refine ⟨ciphertext, ?_, ?_⟩
  · simp only [PublicKey.encrypt_bytes, PublicKey.encryptBytes, encrypted]
    rw [if_pos (length.trans isLong)]
  · simp only [decrypt, isRsa, decryptBytes, decrypted Hash.sha256]

end KeyPair

/-- The answer to an encryption request decrypts to what it was made of. -/
theorem EncryptionResponse.ofSecret_publicDer
    {pair : KeyPair}
    {key : RsaPrivateKey}
    (isRsa : pair.key = .rsa key)
    (isKey : key.IsHandshakeKey)
    {secret token : Bytes}
    (secretFits : secret.length + Rsa.paddingOverhead ≤ handshakeCiphertextLength)
    (tokenFits : token.length + Rsa.paddingOverhead ≤ handshakeCiphertextLength)
    (padding : PaddingSource) :
    ∃ response,
      EncryptionResponse.ofSecret padding (.bytes pair.publicDer) (.bytes token)
          (.bytes secret) =
        .ok response ∧
      response.sharedSecret = .bytes secret ∧
      pair.decrypt (.bytes response.encryptedSecret) = .ok secret ∧
      pair.decrypt (.bytes response.encryptedVerifyToken) = .ok token := by
  obtain ⟨encryptedSecret, secretEncrypted, secretDecrypted⟩ :=
    KeyPair.decrypt_encrypt isRsa isKey.toIsGenuine isKey.byteLength pair.publicDer secretFits
      padding
  obtain ⟨encryptedToken, tokenEncrypted, tokenDecrypted⟩ :=
    KeyPair.decrypt_encrypt isRsa isKey.toIsGenuine isKey.byteLength pair.publicDer tokenFits
      (padding.after paddingPerMessage)
  refine ⟨⟨.bytes secret, encryptedSecret, encryptedToken⟩, ?_, rfl, secretDecrypted,
    tokenDecrypted⟩
  simp only [EncryptionResponse.ofSecret, bind_eq_ok_iff, pure_eq_ok_iff]
  exact ⟨_, KeyPair.ofValue_publicDer isRsa isKey, encryptedSecret, secretEncrypted,
    encryptedToken, tokenEncrypted, rfl⟩

/-! ## One key of the handshake -/

namespace RsaPrivateKey

/-- A key of two primes that are one more than a product of powers of two and three. -/
def smooth : RsaPrivateKey :=
  let first := 3 ^ 71 * 2 ^ 399 + 1
  let second := 3 ^ 288 * 2 ^ 55 + 1
  let exponent := (Modular.inverse? 65537 (Nat.lcm (first - 1) (second - 1))).getD 0
  {
    modulus := first * second
    publicExponent := 65537
    privateExponent := exponent
    firstPrime := first
    secondPrime := second
    firstExponent := exponent % (first - 1)
    secondExponent := exponent % (second - 1)
    coefficient := (Modular.inverse? second first).getD 0
  }

theorem smooth_firstPrime : smooth.firstPrime.Prime :=
  Modular.prime_of_power_smooth 5 rfl (by decide +kernel) (by decide +kernel)

theorem smooth_secondPrime : smooth.secondPrime.Prime :=
  Modular.prime_of_power_smooth 11 rfl (by decide +kernel) (by decide +kernel)

theorem smooth_isConsistent : smooth.isConsistent PrimalityCheck.exact = true :=
  isConsistent_exact (by decide +kernel) smooth_firstPrime smooth_secondPrime

theorem smooth_isHandshakeKey : smooth.IsHandshakeKey where
  toIsGenuine :=
    isGenuine_of_isConsistent PrimalityCheck.exact_isSound smooth_isConsistent
      (by decide +kernel) (by decide +kernel)
  size := by
    decide +kernel

end RsaPrivateKey

end SessionHandshake
