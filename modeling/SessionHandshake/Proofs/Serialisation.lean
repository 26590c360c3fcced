import SessionHandshake.Proofs.KeyPair

namespace SessionHandshake

/-!
# Key pairs survive being written

A key pair that was read from an RSA key is read back from what it writes.  A client
reads its public key back if the public exponent is less than the modulus, and the pair
decrypts what is encrypted with it if the private exponent is not longer than the
modulus; neither of the two is asked of a private key that is read.
-/

/-! ## What was read -/

namespace RsaPrivateKey

variable {isPrime : PrimalityCheck} {key : RsaPrivateKey} {bytes : Bytes}

theorem isConsistent_of_ofBare?
    (read : ofBare? isPrime bytes = some key) :
    key.isConsistent isPrime = true := by
  unfold ofBare? at read
  split at read
  · simp only at read
    split at read
    · next accepted =>
        cases read
        exact accepted.2
    · cases read
  · cases read

end RsaPrivateKey

namespace PrivateKey

variable {isPrime : PrimalityCheck} {key : RsaPrivateKey} {bytes : Bytes}

theorem orUnreadable_eq_ok {found : Option PrivateKey} {read : PrivateKey}
    (isRead : orUnreadable found = .ok read) :
    found = some read := by
  cases found with
  | none =>
      cases isRead
  | some other =>
      cases isRead
      rfl

/-- Only the algorithm of RSA has RSA keys. -/
theorem ofBare?_of_ofAlgorithm
    {algorithm : Algorithm}
    (read : ofAlgorithm isPrime algorithm bytes = .ok (.rsa key)) :
    RsaPrivateKey.ofBare? isPrime bytes = some key := by
  cases algorithm with
  | rsa =>
      obtain ⟨other, found, same⟩ := Option.map_eq_some_iff.mp (orUnreadable_eq_ok read)
      cases same
      exact found
  | curve parameters =>
      rw [ofAlgorithm] at read
      cases found : CurvePrivateKey.ofBare (some parameters) bytes <;> rw [found] at read <;>
        cases read
  | signature group =>
      obtain ⟨_, _, same⟩ := Option.map_eq_some_iff.mp (orUnreadable_eq_ok read)
      cases same
  | agreement group =>
      rw [ofAlgorithm] at read
      split at read
      · obtain ⟨_, _, same⟩ := Option.map_eq_some_iff.mp (orUnreadable_eq_ok read)
        cases same
      · cases read
  | string kind =>
      rw [ofAlgorithm] at read
      split at read
      · split at read <;> cases read
      · cases read
  | other =>
      cases read

theorem isConsistent_of_ofWrapped (read : ofWrapped isPrime bytes = .ok (.rsa key)) :
    key.isConsistent isPrime = true := by
  unfold ofWrapped at read
  split at read
  · split at read
    · split at read
      · exact RsaPrivateKey.isConsistent_of_ofBare? (ofBare?_of_ofAlgorithm read)
      · cases read
    · cases read
  · cases read

theorem isConsistent_of_ofBare? (read : ofBare? isPrime bytes = some (.rsa key)) :
    key.isConsistent isPrime = true := by
  unfold ofBare? at read
  split at read
  · cases read
  · rcases Option.or_eq_some_iff.mp read with isRsa | ⟨_, isSignature⟩
    · obtain ⟨_, found, same⟩ := Option.map_eq_some_iff.mp isRsa
      cases same
      exact RsaPrivateKey.isConsistent_of_ofBare? found
    · obtain ⟨_, _, same⟩ := Option.map_eq_some_iff.mp isSignature
      cases same

/-- The parts of an RSA key belong together, in whatever form it was read. -/
theorem isConsistent_of_ofBytes (read : ofBytes isPrime bytes = .ok (.rsa key)) :
    key.isConsistent isPrime = true := by
  unfold ofBytes at read
  split at read
  · next wrapped =>
      cases read
      exact isConsistent_of_ofWrapped wrapped
  · split at read
    · next bare =>
        cases read
        exact isConsistent_of_ofBare? bare
    · split at read <;> cases read

end PrivateKey

/-! ## What belongs together -/

namespace RsaPrivateKey

variable {isPrime : PrimalityCheck} {key : RsaPrivateKey}

section Consistent

variable (consistent : key.isConsistent isPrime = true)
include consistent

theorem publicKey_hasRoom : key.publicKey.HasRoom where
  modulus := (isCoherent_of_isConsistent consistent).haveRoom _ (by simp [numbers, publicKey])
  exponent := (isCoherent_of_isConsistent consistent).haveRoom _ (by simp [numbers, publicKey])

/-- Both factors are odd and greater than one. -/
theorem modulus_ge (sound : isPrime.IsSound) : 9 ≤ key.modulus := by
  have coherent := isCoherent_of_isConsistent consistent
  have firstOdd := coherent.first_odd
  have secondOdd := coherent.second_odd
  have firstLarge := (sound key.firstPrime coherent.first_passes).two_le
  have secondLarge := (sound key.secondPrime coherent.second_passes).two_le
  rw [coherent.modulus_eq]
  exact Nat.mul_le_mul (by omega : 3 ≤ key.firstPrime) (by omega : 3 ≤ key.secondPrime)

/-- The numbers of the public key can be those of a key if the exponent is small enough. -/
theorem isValid_eq (sound : isPrime.IsSound) :
    key.publicKey.isValid = decide (key.publicExponent < key.modulus) := by
  have coherent := isCoherent_of_isConsistent consistent
  have room := (publicKey_hasRoom consistent).modulus
  have large := modulus_ge consistent sound
  have exponentOdd := coherent.exponent_odd
  have exponentLarge := coherent.exponent_gt
  have modulusEnough : 3 ≤ key.modulus := by
    omega
  have exponentEnough : 3 ≤ key.publicExponent := by
    omega
  simp only [publicKey] at room
  simp only [RsaPublicKey.isValid, publicKey, room, modulusEnough, exponentOdd, exponentEnough,
    decide_true, Bool.true_and]
  rfl

/-! ## The written private key -/

/-- The numbers that are written: a version of zero, and those of the key. -/
theorem writtenNumbers_haveRoom : ∀ number ∈ 0 :: key.numbers, Rsa.hasRoomFor number = true := by
  rw [List.forall_mem_cons]
  exact ⟨by decide, (isCoherent_of_isConsistent consistent).haveRoom⟩

omit consistent in
theorem bareBytes_eq (key : RsaPrivateKey) :
    key.bareBytes = (Der.sequenceElement ((0 :: key.numbers).map Der.naturalElement)).encoded :=
  rfl

theorem bareElement_length_le :
    (Der.sequenceElement ((0 :: key.numbers).map Der.naturalElement)).content.length ≤
      603979776 := by
  have sum := Der.naturals_length_le (writtenNumbers_haveRoom consistent)
  have count : (0 :: key.numbers).length = 9 := rfl
  rw [count] at sum
  exact sum.trans (by decide)

theorem bareElement_isPlain :
    (Der.sequenceElement ((0 :: key.numbers).map Der.naturalElement)).IsPlain :=
  Der.sequenceElement_isPlain ((bareElement_length_le consistent).trans_lt (by decide))

theorem bareBytes_length_le : key.bareBytes.length ≤ 603979782 := by
  have short := bareElement_length_le consistent
  have whole := Der.encoded_length_le (bareElement_isPlain consistent)
  rw [bareBytes_eq]
  omega

/-- The numbers of the key are read back. -/
theorem ofBare?_bareBytes : ofBare? isPrime key.bareBytes = some key := by
  rw [ofBare?, bareBytes_eq, Der.element?_encoded (bareElement_isPlain consistent),
    Option.bind_some,
    Der.members?_sequenceElement (Der.naturals_arePlain (writtenNumbers_haveRoom consistent)),
    Option.bind_some, Der.mapM_natural?_naturalElement]
  exact if_pos ⟨rfl, consistent⟩

/-- The elements of a written private key: a version of zero, the algorithm, and the key. -/
def privateParts (key : RsaPrivateKey) : List DerElement :=
  [Der.naturalElement 0, Algorithm.rsaElement, Der.bytesElement key.bareBytes]

omit consistent in
theorem privateDer_eq (key : RsaPrivateKey) :
    (PrivateKey.rsa key).privateDer = (Der.sequenceElement key.privateParts).encoded :=
  rfl

theorem privateParts_arePlain : ∀ element ∈ key.privateParts, element.IsPlain := by
  have short := bareBytes_length_le consistent
  rw [privateParts, List.forall_mem_cons, List.forall_mem_cons, List.forall_mem_singleton]
  exact ⟨Der.naturalElement_isPlain (by decide), Algorithm.rsaElement_isPlain,
    Der.bytesElement_isPlain (by omega)⟩

theorem privateParts_length_le :
    (Der.sequenceElement key.privateParts).content.length ≤ 1811939364 := by
  have areShort : ∀ element ∈ key.privateParts, element.content.length ≤ 603979782 := by
    rw [privateParts, List.forall_mem_cons, List.forall_mem_cons, List.forall_mem_singleton]
    exact ⟨(Der.naturalElement_length_le_of_room (by decide)).trans (by decide),
      Algorithm.rsaElement_length_le.trans (by decide), bareBytes_length_le consistent⟩
  have sum := Der.sequenceElement_length_le (privateParts_arePlain consistent) areShort
  have count : key.privateParts.length = 3 := rfl
  omega

/-- A private key is read back from the bytes that it writes. -/
theorem ofBytes_privateDer :
    PrivateKey.ofBytes isPrime (PrivateKey.rsa key).privateDer = .ok (.rsa key) := by
  have isPlain : (Der.sequenceElement key.privateParts).IsPlain :=
    Der.sequenceElement_isPlain ((privateParts_length_le consistent).trans_lt (by decide))
  have wrapped :
      PrivateKey.ofWrapped isPrime (PrivateKey.rsa key).privateDer = .ok (.rsa key) := by
    rw [PrivateKey.ofWrapped, privateDer_eq, Der.element?_encoded isPlain, Option.bind_some,
      Der.members?_sequenceElement (privateParts_arePlain consistent)]
    have content : (Der.bytesElement key.bareBytes).bytes? = some key.bareBytes := rfl
    simp only [privateParts, Algorithm.ofElement?_rsaElement, content,
      Der.natural?_naturalElement, PrivateKey.areAttributes, and_self, if_true,
      PrivateKey.ofAlgorithm, ofBare?_bareBytes consistent, Option.map_some]
    rfl
  rw [PrivateKey.ofBytes, wrapped]

end Consistent

end RsaPrivateKey

/-! ## What survives -/

/-- What becomes of a key pair of an RSA key that is written and read again. -/
structure KeyPair.Survives
    (isPrime : PrimalityCheck)
    (pair : KeyPair)
    (key : RsaPrivateKey) : Prop where
  restored : KeyPair.ofValue (.bytes pair.privateDer) isPrime = .ok pair
  published :
    key.publicExponent < key.modulus →
      PublicKey.ofValue (.bytes pair.publicDer) =
        .ok { key := key.publicKey, der := pair.publicDer }
  unpublished :
    key.modulus ≤ key.publicExponent →
      PublicKey.ofValue (.bytes pair.publicDer) =
        .error (.invalidPublicKey .unreadable (some ParsedKey.unreadable))
  decrypts :
    key.publicExponent < key.modulus →
    Rsa.byteLength key.modulus = 128 →
    Rsa.byteLength key.privateExponent ≤ 128 →
    ∀ (data : Bytes) (padding : PaddingSource),
      data.length ≤ 117 →
      ∃ ciphertext,
        PublicKey.encrypt { key := key.publicKey, der := pair.publicDer } padding (.bytes data) =
          .ok ciphertext ∧
        pair.decrypt (.bytes ciphertext) = .ok data
  locked :
    Rsa.byteLength key.modulus < Rsa.byteLength key.privateExponent →
      ∀ ciphertext,
        pair.decrypt (.bytes ciphertext) =
          .error (.encryptionFailed .decryption (some (.badValue .unspecified)))

namespace KeyPair

variable {isPrime : PrimalityCheck} {pair : KeyPair} {key : RsaPrivateKey}

theorem isConsistent_of_ofValue
    {value : Value}
    (isRead : ofValue value isPrime = .ok pair)
    (isRsa : pair.key = .rsa key) :
    key.isConsistent isPrime = true := by
  unfold ofValue at isRead
  split at isRead
  · next bytes _ =>
      rw [ofBytes] at isRead
      cases read : PrivateKey.ofBytes isPrime bytes with
      | error fault =>
          rw [read] at isRead
          cases isRead
      | ok found =>
          rw [read] at isRead
          cases isRead
          cases isRsa
          exact PrivateKey.isConsistent_of_ofBytes read
  · cases isRead

theorem ofValue_privateDer
    (isRsa : pair.key = .rsa key)
    (consistent : key.isConsistent isPrime = true) :
    ofValue (.bytes pair.privateDer) isPrime = .ok pair := by
  obtain ⟨read⟩ := pair
  cases isRsa
  have restored : ofBytes (PrivateKey.rsa key).privateDer isPrime = .ok { key := .rsa key } := by
    rw [ofBytes, RsaPrivateKey.ofBytes_privateDer consistent]
    rfl
  exact restored

/-- A private exponent that is longer than the modulus decrypts nothing. -/
theorem decrypt_eq_error
    (isRsa : pair.key = .rsa key)
    (isLonger : Rsa.byteLength key.modulus < Rsa.byteLength key.privateExponent)
    (ciphertext : Bytes) :
    pair.decrypt (.bytes ciphertext) =
      .error (.encryptionFailed .decryption (some (.badValue .unspecified))) := by
  have refused : key.decrypt? Hash.sha256 ciphertext = none :=
    if_neg fun possible => Nat.not_le.mpr isLonger possible.2.2
  simp only [decrypt, isRsa, decryptBytes, refused]

/--
A key pair that was read from an RSA key, with a sound check of its factors, is read back
from what it writes.  A client reads its public key back exactly if the public exponent is
less than the modulus.  What a client then encrypts is decrypted, unless the private
exponent is longer than the modulus.
-/
theorem survives
    {value : Value}
    (sound : isPrime.IsSound)
    (isRead : ofValue value isPrime = .ok pair)
    (isRsa : pair.key = .rsa key) :
    pair.Survives isPrime key := by
  have consistent := isConsistent_of_ofValue isRead isRsa
  have published :=
    ofValue_publicDer_eq (RsaPrivateKey.publicKey_hasRoom consistent) isRsa
  rw [RsaPrivateKey.isValid_eq consistent sound] at published
  exact {
    restored := ofValue_privateDer isRsa consistent
    published := fun exponent_lt => by
      rw [published, if_pos (decide_eq_true exponent_lt)]
    unpublished := fun exponent_ge => by
      rw [published, if_neg]
      exact fun small => Nat.not_lt.mpr exponent_ge (of_decide_eq_true small)
    decrypts := by
      intro exponent_lt isLong isShort data padding fits
      have genuine :=
        RsaPrivateKey.isGenuine_of_isConsistent sound consistent exponent_lt (isLong ▸ isShort)
      exact decrypt_encrypt isRsa genuine isLong pair.publicDer
        (Nat.add_le_add_right fits Rsa.paddingOverhead) padding
    locked := decrypt_eq_error isRsa }

/-- The pair of the smooth key survives, and decrypts what is encrypted with it. -/
theorem survives_smooth :
    let pair := KeyPair.mk (.rsa RsaPrivateKey.smooth)
    ofValue (.bytes pair.privateDer) PrimalityCheck.exact = .ok pair ∧
      pair.Survives PrimalityCheck.exact RsaPrivateKey.smooth ∧
      ∀ (data : Bytes) (padding : PaddingSource),
        data.length ≤ 117 →
        ∃ publicKey ciphertext,
          PublicKey.ofValue (.bytes pair.publicDer) = .ok publicKey ∧
          publicKey.encrypt padding (.bytes data) = .ok ciphertext ∧
          pair.decrypt (.bytes ciphertext) = .ok data := by
  intro pair
  have isRead : ofValue (.bytes pair.privateDer) PrimalityCheck.exact = .ok pair :=
    ofValue_privateDer rfl RsaPrivateKey.smooth_isConsistent
  have survives := survives PrimalityCheck.exact_isSound isRead rfl
  have exponent_lt : RsaPrivateKey.smooth.publicExponent < RsaPrivateKey.smooth.modulus :=
    RsaPrivateKey.smooth_isHandshakeKey.exponent_lt
  refine ⟨isRead, survives, fun data padding fits => ?_⟩
  obtain ⟨ciphertext, encrypted, decrypted⟩ :=
    survives.decrypts exponent_lt (by decide +kernel) (by decide +kernel) data padding fits
  exact ⟨_, ciphertext, survives.published exponent_lt, encrypted, decrypted⟩

end KeyPair

namespace RsaPrivateKey

/-- The smooth key with multiples of the order of the powers added to its exponents. -/
def widened (publicTurns privateTurns : Nat) : RsaPrivateKey :=
  let order := Nat.lcm (smooth.firstPrime - 1) (smooth.secondPrime - 1)
  { smooth with
    publicExponent := smooth.publicExponent + publicTurns * order
    privateExponent := smooth.privateExponent + privateTurns * order }

theorem widened_public_isConsistent :
    (widened (2 ^ 170) 0).isConsistent PrimalityCheck.exact = true :=
  isConsistent_exact (by decide +kernel) smooth_firstPrime smooth_secondPrime

theorem widened_private_isConsistent :
    (widened 0 (2 ^ 170)).isConsistent PrimalityCheck.exact = true :=
  isConsistent_exact (by decide +kernel) smooth_firstPrime smooth_secondPrime

end RsaPrivateKey

namespace KeyPair

/-- A pair whose public exponent exceeds the modulus. -/
def widePublic : KeyPair where
  key := .rsa (RsaPrivateKey.widened (2 ^ 170) 0)

theorem widePublic_key : widePublic.key = .rsa (RsaPrivateKey.widened (2 ^ 170) 0) :=
  rfl

theorem widePublic_unpublished (publicKey : PublicKey) :
    PublicKey.ofValue (.bytes widePublic.publicDer) ≠ .ok publicKey := by
  intro read
  rw [ofValue_publicDer_eq
      (RsaPrivateKey.publicKey_hasRoom RsaPrivateKey.widened_public_isConsistent)
      widePublic_key,
    if_neg (by decide +kernel)] at read
  cases read

/-- A pair whose private exponent takes a byte more than the modulus. -/
def widePrivate : KeyPair where
  key := .rsa (RsaPrivateKey.widened 0 (2 ^ 170))

theorem widePrivate_key : widePrivate.key = .rsa (RsaPrivateKey.widened 0 (2 ^ 170)) :=
  rfl

/-- What a client reads of the pair whose private exponent is too long. -/
def widePrivatePublished : PublicKey where
  key := (RsaPrivateKey.widened 0 (2 ^ 170)).publicKey
  der := widePrivate.publicDer

theorem widePrivate_published :
    PublicKey.ofValue (.bytes widePrivate.publicDer) = .ok widePrivatePublished := by
  rw [ofValue_publicDer_eq
      (RsaPrivateKey.publicKey_hasRoom RsaPrivateKey.widened_private_isConsistent)
      widePrivate_key,
    if_pos (by decide +kernel)]
  rfl

theorem widePrivate_encrypts :
    ∃ ciphertext,
      widePrivatePublished.encrypt (fun _ => ⟨1, by decide⟩) (.bytes [104, 105]) =
        .ok ciphertext := by
  have encrypts :
      (widePrivatePublished.encrypt (fun _ => ⟨1, by decide⟩)
        (.bytes [104, 105])).toOption.isSome = true := by
    decide +kernel
  cases encrypted :
      widePrivatePublished.encrypt (fun _ => ⟨1, by decide⟩) (.bytes [104, 105]) with
  | error fault =>
      rw [encrypted] at encrypts
      cases encrypts
  | ok ciphertext =>
      exact ⟨ciphertext, rfl⟩

/--
Both pairs are read, and the modulus of both takes 128 bytes.  But no client reads the
public key of the one, and the other does not decrypt what a client encrypts for it.
-/
theorem wide_exponents_do_not_survive :
    ofValue (.bytes widePublic.privateDer) PrimalityCheck.exact = .ok widePublic ∧
      (∀ publicKey, PublicKey.ofValue (.bytes widePublic.publicDer) ≠ .ok publicKey) ∧
      ofValue (.bytes widePrivate.privateDer) PrimalityCheck.exact = .ok widePrivate ∧
      ∃ publicKey ciphertext,
        PublicKey.ofValue (.bytes widePrivate.publicDer) = .ok publicKey ∧
          Rsa.byteLength publicKey.key.modulus = 128 ∧
          publicKey.encrypt (fun _ => ⟨1, by decide⟩) (.bytes [104, 105]) = .ok ciphertext ∧
          ∀ data, widePrivate.decrypt (.bytes ciphertext) ≠ .ok data := by
  obtain ⟨ciphertext, encrypted⟩ := widePrivate_encrypts
  have notDecrypted (data : Bytes) : widePrivate.decrypt (.bytes ciphertext) ≠ .ok data := by
    intro decrypted
    rw [decrypt_eq_error widePrivate_key (by decide +kernel)] at decrypted
    cases decrypted
  exact ⟨ofValue_privateDer widePublic_key RsaPrivateKey.widened_public_isConsistent,
    widePublic_unpublished,
    ofValue_privateDer widePrivate_key RsaPrivateKey.widened_private_isConsistent,
    widePrivatePublished, ciphertext, widePrivate_published, by decide +kernel, encrypted,
    notDecrypted⟩

end KeyPair

end SessionHandshake
