import SessionHandshake.Proofs.EncryptionResponse

namespace SessionHandshake

/-!
# Failed encryptions

Only bytes can be encrypted, and only if they leave room for the padding.  Everything else
should be a failed encryption whose message tells how long the value is.  A value that has
no length cannot be told of in this way, and is of the wrong type for the message as well.
-/

/-- How an attempt to encrypt a value of any type may end. -/
inductive EncryptionEnd (message : Value) : Except Fault Bytes → Prop where
  | encrypted {content ciphertext : Bytes} :
      message = .bytes content →
      ciphertext.length = 128 →
      EncryptionEnd message (.ok ciphertext)
  /-- The value cannot be encrypted, and the fault tells how long it is. -/
  | refused {length : Nat} {cause : Fault} :
      message.length? = some length →
      cause.isBadValueOrType = true →
      EncryptionEnd message
        (.error (.encryptionFailed (.encryption length) (some cause)))
  /-- The key is not one of the handshake. -/
  | misfit {content : Bytes} {got : Nat} :
      message = .bytes content →
      got ≠ 128 →
      EncryptionEnd message (.error (.encryptionFailed (.ciphertextLength 128 got) none))
  | immeasurable :
      message.length? = none →
      EncryptionEnd message (.error .wrongType)

/-- A failure to encrypt is not reported as one exactly where the value has no length. -/
theorem EncryptionEnd.unreported_iff
    {message : Value}
    {outcome : Except Fault Bytes}
    (ends : EncryptionEnd message outcome) :
    (∃ fault, outcome = .error fault ∧ fault.family? ≠ some .encryptionFailed) ↔
      message.length? = none := by
  constructor
  · rintro ⟨fault, failed, unreported⟩
    cases ends with
    | encrypted _ _ =>
        cases failed
    | refused _ _ =>
        cases failed
        exact (unreported rfl).elim
    | misfit _ _ =>
        cases failed
        exact (unreported rfl).elim
    | immeasurable hasNone =>
        exact hasNone
  · intro hasNone
    cases ends with
    | encrypted isBytes _ =>
        rw [isBytes] at hasNone
        cases hasNone
    | refused hasLength _ =>
        cases hasLength.symm.trans hasNone
    | misfit isBytes _ =>
        rw [isBytes] at hasNone
        cases hasNone
    | immeasurable _ =>
        exact ⟨.wrongType, rfl, by decide⟩

namespace PublicKey

variable (publicKey : PublicKey) (padding : PaddingSource)

theorem encryptBytes_end (content : Bytes) :
    EncryptionEnd (.bytes content) (publicKey.encryptBytes padding content) := by
  unfold encryptBytes
  split
  · exact .refused rfl rfl
  · split
    · next isWhole =>
        exact .encrypted rfl isWhole
    · next isMisfit =>
        exact .misfit rfl isMisfit

theorem encrypt_end (message : Value) :
    EncryptionEnd message (publicKey.encrypt padding message) := by
  unfold encrypt
  split
  · next content =>
      exact publicKey.encryptBytes_end padding content
  · split
    · next hasLength =>
        exact .refused hasLength rfl
    · next hasNone =>
        exact .immeasurable hasNone

variable {publicKey}

/-- The key that was read is read once more from the bytes that it keeps. -/
theorem ofValue_der {der : Value} (read : ofValue der = .ok publicKey) :
    ofValue (.bytes publicKey.der) = .ok publicKey := by
  unfold ofValue at read
  split at read
  · have kept := (ofBytes_eq_ok_iff.mp read).2
    rw [ofValue_bytes, kept, read]
  · cases read

/--
Whatever is to be encrypted ends as a ciphertext of 128 bytes or as a failed encryption,
unless it has no length: that, and nothing else, is a fault of another kind.  It makes no
difference whether the key is at hand or is first read from its bytes.
-/
theorem encrypt_ends
    {der : Value}
    (read : ofValue der = .ok publicKey)
    (padding : PaddingSource)
    (message : Value) :
    EncryptionEnd message (publicKey.encrypt padding message) ∧
      ((∃ fault,
          publicKey.encrypt padding message = .error fault ∧
            fault.family? ≠ some .encryptionFailed) ↔
        message.length? = none) ∧
      (ofValue (.bytes publicKey.der) >>= fun key => key.encrypt padding message) =
        publicKey.encrypt padding message := by
  have ends := publicKey.encrypt_end padding message
  refine ⟨ends, ends.unreported_iff, ?_⟩
  rw [ofValue_der read, ok_bind]

/-- A text is too much of another type to be encrypted, and has a length to be told. -/
theorem encrypt_ends_smooth :
    let pair : KeyPair := ⟨.rsa RsaPrivateKey.smooth⟩
    let publicKey : PublicKey := ⟨RsaPrivateKey.smooth.publicKey, pair.publicDer⟩
    let padding : PaddingSource := fun _ => ⟨1, by decide⟩
    ofValue (.bytes pair.publicDer) = .ok publicKey ∧
      (ofValue (.bytes publicKey.der) >>= fun key =>
          key.encrypt padding (Value.ofString "secret")) =
        .error (.encryptionFailed (.encryption 6) (some .wrongType)) := by
  intro pair publicKey padding
  have read : ofValue (.bytes pair.publicDer) = .ok publicKey :=
    KeyPair.ofValue_publicDer rfl RsaPrivateKey.smooth_isHandshakeKey
  exact ⟨read, (encrypt_ends read padding (Value.ofString "secret")).2.2⟩

/-- The absent value has no length, and encrypting it is not a failed encryption. -/
theorem encrypt_null :
    let pair : KeyPair := ⟨.rsa RsaPrivateKey.smooth⟩
    ∃ publicKey,
      ofValue (.bytes pair.publicDer) = .ok publicKey ∧
        ∀ padding,
          publicKey.encrypt padding .null = .error .wrongType ∧
            Fault.wrongType.family? ≠ some .encryptionFailed :=
  ⟨_, KeyPair.ofValue_publicDer rfl RsaPrivateKey.smooth_isHandshakeKey,
    fun _ => ⟨rfl, by decide⟩⟩

end PublicKey

end SessionHandshake
