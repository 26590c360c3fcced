import SessionHandshake.Digest
import SessionHandshake.Proofs.Bytes
import SessionHandshake.Proofs.Outcome
import SessionHandshake.Proofs.Utf8

namespace SessionHandshake

/-!
# The digest of a server

SHA-1 gives twenty bytes for every message, so every server whose identifier can
be written in bytes has a digest.  The digest depends on these bytes only, not
on whether the identifier was given as a text or already encoded.
-/

namespace Hash

theorem bytesOfWords32_length (words : List UInt32) :
    (bytesOfWords32 words).length = 4 * words.length := by
  induction words with
  | nil =>
      rfl
  | cons first rest inductionHypothesis =>
      have split : bytesOfWords32 (first :: rest) =
          bigEndian 4 first.toNat ++ bytesOfWords32 rest :=
        List.flatMap_cons
      rw [split, List.length_append, bigEndian_length, inductionHypothesis, List.length_cons]
      omega

namespace Sha1

/-- A round works on five words and gives five words. -/
theorem rounds_length
    (round : Nat)
    {words chain : List UInt32}
    (isChain : chain.length = 5) :
    (rounds round words chain).length = 5 := by
  induction words generalizing round chain with
  | nil =>
      rw [rounds]
      · exact isChain
      · intro word rest _ _ _ _ _ isCons
        cases isCons
  | cons word rest inductionHypothesis =>
      match chain, isChain with
      | [a, b, c, d, e], _ =>
          rw [rounds]
          exact inductionHypothesis (round + 1) rfl

theorem compress_length
    {chain : List UInt32}
    (isChain : chain.length = 5)
    (block : Bytes) :
    (compress chain block).length = 5 := by
  rw [compress, addWords, List.length_zipWith, isChain, rounds_length 0 isChain, Nat.min_self]

end Sha1

/-- The hash of every message has twenty bytes. -/
theorem sha1_length (message : Bytes) : (sha1 message).length = 20 := by
  have chained :
      ∀ (blocks : List Bytes) (chain : List UInt32),
        chain.length = 5 → (blocks.foldl Sha1.compress chain).length = 5 := by
    intro blocks
    induction blocks with
    | nil =>
        exact fun _ isChain => isChain
    | cons block rest inductionHypothesis =>
        exact fun _ isChain => inductionHypothesis _ (Sha1.compress_length isChain block)
  rw [sha1, bytesOfWords32_length, chained _ Sha1.initial rfl]

end Hash

namespace Digest

/-- A server is known by the hash of its identifier, the secret and the public key. -/
def named (serverId secret publicKey : Bytes) : Text :=
  signedHex (Hash.sha1 (serverId ++ secret ++ publicKey))

theorem ofServer_sha1 (serverId secret publicKey : Bytes) :
    ofServer Hasher.sha1 serverId secret publicKey = .ok (named serverId secret publicKey) := by
  have message : [serverId, secret, publicKey].flatten = serverId ++ secret ++ publicKey := by
    simp
  have fits : (Hash.sha1 (serverId ++ secret ++ publicKey)).length = hashLength :=
    Hash.sha1_length _
  rw [ofServer, Hasher.sha1, Hasher.ofFunction, message, ofHash, if_pos fits]
  rfl

/-- The digest depends on the identifier through its bytes only. -/
theorem ofServerValues_bytes
    {serverId : Value}
    {identifier : Bytes}
    (encoded : serverIdBytes serverId = .ok identifier)
    (secret publicKey : Bytes) :
    ofServerValues Hasher.sha1 serverId (.bytes secret) (.bytes publicKey) =
      .ok (named identifier secret publicKey) := by
  rw [ofServerValues, encoded]
  exact ofServer_sha1 identifier secret publicKey

/-- A digest is written in hexadecimal digits, with a minus sign perhaps. -/
theorem mem_signedHex {bytes : Bytes} {point : CodePoint} (member : point ∈ signedHex bytes) :
    point = CodePoint.ofChar '-' ∨ ∃ digit, digit < 16 ∧ point = CodePoint.hexDigit digit := by
  have ofBytes_digits :
      ∀ bytes : Bytes, ∀ point ∈ Text.ofBytes bytes,
        ∃ digit, digit < 16 ∧ point = CodePoint.hexDigit digit := by
    intro bytes point isPoint
    obtain ⟨byte, _, isDigit⟩ := List.mem_flatMap.mp isPoint
    have isByte := byte.toNat_lt
    simp only [List.mem_cons, List.not_mem_nil, or_false] at isDigit
    rcases isDigit with rfl | rfl
    · exact ⟨byte.toNat / 16, by omega, rfl⟩
    · exact ⟨byte.toNat % 16, by omega, rfl⟩
  have magnitude_digits :
      ∀ bytes : Bytes, ∀ point ∈ magnitude bytes,
        ∃ digit, digit < 16 ∧ point = CodePoint.hexDigit digit := by
    intro bytes point isPoint
    unfold magnitude at isPoint
    simp only at isPoint
    split at isPoint
    · exact ⟨0, by decide, List.mem_singleton.mp isPoint⟩
    · exact ofBytes_digits bytes point (List.dropWhile_sublist _ |>.mem isPoint)
  unfold signedHex at member
  split at member
  · rcases List.mem_cons.mp member with isSign | isMagnitude
    · exact .inl isSign
    · exact .inr (magnitude_digits _ point isMagnitude)
  · exact .inr (magnitude_digits _ point member)

theorem ofServerValues_signedHex
    {serverId secret publicKey : Value}
    {hash : Text}
    (hashed : ofServerValues Hasher.sha1 serverId secret publicKey = .ok hash) :
    ∃ bytes, hash = signedHex bytes := by
  unfold ofServerValues at hashed
  obtain ⟨identifier, _, hashed⟩ := bind_eq_ok_iff.mp hashed
  obtain ⟨shared, _, hashed⟩ := bind_eq_ok_iff.mp hashed
  obtain ⟨key, _, hashed⟩ := bind_eq_ok_iff.mp hashed
  rw [ofServer_sha1] at hashed
  exact ⟨_, (Except.ok.inj hashed).symm⟩

theorem isScalar_signedHex (bytes : Bytes) : (signedHex bytes).IsScalar := by
  intro point member
  rcases mem_signedHex member with rfl | ⟨digit, small, rfl⟩
  · exact CodePoint.isScalar_iff.mpr (.inl (by decide))
  · have bound := (Text.isPlainPoint_hexDigit small).2
    exact CodePoint.isScalar_iff.mpr (.inl (by omega))

theorem isScalar_of_ofServerValues
    {serverId secret publicKey : Value}
    {hash : Text}
    (hashed : ofServerValues Hasher.sha1 serverId secret publicKey = .ok hash) :
    hash.IsScalar := by
  obtain ⟨bytes, rfl⟩ := ofServerValues_signedHex hashed
  exact isScalar_signedHex bytes

theorem serverIdBytes_text {content : Text} {bytes : Bytes} (encoded : content.utf8? = some bytes) :
    serverIdBytes (.text content) = .ok bytes := by
  rw [serverIdBytes, encoded]

theorem serverIdBytes_bytes (content : Bytes) :
    serverIdBytes (.bytes content) = .ok content :=
  rfl

/-- A text without surrogates can be encoded. -/
theorem utf8?_isSome {content : Text} (noSurrogate : content.any CodePoint.isSurrogate = false) :
    ∃ bytes, content.utf8? = some bytes := by
  rw [Text.utf8?, noSurrogate]
  exact ⟨_, rfl⟩

end Digest

/-- The identifier of a server is a text or bytes. -/
def Value.IsServerId (value : Value) : Prop :=
  (∃ content, value = .text content) ∨ ∃ content, value = .bytes content

/-- An identifier of the right type can be written in bytes unless it holds a surrogate. -/
theorem Value.IsServerId.exists_serverIdBytes
    {serverId : Value}
    (isServerId : serverId.IsServerId)
    (encodable :
      ∀ content, serverId = .text content → content.any CodePoint.isSurrogate = false) :
    ∃ identifier, Digest.serverIdBytes serverId = .ok identifier := by
  rcases isServerId with ⟨content, rfl⟩ | ⟨content, rfl⟩
  · obtain ⟨bytes, encoded⟩ := Digest.utf8?_isSome (encodable content rfl)
    exact ⟨bytes, Digest.serverIdBytes_text encoded⟩
  · exact ⟨content, Digest.serverIdBytes_bytes content⟩

end SessionHandshake
