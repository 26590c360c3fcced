import SessionHandshake.Proofs.Digest
import SessionHandshake.Proofs.Feeding

namespace SessionHandshake

/-!
# Digests of concatenations

The digest of a server is the digest of one message, in which the identifier of the
server, the secret and the public key follow each other with nothing between them.
So neither the form of the identifier nor the places where the message is cut matter.
-/

/-! ## Texts as strings -/

namespace CodePoint

/-- A character is written in UTF-8 as the code point that it is. -/
theorem utf8_ofChar (character : Char) :
    (ofChar character).utf8 = String.utf8EncodeChar character := by
  have isValue : character.val.toNat = (ofChar character).value := rfl
  have bound := (ofChar character).isBounded
  simp only [utf8, String.utf8EncodeChar]
  rw [isValue]
  generalize (ofChar character).value = number at bound ⊢
  by_cases isOne : number < 0x80
  · rw [if_pos isOne, if_pos (Nat.le_of_lt_succ isOne)]
  · have pastOne : ¬ number ≤ 0x7f := by omega
    rw [if_neg isOne, if_neg pastOne]
    by_cases isTwo : number < 0x800
    · have lead : 0xc0 + number / 64 = number / 64 % 0x20 + 0xc0 := by omega
      rw [if_pos isTwo, if_pos (Nat.le_of_lt_succ isTwo), lead, Nat.add_comm 0x80]
    · have pastTwo : ¬ number ≤ 0x7ff := by omega
      rw [if_neg isTwo, if_neg pastTwo]
      by_cases isThree : number < 0x10000
      · have lead : 0xe0 + number / 4096 = number / 4096 % 0x10 + 0xe0 := by omega
        rw [if_pos isThree, if_pos (Nat.le_of_lt_succ isThree), lead, Nat.add_comm 0x80,
          Nat.add_comm 0x80]
      · have pastThree : ¬ number ≤ 0xffff := by omega
        have lead : 0xf0 + number / 262144 = number / 262144 % 0x08 + 0xf0 := by omega
        rw [if_neg isThree, if_neg pastThree, lead, Nat.add_comm 0x80, Nat.add_comm 0x80,
          Nat.add_comm 0x80]

/-- A code point that stands for a character by itself is that character. -/
theorem IsScalar.exists_ofChar {point : CodePoint} (isScalar : point.IsScalar) :
    ∃ character, point = ofChar character := by
  have bound := point.isBounded
  have isValid : point.value.isValidChar := by
    rcases isScalar_iff.mp isScalar with isLow | isHigh
    · exact .inl isLow
    · exact .inr ⟨isHigh, bound⟩
  refine ⟨Char.ofNatAux point.value isValid, ?_⟩
  cases point
  rfl

end CodePoint

namespace Text

/-- A text of scalar values is the text of a string. -/
theorem IsScalar.exists_ofString {text : Text} (isScalar : text.IsScalar) :
    ∃ string, text = ofString string := by
  induction text with
  | nil =>
      exact ⟨"", rfl⟩
  | cons point rest inductionHypothesis =>
      obtain ⟨character, rfl⟩ := (isScalar point List.mem_cons_self).exists_ofChar
      obtain ⟨string, rfl⟩ :=
        inductionHypothesis fun other member => isScalar other (List.mem_cons_of_mem _ member)
      refine ⟨String.ofList (character :: string.toList), ?_⟩
      rw [ofString, ofString, String.toList_ofList, List.map_cons]

/-- The text of a string is written in the bytes of the string. -/
theorem utf8?_ofString (string : String) :
    (ofString string).utf8? = some string.toUTF8.data.toList := by
  have encoded : string.toList.utf8Encode = string.toUTF8 := String.utf8Encode_toList
  have characters :
      (ofString string).flatMap CodePoint.utf8 = string.toList.flatMap String.utf8EncodeChar := by
    simp only [ofString, List.flatMap_map, CodePoint.utf8_ofChar]
  rw [utf8?_of_isScalar (isScalar_ofString string), characters, ← encoded, List.utf8Encode,
    List.toList_data_toByteArray]

end Text

/-! ## The message behind a digest -/

/-- The bytes that identify a server: bytes are taken as they are, a text is written in UTF-8. -/
inductive Value.Identifies : Value → Bytes → Prop where
  | bytes (content : Bytes) :
      Identifies (.bytes content) content
  | text (name : String) :
      Identifies (.ofString name) name.toUTF8.data.toList

namespace Value

/-- Bytes, and every text without a surrogate, identify a server. -/
theorem IsServerId.exists_identifies
    {serverId : Value}
    (isServerId : serverId.IsServerId)
    (encodable : ∀ content, serverId = .text content → Text.IsScalar content) :
    ∃ identifier, serverId.Identifies identifier := by
  rcases isServerId with ⟨content, rfl⟩ | ⟨content, rfl⟩
  · obtain ⟨name, rfl⟩ := (encodable content rfl).exists_ofString
    exact ⟨_, .text name⟩
  · exact ⟨content, .bytes content⟩

theorem Identifies.serverIdBytes
    {serverId : Value}
    {identifier : Bytes}
    (identifies : serverId.Identifies identifier) :
    Digest.serverIdBytes serverId = .ok identifier := by
  cases identifies with
  | bytes =>
      exact Digest.serverIdBytes_bytes identifier
  | text name =>
      exact Digest.serverIdBytes_text (Text.utf8?_ofString name)

end Value

namespace Digest

variable {hasher : Hasher} {serverId : Value} {identifier : Bytes}

/-- A message has no digest exactly if its hash is not twenty bytes long. -/
theorem ofMessage_eq_error_iff {message : Bytes} {fault : Fault} :
    ofMessage hasher message = .error fault ↔
      (hasher [message]).length ≠ 20 ∧
        fault = .badValue (.digestLength (hasher [message]).length) := by
  rw [ofMessage, ofHash, hashLength]
  split
  · next fits =>
      simp only [fits, ne_eq, not_true, false_and, iff_false]
      intro isError
      cases isError
  · next differs =>
      simp only [ne_eq, differs, not_false_iff, true_and, Except.error.injEq]
      exact eq_comm

/-- A hasher that joins its parts gives a server the digest of one message. -/
theorem ofServerValues_eq_ofMessage
    (joinsParts : hasher.JoinsParts)
    (identifies : serverId.Identifies identifier)
    (secret publicKey : Bytes) :
    ofServerValues hasher serverId (.bytes secret) (.bytes publicKey) =
      ofMessage hasher (identifier ++ secret ++ publicKey) := by
  have joined :
      hasher [identifier, secret, publicKey] = hasher [identifier ++ secret ++ publicKey] :=
    joinsParts _ _ (by
      simp only [List.flatten_cons, List.flatten_nil, List.append_nil, List.append_assoc])
  rw [ofServerValues, identifies.serverIdBytes]
  exact congrArg ofHash joined

/--
The digest of a server is the digest of its identifier, the secret and the public key put
together, and it fails with that digest, for a hash of a wrong length.  The identifier in
bytes gives the same digest, and so do any three parts that make up the same message.
-/
theorem ofServerValues_concatenates
    (joinsParts : hasher.JoinsParts)
    (isServerId : serverId.IsServerId)
    (encodable : ∀ content, serverId = .text content → Text.IsScalar content)
    (secret publicKey : Bytes) :
    ∃ identifier,
      serverId.Identifies identifier ∧
      ofServerValues hasher serverId (.bytes secret) (.bytes publicKey) =
        ofMessageValue hasher (.bytes (identifier ++ secret ++ publicKey)) ∧
      (∀ fault,
        ofServerValues hasher serverId (.bytes secret) (.bytes publicKey) = .error fault ↔
          (hasher [identifier ++ secret ++ publicKey]).length ≠ 20 ∧
            fault =
              .badValue (.digestLength (hasher [identifier ++ secret ++ publicKey]).length)) ∧
      ofServerValues hasher serverId (.bytes secret) (.bytes publicKey) =
        ofServerValues hasher (.bytes identifier) (.bytes secret) (.bytes publicKey) ∧
      ∀ other otherIdentifier otherSecret otherKey,
        other.Identifies otherIdentifier →
        otherIdentifier ++ otherSecret ++ otherKey = identifier ++ secret ++ publicKey →
        ofServerValues hasher other (.bytes otherSecret) (.bytes otherKey) =
          ofServerValues hasher serverId (.bytes secret) (.bytes publicKey) := by
  obtain ⟨identifier, identifies⟩ := isServerId.exists_identifies encodable
  have isMessage := ofServerValues_eq_ofMessage joinsParts identifies secret publicKey
  have inBytes := ofServerValues_eq_ofMessage joinsParts (.bytes identifier) secret publicKey
  refine ⟨identifier, identifies, isMessage, ?_, isMessage.trans inBytes.symm, ?_⟩
  · intro fault
    rw [isMessage]
    exact ofMessage_eq_error_iff
  · intro other otherIdentifier otherSecret otherKey otherIdentifies sameMessage
    rw [isMessage, ofServerValues_eq_ofMessage joinsParts otherIdentifies, sameMessage]

/-- SHA-1 fed in parts, for a server whose identifier takes a byte more than it has letters. -/
theorem ofServerValues_concatenates_sha1 :
    let hasher := Hasher.fed Hash.Sha1.blockHash
    let serverId := Value.ofString "café"
    Hasher.named? "sha1" = some hasher ∧
    hasher.JoinsParts ∧
    serverId.IsServerId ∧
    (∀ content, serverId = .text content → Text.IsScalar content) ∧
    ∃ identifier,
      serverId.Identifies identifier ∧
      ofServerValues hasher serverId (.bytes [1, 2]) (.bytes [3]) =
        ofMessageValue hasher (.bytes (identifier ++ [1, 2] ++ [3])) ∧
      (∀ fault,
        ofServerValues hasher serverId (.bytes [1, 2]) (.bytes [3]) = .error fault ↔
          (hasher [identifier ++ [1, 2] ++ [3]]).length ≠ 20 ∧
            fault = .badValue (.digestLength (hasher [identifier ++ [1, 2] ++ [3]]).length)) ∧
      ofServerValues hasher serverId (.bytes [1, 2]) (.bytes [3]) =
        ofServerValues hasher (.bytes identifier) (.bytes [1, 2]) (.bytes [3]) ∧
      ∀ other otherIdentifier otherSecret otherKey,
        other.Identifies otherIdentifier →
        otherIdentifier ++ otherSecret ++ otherKey = identifier ++ [1, 2] ++ [3] →
        ofServerValues hasher other (.bytes otherSecret) (.bytes otherKey) =
          ofServerValues hasher serverId (.bytes [1, 2]) (.bytes [3]) := by
  intro hasher serverId
  have isNamed : Hasher.named? "sha1" = some hasher :=
    congrArg some (Hasher.fed_eq Hash.Sha1.blockHash).symm
  have joinsParts : hasher.JoinsParts := Hasher.joinsParts_of_named? isNamed
  have isServerId : serverId.IsServerId := .inl ⟨Text.ofString "café", rfl⟩
  have encodable : ∀ content, serverId = .text content → Text.IsScalar content := by
    intro content isText
    rw [← Value.text.inj isText]
    exact Text.isScalar_ofString "café"
  exact ⟨isNamed, joinsParts, isServerId, encodable,
    ofServerValues_concatenates joinsParts isServerId encodable [1, 2] [3]⟩

end Digest

end SessionHandshake
