import SessionHandshake.Proofs.Digest
import SessionHandshake.Proofs.Exchange
import SessionHandshake.Proofs.Session.Opening

namespace SessionHandshake

/-!
# What becomes of secrets

Two sessions that differ in nothing but passwords, shared secrets and access
tokens behind a mask print the same text, end each call alike with faults that
look the same, and hold tokens that are shown alike.  With debugging on, the hash
of a join is printed, so the shared secrets must be the same; nothing else of
what is printed depends on debugging.
-/

/-! ## Secrets -/

/-- Two secrets that are the same or, with debugging off, bytes of one length. -/
inductive Value.SecretsAlike (isDebugging : Bool) : Value → Value → Prop where
  | same (secret : Value) :
      SecretsAlike isDebugging secret secret
  | bytes {content otherContent : Bytes} :
      isDebugging = false →
      content.length = otherContent.length →
      SecretsAlike isDebugging (.bytes content) (.bytes otherContent)

/-- Two hashes that are the same or, with debugging off, texts of scalar values. -/
inductive Text.HashesAlike (isDebugging : Bool) : Text → Text → Prop where
  | same (hash : Text) :
      hash.IsScalar →
      HashesAlike isDebugging hash hash
  | scalars {hash otherHash : Text} :
      isDebugging = false →
      hash.IsScalar →
      otherHash.IsScalar →
      HashesAlike isDebugging hash otherHash

theorem Text.HashesAlike.areScalar
    {isDebugging : Bool}
    {hash otherHash : Text}
    (hashes : hash.HashesAlike isDebugging otherHash) :
    hash.IsScalar ∧ otherHash.IsScalar := by
  cases hashes with
  | same isScalar =>
      exact ⟨isScalar, isScalar⟩
  | scalars _ isScalar otherIsScalar =>
      exact ⟨isScalar, otherIsScalar⟩

/-- Two random sources that differ at most in what they give for secrets. -/
def RandomSource.GivesAlike (isDebugging : Bool) (one other : RandomSource) : Prop :=
  ∀ before length,
    OutcomesAlike Eq (Value.SecretsAlike isDebugging) (one before length) (other before length)

/-- Values that are drawn alike are accepted alike. -/
theorem RandomSource.GivesAlike.bytes
    {isDebugging : Bool}
    {one other : RandomSource}
    (alike : one.GivesAlike isDebugging other)
    (before : List Value)
    (length : Value) :
    OutcomesAlike Eq
      (fun first second => Value.SecretsAlike isDebugging (.bytes first) (.bytes second))
      (one.bytes before length) (other.bytes before length) := by
  have given := alike before length
  unfold RandomSource.bytes
  generalize one before length = answer at given ⊢
  generalize other before length = otherAnswer at given ⊢
  cases given with
  | error same =>
      subst same
      exact .self (fun _ => rfl) fun _ _ => .same _
  | ok secrets =>
      cases secrets with
      | same secret =>
          exact .self (fun _ => rfl) fun _ _ => .same _
      | bytes quiet sameLength =>
          rw [accept, accept, sameLength]
          split
          · exact .ok (.bytes quiet sameLength)
          · exact .error rfl

/-- Whether a message is encrypted, and how long it is then, depends on its length alone. -/
theorem RsaPublicKey.encrypt?_alike
    {message otherMessage : Bytes}
    (sameLength : message.length = otherMessage.length)
    (key : RsaPublicKey)
    (padding : PaddingSource) :
    Option.Rel (fun one other : Bytes => one.length = other.length)
      (key.encrypt? padding message) (key.encrypt? padding otherMessage) := by
  rw [encrypt?, encrypt?, sameLength]
  split
  · exact .some ((Hash.bigEndian_length _ _).trans (Hash.bigEndian_length _ _).symm)
  · exact .none

/-- Secrets of one length are encrypted both, or neither of them. -/
theorem PublicKey.encrypt_alike
    {isDebugging : Bool}
    {secret otherSecret : Value}
    (secrets : secret.SecretsAlike isDebugging otherSecret)
    (publicKey : PublicKey)
    (padding : PaddingSource) :
    OutcomesAlike Eq (fun _ _ => True) (publicKey.encrypt padding secret)
      (publicKey.encrypt padding otherSecret) := by
  cases secrets with
  | same secret =>
      exact .self (fun _ => rfl) fun _ _ => trivial
  | bytes _ sameLength =>
      have ciphertexts := publicKey.key.encrypt?_alike sameLength padding
      rw [encrypt, encrypt, encryptBytes, encryptBytes, sameLength]
      revert ciphertexts
      generalize publicKey.key.encrypt? padding _ = ciphertext
      generalize publicKey.key.encrypt? padding _ = otherCiphertext
      intro ciphertexts
      cases ciphertexts with
      | none =>
          exact .error rfl
      | some sameSize =>
          simp only [sameSize]
          split
          · exact .ok trivial
          · exact .error rfl

theorem Digest.hashesAlike
    {isDebugging : Bool}
    {secret otherSecret : Value}
    (secrets : secret.SecretsAlike isDebugging otherSecret)
    (serverId publicKey : Value) :
    OutcomesAlike Eq (Text.HashesAlike isDebugging)
      (ofServerValues Hasher.sha1 serverId secret publicKey)
      (ofServerValues Hasher.sha1 serverId otherSecret publicKey) := by
  cases secrets with
  | same secret =>
      exact .self (fun _ => rfl) fun hash hashed =>
        .same hash (isScalar_of_ofServerValues hashed)
  | bytes quiet _ =>
      unfold ofServerValues
      refine .bind_self (fun _ => rfl) fun identifier => ?_
      refine OutcomesAlike.bind (.ok trivial : OutcomesAlike Eq (fun _ _ => True) _ _) fun _ => ?_
      refine .bind_self (fun _ => rfl) fun key => ?_
      rw [ofServer_sha1, ofServer_sha1]
      exact .ok (.scalars quiet (isScalar_signedHex _) (isScalar_signedHex _))

/-! ## What the two sessions have in common -/

/-- The key under which a configuration keeps an access token. -/
def Config.accessTokenKey : Text := "access-token"

/-- Two configurations that differ in nothing but an access token behind a mask. -/
def Config.DiffersInToken (one other : Config) : Prop :=
  EntriesAlike accessTokenKey one.entries other.entries

/--
Surroundings in which debugging is on or off, that differ in nothing but drawn
secrets and the access tokens in replies.
-/
structure Surroundings.DifferInSecrets (isDebugging : Bool) (one other : Surroundings) : Prop where
  random : one.random.GivesAlike isDebugging other.random
  drawn : one.drawn = other.drawn
  padding : one.padding = other.padding
  replies : List.Forall₂ (Reply.ShownAlike isDebugging) one.replies other.replies
  console : one.console = other.console
  isDebugging : one.console.isDebugging = isDebugging

/-- Two situations over one transport whose surroundings differ in nothing but secrets. -/
structure Situation.DifferInSecrets (isDebugging : Bool) (one other : Situation) : Prop where
  transport : one.session.transport = other.session.transport
  surroundings : one.surroundings.DifferInSecrets isDebugging other.surroundings

/-- Two sessions that differ in nothing but secrets. -/
def Likeness.secrets (isDebugging : Bool) : Likeness where
  config := Config.DiffersInToken
  tokens := Tokens.MaskedAlike
  issued := Tokens.MaskedAlike
  profile := Eq
  named := Eq
  clientToken := Value.TextsAlike
  secret := Value.SecretsAlike isDebugging
  hash := Text.HashesAlike isDebugging
  response := fun _ _ => True
  fault := Fault.LooksAlike
  unanswered one other := one.LooksAlike other ∨ one.UnansweredAlike other
  outside := Situation.DifferInSecrets isDebugging

theorem Config.DiffersInToken.lookupOr
    {one other : Config}
    (alike : one.DiffersInToken other)
    {key : String}
    (isOther : Text.ofString key ≠ accessTokenKey)
    (fallback : Value) :
    one.lookupOr key fallback = other.lookupOr key fallback := by
  have found := alike.find?_of_ne isOther
  exact congrArg (Option.getD · fallback) found

theorem Config.DiffersInToken.authServer
    {one other : Config}
    (alike : one.DiffersInToken other) :
    one.authServer = other.authServer :=
  alike.lookupOr (by decide) _

theorem Config.DiffersInToken.sessionServer
    {one other : Config}
    (alike : one.DiffersInToken other) :
    one.sessionServer = other.sessionServer :=
  alike.lookupOr (by decide) _

/-- Faults that keep a client from being verified alike lead to rejections that look the same. -/
theorem Fault.rejected_alike
    {one other : Fault}
    (faults : one.LooksAlike other ∨ one.UnansweredAlike other) :
    one.isUnanswered = other.isUnanswered ∧
      ∀ username,
        LooksAlike (Situation.unansweredFault username one)
          (Situation.unansweredFault username other) := by
  -- Two failed requests need not look the same: their wording is lost in the rejection.
  have sameKind :
      one.isUnanswered = other.isUnanswered ∧
        (one.isUnanswered = true ∨ one.LooksAlike other) := by
    rcases faults with looksAlike | faults
    · have sameFace : one.face = other.face := looksAlike
      refine ⟨?_, .inr looksAlike⟩
      rw [← one.isUnanswered_face, sameFace, other.isUnanswered_face]
    · cases faults with
      | same =>
          exact ⟨rfl, .inr rfl⟩
      | unanswered isUnanswered otherIsUnanswered =>
          exact ⟨isUnanswered.trans otherIsUnanswered.symm, .inl isUnanswered⟩
  refine ⟨sameKind.1, fun username => ?_⟩
  unfold Situation.unansweredFault
  rw [← sameKind.1]
  split
  · rfl
  · next answered =>
      exact sameKind.2.resolve_left answered

/-- Messages that are the same, or are not shown, are printed alike. -/
theorem Surroundings.DifferInSecrets.reporting
    {isDebugging : Bool}
    {one other : Surroundings}
    (differ : one.DifferInSecrets isDebugging other)
    (level : LogLevel)
    {message otherMessage : Text}
    (printed : message = otherMessage ∨ level = .debug ∧ isDebugging = false) :
    DifferInSecrets isDebugging
      { one with console := one.console.report level message }
      { other with console := other.console.report level otherMessage } := by
  have console : one.console.report level message = other.console.report level otherMessage := by
    rw [← differ.console]
    rcases printed with rfl | ⟨rfl, quiet⟩
    · rfl
    · have isQuiet := differ.isDebugging.trans quiet
      rw [Console.report_debug_of_quiet isQuiet, Console.report_debug_of_quiet isQuiet]
  exact { differ with
    console := console
    isDebugging := (Console.report_isDebugging _ _ _).trans differ.isDebugging }

/-- No step of a session tells secrets apart that are alike. -/
theorem Likeness.secrets_laws (isDebugging : Bool) : (Likeness.secrets isDebugging).Laws where
  sameFault := fun _ => rfl
  unanswered := .inl
  rejected := Fault.rejected_alike
  servers := fun configs => ⟨configs.authServer, configs.sessionServer⟩
  issued := id
  named := id
  masked := fun tokens => tokens.accessToken.mask
  player := by
    rintro one _ rfl
    exact ⟨rfl, rfl⟩
  drawnSecret := by
    intro one other outside
    rw [← outside.surroundings.drawn]
    have given := outside.surroundings.random
    exact (given.bytes one.surroundings.drawn (.int sharedSecretLength)).mono
      Fault.LooksAlike.of_eq id
  drawnToken := by
    intro one other outside
    have given := outside.surroundings.random.bytes one.surroundings.drawn (.int clientTokenLength)
    rw [← outside.surroundings.drawn]
    exact (given.mono Fault.LooksAlike.of_eq id).map fun _ => .texts _ _
  drawing := fun length outside => { outside with
    surroundings := { outside.surroundings with
      drawn :=
        congrArg (fun drawn : List Value => drawn ++ [.int length]) outside.surroundings.drawn } }
  padding := fun outside => outside.surroundings.padding
  padded := fun _ outside => { outside with
    surroundings := { outside.surroundings with padding := rfl } }
  encrypted := by
    intro one other padding publicKey verifyToken secrets
    unfold EncryptionResponse.ofSecret
    refine OutcomesAlike.mono (?_ : OutcomesAlike Eq _ _ _) Fault.LooksAlike.of_eq id
    refine .bind_self (fun _ => rfl) fun key => ?_
    refine (PublicKey.encrypt_alike secrets key padding).bind fun _ => ?_
    exact .bind_self (fun _ => rfl) fun _ => .ok trivial
  hashed := fun serverId publicKey secrets =>
    (Digest.hashesAlike secrets serverId publicKey).mono Fault.LooksAlike.of_eq id
  withSession := fun keeps otherKeeps outside => { outside with
    transport := ((keeps _).trans outside.transport).trans (otherKeeps _).symm }
  reporting := fun level message outside => { outside with
    surroundings := outside.surroundings.reporting level (.inl rfl) }
  hashReported := by
    intro one other first second before after outside hashes
    cases hashes with
    | same _ =>
        exact { outside with
          surroundings := outside.surroundings.reporting .debug (.inl rfl) }
    | scalars quiet _ _ =>
        exact { outside with
          surroundings := outside.surroundings.reporting .debug (.inr ⟨rfl, quiet⟩) }
  closing := fun _ _ outside => { outside with
    surroundings := { outside.surroundings with } }

/-! ## What the servers are asked -/

/-- Situations that differ in secrets do so after requests that are handed over alike. -/
theorem Situation.DifferInSecrets.asking
    {isDebugging : Bool}
    {faults : Fault → Fault → Prop}
    (weaker : ∀ {first second : Fault}, first.DeliveredAlike second → faults first second)
    {one other : Situation}
    (differ : one.DifferInSecrets isDebugging other)
    {request otherRequest : Request}
    (asked : Request.AskedAlike faults request otherRequest) :
    OutcomesAlike faults Value.BodiesAlike (one.exchange request).outcome
        (other.exchange otherRequest).outcome ∧
      (one.asking request).DifferInSecrets isDebugging (other.asking otherRequest) := by
  have sameDebugging := differ.surroundings.isDebugging
  have replies := differ.surroundings.replies
  rw [← sameDebugging] at replies
  have exchanged :=
    Transport.exchange_alike weaker asked one.session.transport one.surroundings.console replies
  have otherExchange :
      other.exchange otherRequest =
        one.session.transport.exchange otherRequest other.surroundings.replies
          one.surroundings.console := by
    rw [exchange, differ.transport, differ.surroundings.console]
  rw [sameDebugging] at exchanged
  rw [otherExchange]
  obtain ⟨outcomes, left, consoles⟩ := exchanged
  refine ⟨outcomes, { differ with surroundings := { differ.surroundings with
    replies := ?_
    console := ?_
    isDebugging := ?_ } }⟩
  · rw [← otherExchange] at left
    exact left
  · rw [← otherExchange] at consoles
    exact consoles
  · exact (Transport.exchange_isDebugging _ _ _ _).trans sameDebugging

namespace Likeness

variable {isDebugging : Bool}

/-- Endpoints that post alike and read alike are answered alike. -/
theorem secrets_asksAlike
    {First Second : Type}
    {results : First → Second → Prop}
    {server : Config → Value}
    (sameServer : ∀ {config otherConfig : Config},
      config.DiffersInToken otherConfig → server config = server otherConfig)
    {one : Value → Endpoint First}
    {other : Value → Endpoint Second}
    (asked :
      ∀ base, Request.AskedAlike Fault.DeliveredAlike (one base).request (other base).request)
    (shows : ∀ base, (one base).ShowsAlike results (other base)) :
    (secrets isDebugging).AsksAlike Fault.LooksAlike results server one other := by
  intro before otherBefore situations
  have differ : before.DifferInSecrets isDebugging otherBefore := situations.outside
  rw [← sameServer situations.config]
  obtain ⟨outcomes, after⟩ := differ.asking id (asked (server before.session.config))
  exact ⟨shows _ outcomes, after⟩

section Calls

open Json (MembersAlike)

theorem secrets_authenticate
    {password otherPassword : Value}
    (passwords : password.TextsAlike otherPassword)
    (username clientToken requestUser : Value) :
    (secrets isDebugging).CallsAlike (.authenticate username password clientToken requestUser)
      (.authenticate username otherPassword clientToken requestUser) := by
  refine .authenticate (fun _ => .same clientToken) fun tokens => ?_
  refine secrets_asksAlike Config.DiffersInToken.authServer (fun base => ?_) fun _ =>
    Endpoint.showsAlike_authenticate
  exact Request.askedAlike_post .same
    (.cons (.refl _) (.cons (.refl _)
      (.cons ⟨rfl, Json.writtenAlike_of_textsAlike passwords⟩
        (.cons ⟨rfl, Json.writtenAlike_of_textsAlike tokens⟩ (.cons (.refl _) .nil)))))

theorem secrets_refresh (requestUser : Value) :
    (secrets isDebugging).CallsAlike (.refresh requestUser) (.refresh requestUser) := by
  refine .refresh fun {one other} tokens => ?_
  obtain ⟨access, client, _⟩ := tokens
  rw [client]
  refine secrets_asksAlike Config.DiffersInToken.authServer (fun base => ?_) fun _ =>
    Endpoint.showsAlike_refresh
  exact Request.askedAlike_post .same
    (.cons ⟨rfl, Json.writtenAlike_of_textsAlike access.textsAlike⟩
      (.cons (.refl _) (.cons (.refl _) .nil)))

theorem secrets_validate : (secrets isDebugging).CallsAlike .validate .validate := by
  refine .validate fun {one other} tokens => ?_
  obtain ⟨access, client, _⟩ := tokens
  have token : MembersAlike ("accessToken", one.accessToken) ("accessToken", other.accessToken) :=
    ⟨rfl, Json.writtenAlike_of_textsAlike access.textsAlike⟩
  rw [client]
  refine secrets_asksAlike Config.DiffersInToken.authServer (fun base => ?_) fun _ =>
    Endpoint.showsAlike_validate
  refine Request.askedAlike_post .same ?_
  unfold Endpoint.tokenMembers
  split
  · exact .cons token .nil
  · exact .cons token (.cons (.refl _) .nil)

theorem secrets_invalidate : (secrets isDebugging).CallsAlike .invalidate .invalidate := by
  refine .invalidate fun {one other} tokens => ?_
  obtain ⟨access, client, _⟩ := tokens
  rw [client]
  refine secrets_asksAlike Config.DiffersInToken.authServer (fun base => ?_) fun _ =>
    Endpoint.showsAlike_invalidate
  exact Request.askedAlike_post .same
    (.cons ⟨rfl, Json.writtenAlike_of_textsAlike access.textsAlike⟩ (.cons (.refl _) .nil))

theorem secrets_signOut
    {password otherPassword : Value}
    (passwords : password.TextsAlike otherPassword)
    (username : Value) :
    (secrets isDebugging).CallsAlike (.signOut username password)
      (.signOut username otherPassword) := by
  refine .signOut (secrets_asksAlike Config.DiffersInToken.authServer (fun base => ?_) fun _ =>
    Endpoint.showsAlike_signOut)
  exact Request.askedAlike_post .same
    (.cons (.refl _) (.cons ⟨rfl, Json.writtenAlike_of_textsAlike passwords⟩ .nil))

theorem secrets_join
    {secret otherSecret : Value}
    (secretsAlike : secret.SecretsAlike isDebugging otherSecret)
    (serverId publicKey : Value) :
    (secrets isDebugging).CallsAlike (.join serverId secret publicKey)
      (.join serverId otherSecret publicKey) := by
  refine .join secretsAlike fun {one other profile _ hash otherHash} tokens profiles hashes => ?_
  obtain rfl : profile = _ := profiles
  refine secrets_asksAlike Config.DiffersInToken.sessionServer (fun base => ?_) fun _ =>
    Endpoint.showsAlike_join
  exact Request.askedAlike_post .same
    (.cons ⟨rfl, Json.writtenAlike_of_textsAlike tokens.accessToken.textsAlike⟩
      (.cons (.refl _) (.cons ⟨rfl, Json.writtenAlike_of_textsAlike (.texts hash otherHash)⟩ .nil)))

theorem secrets_verify
    {secret otherSecret : Value}
    (secretsAlike : secret.SecretsAlike isDebugging otherSecret)
    (username serverId publicKey address : Value) :
    (secrets isDebugging).CallsAlike (.verify username serverId secret publicKey address)
      (.verify username serverId otherSecret publicKey address) := by
  refine .verify secretsAlike fun {hash otherHash} hashes => ?_
  obtain ⟨isScalar, otherIsScalar⟩ := Text.HashesAlike.areScalar hashes
  intro before otherBefore situations
  have differ : before.DifferInSecrets isDebugging otherBefore := situations.outside
  have weaker {first second : Fault} (faults : first.DeliveredAlike second) :
      first.UnansweredAlike second := by
    cases faults with
    | same =>
        exact .same _
    | transport _ _ _ _ =>
        exact .unanswered rfl rfl
  rw [← Config.DiffersInToken.sessionServer situations.config]
  obtain ⟨outcomes, after⟩ :=
    differ.asking weaker
      (Request.askedAlike_hasJoined before.session.config.sessionServer username address isScalar
        otherIsScalar)
  exact ⟨(Endpoint.hasJoined_read_alike .same outcomes).mono .inr id, after⟩

end Calls

end Likeness

/-! ## Runs that differ in secrets -/

/-- Two calls of one operation that differ in nothing but a password or a shared secret. -/
inductive SessionCall.DifferInSecrets (isDebugging : Bool) : SessionCall → SessionCall → Prop where
  | same (call : SessionCall) :
      DifferInSecrets isDebugging call call
  | authenticate (username clientToken requestUser : Value) (password otherPassword : Text) :
      DifferInSecrets isDebugging
        (.authenticate username (.text password) clientToken requestUser)
        (.authenticate username (.text otherPassword) clientToken requestUser)
  | signOut (username : Value) (password otherPassword : Text) :
      DifferInSecrets isDebugging (.signOut username (.text password))
        (.signOut username (.text otherPassword))
  | join (serverId publicKey : Value) {secret otherSecret : Value} :
      secret.SecretsAlike isDebugging otherSecret →
      DifferInSecrets isDebugging (.join serverId secret publicKey)
        (.join serverId otherSecret publicKey)
  | verify (username serverId publicKey address : Value) {secret otherSecret : Value} :
      secret.SecretsAlike isDebugging otherSecret →
      DifferInSecrets isDebugging (.verify username serverId secret publicKey address)
        (.verify username serverId otherSecret publicKey address)

theorem Likeness.secrets_callsAlike
    {isDebugging : Bool}
    {call otherCall : SessionCall}
    (differ : call.DifferInSecrets isDebugging otherCall) :
    (secrets isDebugging).CallsAlike call otherCall := by
  cases differ with
  | same =>
      cases call with
      | authenticate username password clientToken requestUser =>
          exact secrets_authenticate (.same password) username clientToken requestUser
      | createSharedSecret =>
          exact .createSharedSecret
      | encryptionResponse publicKey verifyToken =>
          exact .encryptionResponse publicKey verifyToken
      | join serverId secret publicKey =>
          exact secrets_join (.same secret) serverId publicKey
      | refresh requestUser =>
          exact secrets_refresh requestUser
      | validate =>
          exact secrets_validate
      | invalidate =>
          exact secrets_invalidate
      | signOut username password =>
          exact secrets_signOut (.same password) username
      | verify username serverId secret publicKey address =>
          exact secrets_verify (.same secret) username serverId publicKey address
      | close =>
          exact .close
  | authenticate username clientToken requestUser password otherPassword =>
      exact secrets_authenticate (.texts password otherPassword) username clientToken requestUser
  | signOut username password otherPassword =>
      exact secrets_signOut (.texts password otherPassword) username
  | join serverId publicKey secretsAlike =>
      exact secrets_join secretsAlike serverId publicKey
  | verify username serverId publicKey address secretsAlike =>
      exact secrets_verify secretsAlike username serverId publicKey address

theorem Config.DiffersInToken.lookup
    {one other : Config}
    (alike : one.DiffersInToken other) :
    OutcomesAlike Eq Value.MaskedAlike (one.lookup "access-token") (other.lookup "access-token") ∧
      ∀ key : String, Text.ofString key ≠ accessTokenKey → one.lookup key = other.lookup key := by
  have isHashable (key : String) : (Value.ofString key).isHashable = true := by
    simp only [Value.ofString, Value.isHashable]
  constructor
  · have found := alike.find? (Value.ofString "access-token")
    simp only [Config.lookup, get, isHashable, if_true]
    revert found
    generalize Value.find? (Value.ofString "access-token") one.entries = token
    generalize Value.find? (Value.ofString "access-token") other.entries = otherToken
    intro found
    cases found with
    | some tokens =>
        exact .ok tokens
    | none =>
        exact .self (fun _ => rfl) fun token _ => .same token
  · intro key isOther
    have found := alike.find?_of_ne isOther
    simp only [Config.lookup, get, Value.ofString, found]
    rfl

/-- Identities that are read from configurations that differ in a token differ in it alone. -/
theorem Session.savedIdentity_alike
    {config otherConfig : Config}
    (configs : config.DiffersInToken otherConfig) :
    OutcomesAlike Fault.LooksAlike (fun one other => one.1.MaskedAlike other.1 ∧ one.2 = other.2)
      (savedIdentity config) (savedIdentity otherConfig) := by
  obtain ⟨access, others⟩ := configs.lookup
  refine OutcomesAlike.mono (?_ : OutcomesAlike Eq _ _ _) Fault.LooksAlike.of_eq id
  unfold savedIdentity
  refine access.bind fun tokens => ?_
  rw [others "client-token" (by decide), others "uuid" (by decide), others "username" (by decide)]
  refine .bind_self (fun _ => rfl) fun clientToken => ?_
  refine .bind_self (fun _ => rfl) fun id => ?_
  refine .bind_self (fun _ => rfl) fun uuid => ?_
  refine .bind_self (fun _ => rfl) fun username => ?_
  exact .ok ⟨⟨tokens, rfl, rfl⟩, rfl⟩

/-! ## What an onlooker sees -/

/-- The tokens among the results of a call, as they are shown. -/
def SessionResult.shownTokens : SessionResult → Option (Except Fault Text)
  | .identity issued _ =>
      some issued.shown
  | .tokens issued =>
      some issued.shown
  | _ =>
      none

/-- Two situations in which the same has been printed, and tokens are held that are shown alike. -/
structure Situation.LooksLike (one other : Situation) : Prop where
  console : one.surroundings.console = other.surroundings.console
  tokens : one.session.tokens.map Tokens.shown = other.session.tokens.map Tokens.shown

/-- Two turns that end with a result, or with faults that look the same, and look alike after. -/
structure SessionTurn.LooksLike (one other : SessionTurn) : Prop where
  outcome :
    OutcomesAlike Fault.LooksAlike (fun one other => one.shownTokens = other.shownTokens)
      one.outcome other.outcome
  after : one.after.LooksLike other.after

namespace Likeness

variable {isDebugging : Bool}

theorem secrets_looksLike
    {one other : Situation}
    (alike : (secrets isDebugging).Alike one other) :
    one.LooksLike other where
  console :=
    Surroundings.DifferInSecrets.console (Situation.DifferInSecrets.surroundings alike.outside)
  tokens := by
    have tokens := alike.tokens
    revert tokens
    generalize one.session.tokens = held
    generalize other.session.tokens = otherHeld
    intro tokens
    cases tokens with
    | some tokens =>
        exact congrArg some (Tokens.MaskedAlike.shown tokens)
    | none =>
        rfl

theorem secrets_shownTokens
    {one other : SessionResult}
    (alike : (secrets isDebugging).ResultsAlike one other) :
    one.shownTokens = other.shownTokens := by
  cases alike with
  | identity tokens _ =>
      exact congrArg some (Tokens.MaskedAlike.shown tokens)
  | tokens tokens =>
      exact congrArg some (Tokens.MaskedAlike.shown tokens)
  | _ =>
      rfl

theorem secrets_turnsLookAlike
    {one other : SessionTurn}
    (alike : (secrets isDebugging).TurnsAlike one other) :
    one.LooksLike other where
  outcome := alike.outcome.mono id secrets_shownTokens
  after := secrets_looksLike alike.after

end Likeness

/--
Secrets do not show.  Two sessions that begin in one way, over one transport, and
whose calls, configurations and surroundings differ in nothing but passwords,
shared secrets of one length and access tokens behind a mask, print the same text,
end each call alike, with faults that look the same, and show their tokens alike.
With debugging on, this holds where the shared secrets are the same and an answer
has the length of the other one.
-/
theorem secrets_never_shown
    {isDebugging : Bool}
    {opening : SessionOpening}
    {config otherConfig : Config}
    {transport : Option Transport}
    {surroundings otherSurroundings : Surroundings}
    {calls otherCalls : List SessionCall}
    (configs : config.DiffersInToken otherConfig)
    (differ : surroundings.DifferInSecrets isDebugging otherSurroundings)
    (callsDiffer : List.Forall₂ (SessionCall.DifferInSecrets isDebugging) calls otherCalls) :
    OutcomesAlike Fault.LooksAlike
      (fun one other =>
        one.LooksLike other ∧
          List.Forall₂ SessionTurn.LooksLike (one.turns calls) (other.turns otherCalls))
      (opening.begin config transport surroundings)
      (opening.begin otherConfig transport otherSurroundings) := by
  have laws := Likeness.secrets_laws isDebugging
  have sameTimeout : config.timeout = otherConfig.timeout := configs.lookupOr (by decide) _
  have outside :
      (Likeness.secrets isDebugging).outside
        { session := Session.create config transport, surroundings := surroundings }
        { session := Session.create otherConfig transport, surroundings := otherSurroundings } := {
    transport := by
      simp only [Session.create, sameTimeout]
    surroundings := differ }
  have begun :=
    laws.begin_alike opening configs (fun _ => Session.savedIdentity_alike configs) outside
  refine begun.mono id fun alike => ⟨Likeness.secrets_looksLike alike, ?_⟩
  have callsAlike : List.Forall₂ (Likeness.secrets isDebugging).CallsAlike calls otherCalls :=
    callsDiffer.imp fun _ _ => Likeness.secrets_callsAlike
  exact (laws.turns_alike alike callsAlike).imp fun _ _ => Likeness.secrets_turnsLookAlike

/-- The reply of a server that renews an access token. -/
def Reply.renewing (accessToken : Text) : Reply :=
  let members := Endpoint.tokenMembers (.text accessToken) (Value.ofString "client")
  .answered 200
    (.bytes (((Json.write (Endpoint.object members)).toOption.getD []).flatMap CodePoint.utf8))

/-- Replies that renew an access token differ in the token alone. -/
theorem Reply.renewing_alike
    {accessToken otherToken : Text}
    (isScalar : accessToken.IsScalar)
    (otherIsScalar : otherToken.IsScalar)
    (endsAlike : accessToken.EndsAlike otherToken) :
    (renewing accessToken).ShownAlike false (renewing otherToken) := by
  have read {accessToken : Text} (isScalar : accessToken.IsScalar) :
      Json.readBytes
          (((Json.write (Endpoint.object
            (Endpoint.tokenMembers (.text accessToken) (Value.ofString "client")))).toOption.getD
              []).flatMap CodePoint.utf8) =
        .ok (Endpoint.object
          (Endpoint.tokenMembers (.text accessToken) (Value.ofString "client"))) := by
    let call := PostingCall.validate accessToken (some "client")
    have areScalar : call.IsScalar := by
      intro content member
      rcases List.mem_cons.mp member with rfl | isClient
      · exact isScalar
      · rw [List.mem_singleton.mp isClient]
        exact Text.isScalar_ofString "client"
    obtain ⟨written, document⟩ :=
      Json.isReadBack_endpointObject (PostingCall.isReadBack_members areScalar)
        call.members_ne_nil call.members_distinct
    have isWritten :
        Json.write (Endpoint.object
          (Endpoint.tokenMembers (.text accessToken) (Value.ofString "client"))) = .ok written :=
      document.isWritten
    rw [isWritten]
    exact document.readBytes (by decide)
  refine .answered 200 (.objects (read isScalar) (read otherIsScalar) ?_) fun isOn => nomatch isOn
  exact .cons (.token (.texts endsAlike)) (.cons (.same _) .nil)

theorem Config.remembering_differsInToken
    {accessToken otherToken : Text}
    (endsAlike : accessToken.EndsAlike otherToken) :
    (remembering accessToken).DiffersInToken (remembering otherToken) := by
  have saved : EntriesAlike accessTokenKey [(.text accessTokenKey, .text accessToken)]
      [(.text accessTokenKey, .text otherToken)] :=
    .cons (.token (.texts endsAlike)) .nil
  exact ((saved.insert _ _).insert _ _).insert _ _

/-- Quiet surroundings in which one byte is drawn again and again. -/
def Surroundings.repeating (byte : UInt8) (replies : List Reply) : Surroundings :=
  { quiet replies with random := fun _ _ => .ok (.bytes (List.replicate sharedSecretLength byte)) }

theorem Surroundings.repeating_alike
    {replies otherReplies : List Reply}
    (alike : List.Forall₂ (Reply.ShownAlike false) replies otherReplies)
    (byte otherByte : UInt8) :
    (repeating byte replies).DifferInSecrets false (repeating otherByte otherReplies) where
  random := fun _ _ => .ok (.bytes rfl rfl)
  drawn := rfl
  padding := rfl
  replies := alike
  console := rfl
  isDebugging := rfl

/-- Two restored sessions get new tokens and join and sign out, each with secrets of its own. -/
theorem secrets_never_shown_restored :
    let replies (accessToken : Text) : List Reply :=
      [Reply.renewing accessToken, Reply.silent, Reply.silent]
    let calls (secret : Bytes) (password : Text) : List SessionCall := [
      .refresh (.bool false),
      .createSharedSecret,
      .join (Value.ofString "server") (.bytes secret) (.bytes [1, 2, 3]),
      .signOut (Value.ofString "user") (.text password)]
    (SessionOpening.restored.begin (Config.remembering "first-1234") none
      (.repeating 7 (replies "second-5678"))).toOption.isSome = true ∧
      OutcomesAlike Fault.LooksAlike
        (fun one other =>
          one.LooksLike other ∧
            List.Forall₂ SessionTurn.LooksLike
              (one.turns (calls [4, 5] "password")) (other.turns (calls [6, 7] "hunter2")))
        (SessionOpening.restored.begin (Config.remembering "first-1234") none
          (.repeating 7 (replies "second-5678")))
        (SessionOpening.restored.begin (Config.remembering "other-1234") none
          (.repeating 9 (replies "another-one-5678"))) := by
  intro replies calls
  refine ⟨by decide +kernel, ?_⟩
  have configs :
      (Config.remembering "first-1234").DiffersInToken (Config.remembering "other-1234") :=
    Config.remembering_differsInToken ⟨by decide, by decide, by decide⟩
  have renewed :=
    Reply.renewing_alike (Text.isScalar_ofString "second-5678")
      (Text.isScalar_ofString "another-one-5678") ⟨by decide, by decide, by decide⟩
  have differ :=
    Surroundings.repeating_alike
      (.cons renewed (.cons (.same .silent) (.cons (.same .silent) .nil)))
      7 9
  exact secrets_never_shown configs differ
    (.cons (.same _) (.cons (.same _)
      (.cons (.join _ _ (.bytes rfl rfl)) (.cons (.signOut _ _ _) .nil))))

end SessionHandshake
