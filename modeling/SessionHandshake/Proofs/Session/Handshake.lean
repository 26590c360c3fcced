import SessionHandshake.Proofs.KeyPair
import SessionHandshake.Proofs.Session.Verification

namespace SessionHandshake

/-!
# Client and server agree

The client hashes the secret it has drawn and the identifier as a text, and the
server hashes the secret it has decrypted and whatever form of the identifier it
has kept.  Both get the same digest, which is the one that the client posts, the
server asks about, and both remember.
-/

/-- The request that tells the session server of the join of a hash. -/
def Session.joinPost
    (session : Session)
    (tokens : Tokens)
    (profile : Profile)
    (hash : Text) :
    Request :=
  .post
    (.text (session.sessionServer.shown ++ ("/session/minecraft/join" : Text)))
    (.mapping [
      (Value.ofString "accessToken", tokens.accessToken),
      (Value.ofString "selectedProfile", profile.uuid),
      (Value.ofString "serverId", .text hash)])
    (Value.ofString "application/json")

theorem Session.join_request
    (session : Session)
    (tokens : Tokens)
    (profile : Profile)
    (hash : Text) :
    (Endpoint.join session.sessionServer tokens.accessToken profile.uuid (.text hash)).request =
      session.joinPost tokens profile hash :=
  rfl

namespace Situation

variable {before client : Situation} {pair : KeyPair} {key : RsaPrivateKey}

/-! ## The client's response -/

/-- A client without a secret draws one and encrypts it, and keeps it. -/
theorem call_encryptionResponse
    {secret token : Bytes}
    (noSecret : before.session.sharedSecret = none)
    (draws : before.surroundings.random.sharedSecret before.surroundings.drawn = .ok secret)
    (isRsa : pair.key = .rsa key)
    (isKey : key.IsHandshakeKey)
    (fits : token.length + Rsa.paddingOverhead ≤ handshakeCiphertextLength) :
    ∃ response after,
      before.call (.encryptionResponse (.bytes pair.publicDer) (.bytes token)) =
        (.ok (.response response), after) ∧
      response.sharedSecret = .bytes secret ∧
      pair.decrypt (.bytes response.encryptedSecret) = .ok secret ∧
      pair.decrypt (.bytes response.encryptedVerifyToken) = .ok token ∧
      after.session = { before.session with sharedSecret := some (.bytes secret) } ∧
      after.surroundings.requests = before.surroundings.requests ∧
      after.surroundings.replies = before.surroundings.replies := by
  have secretFits : secret.length + Rsa.paddingOverhead ≤ handshakeCiphertextLength := by
    rw [(sharedSecret_eq_ok_iff.mp draws).2]
    decide
  simp only [Situation.call, SessionCall.action, SessionAction.encryptionResponse, perform_bind]
  rcases before.perform_sharedSecret (.bytes pair.publicDer) (.bytes token) with
    ⟨offered, after, performed, offers, leads⟩ | ⟨fault, after, _, _, undrawn, _⟩
  · have isDrawn : offered = .bytes secret := by
      rcases offers with held | ⟨_, drawn, isDrawn, rfl⟩
      · cases noSecret.symm.trans held
      · cases draws.symm.trans isDrawn
        rfl
    obtain ⟨response, answered, same, secretBack, tokenBack⟩ :=
      EncryptionResponse.ofSecret_publicDer isRsa isKey secretFits fits after.surroundings.padding
    have requests := leads.grows.requests
    rw [List.append_nil] at requests
    simp only [performed, perform_get, perform_changeSurroundings, perform_lift, isDrawn,
      answered, perform_pure]
    refine ⟨response, _, rfl, same, secretBack, tokenBack, ?_, requests, leads.grows.replies⟩
    rw [← isDrawn]
    exact leads.session_eq
  · cases draws.symm.trans undrawn

/-! ## The client's join -/

/-- The session server answers with a success when it is told of the join of a hash. -/
structure AnswersJoin (situation : Situation) (hash : Text) : Prop where
  shown : situation.session.sessionServer.checkShown = .ok ()
  answered :
    ∃ tokens profile body,
      situation.session.tokens = some tokens ∧
      situation.session.profile = some profile ∧
      situation.session.transport.outcome (situation.session.joinPost tokens profile hash)
          situation.surroundings.replies =
        .ok body

/-- A join that is answered with a success is announced. -/
theorem perform_announceJoin_of_answersJoin
    {serverId secret publicKey : Value}
    {hash : Text}
    (hashed : Digest.ofServerValues Hasher.sha1 serverId secret publicKey = .ok hash)
    (answers : before.AnswersJoin hash) :
    (before.perform (SessionAction.announceJoin serverId secret publicKey)).1 = .ok hash := by
  obtain ⟨tokens, profile, body, heldTokens, heldProfile, answered⟩ := answers.answered
  simp only [SessionAction.announceJoin, perform_bind, perform_lift, hashed, perform_report,
    perform_sessionServer, perform_pure, perform_send]
  generalize isTold : before.reporting .debug _ = told
  have toldSession : told.session = before.session := by
    rw [← isTold]
    rfl
  have toldReplies : told.surroundings.replies = before.surroundings.replies := by
    rw [← isTold]
    rfl
  simp only [perform_tokens (toldSession ▸ heldTokens), perform_profile (toldSession ▸ heldProfile),
    toldSession, answers.shown, Except.map, exchange, Transport.exchange_outcome, toldReplies,
    Session.join_request, answered]
  rfl

/-- A client that is answered with a success has joined, with the hash that it has posted. -/
theorem call_join_of_answersJoin
    {serverId secret publicKey : Value}
    {hash : Text}
    (isAuthenticated : before.session.state = .authenticated)
    (hashed : Digest.ofServerValues Hasher.sha1 serverId secret publicKey = .ok hash)
    (answers : before.AnswersJoin hash) :
    (before.call (.join serverId secret publicKey)).1 = .ok (.hash hash) := by
  have possible : before.session.state ∈ [SessionState.authenticated] :=
    List.mem_singleton.mpr isAuthenticated
  have entering : (before.entering .joining).AnswersJoin hash :=
    ⟨answers.shown, answers.answered⟩
  have announces := perform_announceJoin_of_answersJoin hashed entering
  simp only [Situation.call, SessionCall.action, SessionAction.join, perform_bind,
    perform_expect, if_pos possible, perform_enter, perform_onFault, perform_report,
    perform_change, perform_pure]
  rcases (before.entering .joining).perform_announceJoin serverId secret publicKey with
    ⟨fault, sent, asked, failed, _⟩ |
      ⟨posted, tokens, profile, handed, asked, announced, hashedToo, _, heldProfile, _, asks⟩
  · rw [failed] at announces
    cases announces
  · cases hashed.symm.trans hashedToo
    have held :
        (asked.withSession fun session =>
          { session with
            state := .joined
            sharedSecret := some secret
            serverHash := some hash }).session.profile = some profile := by
      simp only [withSession_session, asks.session_eq]
      exact heldProfile
    simp only [announced, perform_profile held]

/-- The join of a hash has been posted, and the session knows it has joined. -/
def HasPosted
    (before : Situation)
    (hash : Text)
    (secret : Value)
    (after : Situation) : Prop :=
  after.session = { before.session with
    state := .joined
    sharedSecret := some secret
    serverHash := some hash } ∧
  ∃ tokens profile handed,
    before.session.tokens = some tokens ∧
    before.session.profile = some profile ∧
    handed.TellsOfJoin before.session.sessionServer tokens.accessToken profile.uuid
      (.text hash) ∧
    after.surroundings.requests =
      before.surroundings.requests ++ [{ state := .joining, request := handed }]

theorem hasPosted_of_joined
    {after : Situation}
    {serverId secret publicKey : Value}
    {hash : Text}
    (step :
      SessionStep before (.join serverId secret publicKey) (.ok (.hash hash)) after) :
    before.HasPosted hash secret after := by
  cases step with
  | @joined _ _ _ handed tokens profile _ _ _ heldTokens heldProfile _ given leads =>
      exact ⟨leads.session_eq, tokens, profile, handed, heldTokens, heldProfile,
        SentRequest.tellsOfJoin_of_handedOver given, leads.grows.requests⟩

/-! ## Both sides -/

/--
A response to an encryption request, a join and a verification that have been
made of one key pair, one token and one server identifier.
-/
structure Agreement
    (pair : KeyPair)
    (serverId : Text)
    (identifier token secret : Bytes)
    (hash : Text)
    (response : EncryptionResponse)
    (responding joining : Except Fault SessionResult × Situation) : Prop where
  responded : responding.1 = .ok (.response response)
  token_eq : pair.decrypt (.bytes response.encryptedVerifyToken) = .ok token
  secret_eq : pair.decrypt (.bytes response.encryptedSecret) = .ok secret
  sharedSecret_eq : response.sharedSecret = .bytes secret
  keepsSecret : responding.2.session.sharedSecret = some (.bytes secret)
  joined : joining.1 = .ok (.hash hash)
  posted : responding.2.HasPosted hash (.bytes secret) joining.2
  server :
    ∀ (server : Situation) (username : Text) (given address : Value) (received : Bytes),
      server.session.state = .unauthenticated →
      given = .text serverId ∨ given = .bytes identifier →
      pair.decrypt (.bytes response.encryptedSecret) = .ok received →
      server.GoesBy username hash address
        (server.call (.verify (.text username) given (.bytes received) (.bytes pair.publicDer)
          address)).1
        (server.call (.verify (.text username) given (.bytes received) (.bytes pair.publicDer)
          address)).2

/-- The two sides of a handshake decrypt to the same values and go by the same hash. -/
theorem handshake_agrees
    {serverId : Text}
    {identifier secret token : Bytes}
    (isAuthenticated : client.session.state = .authenticated)
    (noSecret : client.session.sharedSecret = none)
    (draws :
      client.surroundings.random client.surroundings.drawn (.int sharedSecretLength) =
        .ok (.bytes secret))
    (isWhole : secret.length = sharedSecretLength)
    (isRsa : pair.key = .rsa key)
    (isKey : key.IsHandshakeKey)
    (fits : token.length ≤ 117)
    (encoded : serverId.utf8? = some identifier)
    (answers : client.AnswersJoin (Digest.named identifier secret pair.publicDer)) :
    ∃ response,
      let responding :=
        client.call (.encryptionResponse (.bytes pair.publicDer) (.bytes token))
      let joining :=
        responding.2.call
          (.join (.text serverId) response.sharedSecret (.bytes pair.publicDer))
      Agreement pair serverId identifier token secret
        (Digest.named identifier secret pair.publicDer) response responding joining := by
  have tokenFits : token.length + Rsa.paddingOverhead ≤ handshakeCiphertextLength :=
    Nat.add_le_add_right fits 11
  obtain ⟨response, after, responded, sharedSecret, secretBack, tokenBack, session, _, replies⟩ :=
    call_encryptionResponse noSecret (sharedSecret_eq_ok_iff.mpr ⟨draws, isWhole⟩) isRsa isKey
      tokenFits
  refine ⟨response, ?_⟩
  simp only [responded, sharedSecret]
  have hashed :=
    Digest.ofServerValues_bytes (Digest.serverIdBytes_text encoded) secret pair.publicDer
  have stillAuthenticated : after.session.state = .authenticated := by
    rw [session]
    exact isAuthenticated
  have stillAnswers : after.AnswersJoin (Digest.named identifier secret pair.publicDer) := by
    obtain ⟨shown, answered⟩ := answers
    constructor
    · rw [session]
      exact shown
    · rw [session, replies]
      exact answered
  have joined := call_join_of_answersJoin stillAuthenticated hashed stillAnswers
  have step := after.call_step (.join (.text serverId) (.bytes secret) (.bytes pair.publicDer))
  rw [joined] at step
  exact {
    responded := rfl
    token_eq := tokenBack
    secret_eq := secretBack
    sharedSecret_eq := sharedSecret
    keepsSecret := by rw [session]
    joined := joined
    posted := hasPosted_of_joined step
    server := by
      intro server username given address received isUnauthenticated isIdentifier isReceived
      cases secretBack.symm.trans isReceived
      rcases isIdentifier with rfl | rfl
      · exact goesBy_of_verify username address isUnauthenticated hashed
      · exact goesBy_of_verify username address isUnauthenticated
          (Digest.ofServerValues_bytes (Digest.serverIdBytes_bytes identifier) secret
            pair.publicDer) }

end Situation

/-! ## One handshake -/

namespace Situation

/-- A client that has logged in and is answered with a success whatever it asks. -/
def loggedIn : Situation where
  session := {
    Session.create Config.empty (some .direct) with
    state := .authenticated
    tokens := some {
      accessToken := Value.ofString "access"
      clientToken := Value.ofString "client"
      requestUser := .bool false
    }
    profile := some {
      uuid := Value.ofString "069a79f444e94726a5befca90e38aaf5"
      username := Value.ofString "Notch"
      properties := .list []
    }
  }
  surroundings := Surroundings.quiet [Reply.silent]

/-- A handshake with an empty server identifier and a token of four bytes. -/
theorem handshake_agrees_smooth :
    ∃ response,
      let responding :=
        loggedIn.call (.encryptionResponse
          (.bytes (KeyPair.mk (.rsa RsaPrivateKey.smooth)).publicDer) (.bytes [1, 2, 3, 4]))
      let joining :=
        responding.2.call (.join (.text []) response.sharedSecret
          (.bytes (KeyPair.mk (.rsa RsaPrivateKey.smooth)).publicDer))
      Agreement (KeyPair.mk (.rsa RsaPrivateKey.smooth)) [] [] [1, 2, 3, 4]
        (List.replicate sharedSecretLength 7)
        (Digest.named [] (List.replicate sharedSecretLength 7)
          (KeyPair.mk (.rsa RsaPrivateKey.smooth)).publicDer)
        response responding joining :=
  handshake_agrees rfl rfl rfl rfl rfl RsaPrivateKey.smooth_isHandshakeKey (by decide) rfl
    ⟨rfl, _, _, _, rfl, rfl, rfl⟩

end Situation

end SessionHandshake
