import SessionHandshake.Proofs.Session.Client

namespace SessionHandshake

/-!
# Results of calls

What a call ends with depends on the session, on the sources of random values and on
the next reply alone.  Each operation is a sequence of parts, and whatever fault the
first part to fail ends with is the fault of the call, also where the operation cleans
up after it.
-/

/-- The tokens of a session; without any there is nothing to ask for. -/
def Session.heldTokens (session : Session) : Except Fault Tokens :=
  match session.tokens with
  | some tokens =>
      .ok tokens
  | none =>
      .error .noSuchOperation

/-- The profile of a session; without one there is nothing to ask for. -/
def Session.heldProfile (session : Session) : Except Fault Profile :=
  match session.profile with
  | some profile =>
      .ok profile
  | none =>
      .error .noSuchOperation

namespace Situation

variable {Result Next : Type}

/-! ## The parts of the operations -/

/-- What the next reply says to an endpoint. -/
def answerTo (situation : Situation) (endpoint : Endpoint Result) : Except Fault Result :=
  endpoint.read
    (situation.session.transport.outcome endpoint.request situation.surroundings.replies)

/-- What an endpoint that needs a body makes of the next reply, it makes of a body. -/
theorem answerTo_eq_ok
    {situation : Situation}
    {endpoint : Endpoint Result}
    {result : Result}
    (needsBody : endpoint.NeedsBody)
    (answered : situation.answerTo endpoint = .ok result) :
    ∃ status body rest,
      situation.surroundings.replies = .answered status body :: rest ∧
      endpoint.read (.ok body) = .ok result := by
  have read : endpoint.read (situation.exchange endpoint.request).outcome = .ok result := by
    rw [exchange, Transport.exchange_outcome]
    exact answered
  obtain ⟨body, _, status, rest, readBody, _, _, replies, _⟩ := read_eq_ok needsBody read
  exact ⟨status, body, rest, replies, readBody⟩

/-- What the authentication server says, if messages can show its name. -/
def authAnswer (situation : Situation) (endpoint : Value → Endpoint Result) :
    Except Fault Result := do
  situation.session.authServer.checkShown
  situation.answerTo (endpoint situation.session.authServer)

/-- The client token of a log-in, which is drawn if none is given. -/
def clientTokenFor (situation : Situation) (clientToken : Value) : Except Fault Value :=
  if clientToken.isNull then
    (situation.surroundings.random.clientToken situation.surroundings.drawn).map .text
  else
    .ok clientToken

/-- What comes of asking for tokens with credentials. -/
def login (situation : Situation) (username password clientToken requestUser : Value) :
    Except Fault (Tokens × Profile) := do
  let token ← situation.clientTokenFor clientToken
  username.checkShown
  situation.authAnswer fun server =>
    Endpoint.authenticate server username password token requestUser

/-- The secret of a response, which is drawn if there is none. -/
def secretForResponse (situation : Situation) : Except Fault Value :=
  match situation.session.sharedSecret with
  | some secret =>
      .ok secret
  | none =>
      (situation.surroundings.random.sharedSecret situation.surroundings.drawn).map .bytes

/-- The response to an encryption request. -/
def responseTo (situation : Situation) (publicKey verifyToken : Value) :
    Except Fault EncryptionResponse := do
  let secret ← situation.secretForResponse
  EncryptionResponse.ofSecret situation.surroundings.padding publicKey verifyToken secret

/-- What comes of telling the session server about a join. -/
def announcement (situation : Situation) (serverId secret publicKey : Value) :
    Except Fault Text := do
  let hash ← Digest.ofServerValues Hasher.sha1 serverId secret publicKey
  let tokens ← situation.session.heldTokens
  let profile ← situation.session.heldProfile
  let server := situation.session.sessionServer
  server.checkShown
  situation.answerTo (Endpoint.join server tokens.accessToken profile.uuid (.text hash))
  return hash

/-- What comes of asking the session server about a join. -/
def confirmation (situation : Situation) (username serverId secret publicKey address : Value) :
    Except Fault (Text × Option Profile) := do
  let hash ← Digest.ofServerValues Hasher.sha1 serverId secret publicKey
  username.checkShown
  let server := situation.session.sessionServer
  server.checkShown
  let answered ← situation.answerTo (Endpoint.hasJoined server username (.text hash) address)
  return (hash, answered)

/-- What comes of asking for new tokens. -/
def renewal (situation : Situation) (requestUser : Value) :
    Except Fault (Tokens × Option Profile) := do
  let tokens ← situation.session.heldTokens
  situation.authAnswer fun server =>
    Endpoint.refresh server tokens.accessToken tokens.clientToken requestUser

/-- What comes of asking whether the tokens are still usable. -/
def tokenCheck (situation : Situation) : Except Fault Bool := do
  let tokens ← situation.session.heldTokens
  situation.authAnswer fun server =>
    Endpoint.validate server tokens.accessToken tokens.clientToken

/-- What comes of giving the tokens back, of which a message shows one in the end. -/
def tokenReturn (situation : Situation) : Except Fault Unit := do
  let tokens ← situation.session.heldTokens
  situation.authAnswer fun server =>
    Endpoint.invalidate server tokens.accessToken tokens.clientToken
  let _ ← Session.masked tokens.accessToken
  return ()

/-- What comes of giving all tokens of an account back, whose user a message names in the end. -/
def accountReturn (situation : Situation) (username password : Value) : Except Fault Unit := do
  situation.authAnswer fun server => Endpoint.signOut server username password
  username.checkShown

/-! ## The parts performed -/

theorem perform_send_fst (situation : Situation) (endpoint : Endpoint Result) :
    (situation.perform (SessionAction.send endpoint)).1 = situation.answerTo endpoint := by
  rw [perform_send, exchange, Transport.exchange_outcome]
  rfl

theorem perform_askAuthServer_fst
    (situation : Situation)
    (endpoint : Value → Endpoint Result) :
    (situation.perform
        (SessionAction.authServer >>= fun server => SessionAction.send (endpoint server))).1 =
      situation.authAnswer endpoint := by
  simp only [authAnswer, perform_bind, perform_authServer]
  cases situation.session.authServer.checkShown with
  | error fault =>
      rfl
  | ok _ =>
      exact perform_send_fst situation _

/-- What follows the answer of a server that is asked takes nothing but its result. -/
theorem perform_askServer_then
    {situation : Situation}
    {server : SessionAction Value}
    {name : Value}
    (names : situation.perform server = (name.checkShown.map fun _ => name, situation))
    {endpoint : Value → Endpoint Result}
    {next : Result → SessionAction Next}
    {ending : Result → Except Fault Next}
    (goesOn :
      ∀ (result : Result) (after : Situation), (after.perform (next result)).1 = ending result) :
    (situation.perform
        (server >>= fun server => SessionAction.send (endpoint server) >>= next)).1 =
      name.checkShown >>= fun _ => situation.answerTo (endpoint name) >>= ending := by
  rw [perform_bind, names]
  cases name.checkShown with
  | error fault =>
      rfl
  | ok _ =>
      have asked := situation.perform_send_fst (endpoint name)
      simp only [Except.map, ok_bind, perform_bind, ← asked]
      generalize situation.perform (SessionAction.send _) = ended
      obtain ⟨outcome, after⟩ := ended
      cases outcome with
      | error fault =>
          rfl
      | ok result =>
          exact goesOn result after

theorem perform_askAuthServer_then
    (situation : Situation)
    (endpoint : Value → Endpoint Result)
    {next : Result → SessionAction Next}
    {ending : Result → Except Fault Next}
    (goesOn :
      ∀ (result : Result) (after : Situation), (after.perform (next result)).1 = ending result) :
    (situation.perform
        (SessionAction.authServer >>= fun server =>
          SessionAction.send (endpoint server) >>= next)).1 =
      situation.authAnswer endpoint >>= ending := by
  rw [perform_askServer_then situation.perform_authServer goesOn, authAnswer, bind_assoc]

/-- What follows a part that leaves the situation as it is takes nothing but its result. -/
theorem perform_then
    {situation : Situation}
    {action : SessionAction Result}
    {outcome : Except Fault Result}
    (performed : situation.perform action = (outcome, situation))
    {next : Result → SessionAction Next}
    {ending : Result → Except Fault Next}
    (goesOn : ∀ result, (situation.perform (next result)).1 = ending result) :
    (situation.perform (action >>= next)).1 = outcome >>= ending := by
  rw [perform_bind, performed]
  cases outcome with
  | error fault =>
      rfl
  | ok result =>
      exact goesOn result

theorem perform_tokens_eq (situation : Situation) :
    situation.perform SessionAction.tokens = (situation.session.heldTokens, situation) := by
  unfold Session.heldTokens
  cases held : situation.session.tokens with
  | none =>
      exact perform_tokens_none held
  | some tokens =>
      exact perform_tokens held

theorem perform_profile_eq (situation : Situation) :
    situation.perform SessionAction.profile = (situation.session.heldProfile, situation) := by
  unfold Session.heldProfile
  cases held : situation.session.profile with
  | none =>
      exact perform_profile_none held
  | some profile =>
      exact perform_profile held

theorem perform_clientTokenOr_eq (situation : Situation) (clientToken : Value) :
    situation.perform (SessionAction.clientTokenOr clientToken) =
      (situation.clientTokenFor clientToken,
        if clientToken.isNull then situation.drawing clientTokenLength else situation) := by
  unfold SessionAction.clientTokenOr clientTokenFor
  cases clientToken.isNull with
  | false =>
      rfl
  | true =>
      simp only [if_true, perform_bind, perform_draw]
      cases situation.surroundings.random.clientToken situation.surroundings.drawn <;> rfl

theorem perform_announceJoin_fst
    (situation : Situation)
    (serverId secret publicKey : Value) :
    (situation.perform (SessionAction.announceJoin serverId secret publicKey)).1 =
      situation.announcement serverId secret publicKey := by
  refine perform_then (perform_lift _ _) fun hash => ?_
  rw [perform_bind, perform_report]
  -- The message about the hash changes neither the session nor the replies.
  refine perform_then (perform_tokens_eq _) fun tokens => ?_
  refine perform_then (perform_profile_eq _) fun profile => ?_
  exact perform_askServer_then (perform_sessionServer _) fun _ _ => rfl

theorem perform_askAboutJoin_fst
    (situation : Situation)
    (username serverId secret publicKey address : Value) :
    (situation.perform
        (SessionAction.askAboutJoin username serverId secret publicKey address)).1 =
      situation.confirmation username serverId secret publicKey address := by
  refine perform_then (perform_lift _ _) fun hash => ?_
  refine perform_then (perform_lift _ _) fun _ => ?_
  rw [perform_bind, perform_report]
  exact perform_askServer_then (perform_sessionServer _) fun _ _ => rfl

theorem perform_exchangeTokens_fst (situation : Situation) (requestUser : Value) :
    (situation.perform (SessionAction.exchangeTokens requestUser)).1 =
      situation.renewal requestUser :=
  perform_then situation.perform_tokens_eq fun _ => perform_askAuthServer_fst situation _

/-- An operation that is possible goes on as if its state had not been checked. -/
theorem perform_expect_then
    {situation : Situation}
    {operation : Text}
    {states : List SessionState}
    {next : Unit → SessionAction Next}
    (possible : situation.session.state ∈ states) :
    situation.perform (SessionAction.expect operation states >>= next) =
      situation.perform (next ()) := by
  rw [perform_bind, perform_expect, if_pos possible]

/-- A call wraps the result of its operation. -/
theorem perform_wrapped_fst
    {situation : Situation}
    {action : SessionAction Result}
    {wrap : Result → Next}
    {outcome : Except Fault Result}
    (performed : (situation.perform action).1 = outcome) :
    (situation.perform (action >>= fun result => pure (wrap result))).1 = outcome.map wrap := by
  rw [perform_bind, ← performed]
  rcases situation.perform action with ⟨ended, after⟩
  cases ended <;> rfl

/-! ## The operations -/

variable {before : Situation}

theorem authenticate_outcome
    (username password clientToken requestUser : Value)
    (isUnauthenticated : before.session.state = .unauthenticated) :
    (before.call (.authenticate username password clientToken requestUser)).1 =
      (before.login username password clientToken requestUser).map fun identity =>
        .identity identity.1 identity.2 := by
  have possible : before.session.state ∈ [SessionState.unauthenticated] :=
    List.mem_singleton.mpr isUnauthenticated
  simp only [Situation.call, SessionCall.action, SessionAction.authenticate, perform_bind,
    perform_expect, if_pos possible, perform_reportUser, perform_report, perform_onFault,
    perform_change, perform_pure, perform_clientTokenOr_eq, login]
  cases before.clientTokenFor clientToken with
  | error fault =>
      rfl
  | ok token =>
      simp only [ok_bind]
      cases username.checkShown with
      | error fault =>
          rfl
      | ok _ =>
          simp only [ok_bind]
          generalize isWaiting : Situation.reporting _ .info _ = waiting
          have asked := perform_askAuthServer_fst waiting fun server =>
            Endpoint.authenticate server username password token requestUser
          have sameAnswer :
              (waiting.authAnswer fun server =>
                  Endpoint.authenticate server username password token requestUser) =
                before.authAnswer fun server =>
                  Endpoint.authenticate server username password token requestUser := by
            rw [← isWaiting]
            cases clientToken.isNull <;> rfl
          rw [sameAnswer] at asked
          simp only [SessionAction.exchangeCredentials]
          generalize waiting.perform (SessionAction.authServer >>= _) = ended at asked ⊢
          obtain ⟨outcome, after⟩ := ended
          simp only at asked
          rw [← asked]
          cases outcome <;> rfl

theorem createSharedSecret_outcome (before : Situation) :
    (before.call .createSharedSecret).1 =
      (before.surroundings.random.sharedSecret before.surroundings.drawn).map fun secret =>
        .secret (.bytes secret) := by
  simp only [Situation.call, SessionCall.action, SessionAction.createSharedSecret, perform_bind,
    perform_draw, perform_change, perform_pure]
  cases before.surroundings.random.sharedSecret before.surroundings.drawn <;> rfl

/-- The secret of a response, which is found without touching the padding. -/
theorem perform_sharedSecret_eq (situation : Situation) :
    ∃ after,
      situation.perform SessionAction.sharedSecret = (situation.secretForResponse, after) ∧
      after.surroundings.padding = situation.surroundings.padding := by
  simp only [SessionAction.sharedSecret, secretForResponse, perform_bind, perform_session]
  cases situation.session.sharedSecret with
  | some secret =>
      exact ⟨situation, rfl, rfl⟩
  | none =>
      simp only [SessionAction.createSharedSecret, perform_bind, perform_draw]
      cases situation.surroundings.random.sharedSecret situation.surroundings.drawn with
      | error fault =>
          exact ⟨_, rfl, rfl⟩
      | ok secret =>
          exact ⟨_, rfl, rfl⟩

theorem encryptionResponse_outcome (before : Situation) (publicKey verifyToken : Value) :
    (before.call (.encryptionResponse publicKey verifyToken)).1 =
      (before.responseTo publicKey verifyToken).map .response := by
  obtain ⟨after, performed, samePadding⟩ := before.perform_sharedSecret_eq
  simp only [Situation.call, SessionCall.action, SessionAction.encryptionResponse, perform_bind,
    performed, responseTo]
  cases before.secretForResponse with
  | error fault =>
      rfl
  | ok secret =>
      simp only [perform_get, perform_changeSurroundings, perform_lift, samePadding, ok_bind]
      cases EncryptionResponse.ofSecret before.surroundings.padding publicKey verifyToken secret
        <;> rfl

theorem join_outcome
    (serverId secret publicKey : Value)
    (isAuthenticated : before.session.state = .authenticated) :
    (before.call (.join serverId secret publicKey)).1 =
      (before.announcement serverId secret publicKey).map .hash := by
  have possible : before.session.state ∈ [SessionState.authenticated] :=
    List.mem_singleton.mpr isAuthenticated
  have announced := perform_announceJoin_fst (before.entering .joining) serverId secret publicKey
  change _ = before.announcement serverId secret publicKey at announced
  simp only [Situation.call, SessionCall.action, SessionAction.join, perform_bind,
    perform_expect, if_pos possible, perform_enter, perform_onFault, perform_report,
    perform_change, perform_pure]
  rcases (before.entering .joining).perform_announceJoin serverId secret publicKey with
    ⟨fault, sent, asked, failed, _⟩ |
      ⟨hash, tokens, profile, handed, asked, succeeded, _, _, heldProfile, _, asks⟩
  · rw [failed] at announced
    simp only [failed, ← announced]
    rfl
  · rw [succeeded] at announced
    have held :
        (asked.withSession fun session =>
          { session with
            state := .joined
            sharedSecret := some secret
            serverHash := some hash }).session.profile = some profile := by
      simp only [withSession_session, asks.session_eq]
      exact heldProfile
    simp only [succeeded, perform_profile held, ← announced]
    rfl

theorem refresh_outcome
    (requestUser : Value)
    (possible : before.session.state ∈ SessionAction.withTokens) :
    (before.call (.refresh requestUser)).1 =
      (before.renewal requestUser).map fun renewed => .tokens renewed.1 := by
  have exchanged := before.perform_exchangeTokens_fst requestUser
  simp only [Situation.call, SessionCall.action, SessionAction.refresh, perform_bind,
    perform_expect, if_pos possible, perform_onFault, perform_report, perform_change,
    perform_lift, perform_pure]
  rcases before.perform_exchangeTokens requestUser with
    ⟨fault, sent, asked, failed, _⟩ |
      ⟨⟨tokens, profile⟩, held, body, handed, asked, renewed, _, read, _⟩
  · rw [failed] at exchanged
    simp only [failed, ← exchanged]
    rfl
  · obtain ⟨content, isText, _⟩ := Endpoint.refresh_accessToken read
    rw [renewed] at exchanged
    simp only [renewed, isText, masked_text, ← exchanged]
    rfl

/-- A renewal puts its tokens in the place of the old ones, and its profile if it has one. -/
theorem refresh_session
    {requestUser : Value}
    {tokens : Tokens}
    {profile : Option Profile}
    (possible : before.session.state ∈ SessionAction.withTokens)
    (renewed : before.renewal requestUser = .ok (tokens, profile)) :
    (before.call (.refresh requestUser)).2.session = { before.session with
      state := .authenticated
      tokens := some tokens
      profile := profile.orElse fun _ => before.session.profile
      sharedSecret := none
      serverHash := none } := by
  have exchanged := before.perform_exchangeTokens_fst requestUser
  rw [renewed] at exchanged
  simp only [Situation.call, SessionCall.action, SessionAction.refresh, perform_bind,
    perform_expect, if_pos possible, perform_onFault, perform_report, perform_change,
    perform_lift, perform_pure]
  rcases before.perform_exchangeTokens requestUser with
    ⟨fault, sent, asked, failed, _⟩ |
      ⟨⟨other, otherProfile⟩, held, body, handed, asked, succeeded, _, read, asks⟩
  · rw [failed] at exchanged
    cases exchanged
  · obtain ⟨content, isText, _⟩ := Endpoint.refresh_accessToken read
    rw [succeeded] at exchanged
    cases exchanged
    simp only [succeeded, isText, masked_text, reporting_session, withSession_session,
      asks.session_eq]

theorem validate_outcome (possible : before.session.state ∈ SessionAction.withTokens) :
    (before.call .validate).1 = before.tokenCheck.map .flag := by
  have performed : (before.perform SessionAction.validate).1 = before.tokenCheck := by
    rw [SessionAction.validate, perform_expect_then possible]
    exact perform_then before.perform_tokens_eq fun _ => before.perform_askAuthServer_fst _
  exact perform_wrapped_fst performed

theorem invalidate_outcome (possible : before.session.state ∈ SessionAction.withTokens) :
    (before.call .invalidate).1 = before.tokenReturn.map fun _ => .nothing := by
  have performed : (before.perform SessionAction.invalidate).1 = before.tokenReturn := by
    rw [SessionAction.invalidate, perform_expect_then possible]
    refine perform_then before.perform_tokens_eq fun tokens =>
      before.perform_askAuthServer_then _ fun _ after => ?_
    simp only [perform_bind, perform_lift, perform_report, perform_change]
    cases Session.masked tokens.accessToken <;> rfl
  exact perform_wrapped_fst performed

theorem signOut_outcome (before : Situation) (username password : Value) :
    (before.call (.signOut username password)).1 =
      (before.accountReturn username password).map fun _ => .nothing := by
  have performed :
      (before.perform (SessionAction.signOut username password)).1 =
        before.accountReturn username password :=
    before.perform_askAuthServer_then (fun server => Endpoint.signOut server username password)
      fun _ after => by
        rw [perform_bind, perform_reportUser]
        cases username.checkShown <;> rfl
  exact perform_wrapped_fst performed

end Situation

end SessionHandshake
