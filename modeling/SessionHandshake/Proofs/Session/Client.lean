import SessionHandshake.Proofs.Random
import SessionHandshake.Proofs.Session.Asking

namespace SessionHandshake

/-!
# The steps of the client's operations

The operations of a client are followed one by one, and each of their exits is
found among those that `SessionStep` lists.
-/

namespace Situation

variable {Result : Type}

/-- A server has been asked through an endpoint, and what came of it. -/
inductive Consults (before : Situation) (endpoint : Endpoint Result) :
    Except Fault Result → Situation → Prop where
  | failed {sent : List SessionRequest} {fault : Fault} {after : Situation} :
      before.Asks (· = endpoint.request) sent after →
      Consults before endpoint (.error fault) after
  | answered
      {body : Value} {handed : SentRequest} {result : Result}
      {status : Int} {content : Value} {rest : List Reply} {after : Situation} :
      before.Asks (· = endpoint.request)
        [{ state := before.session.state, request := handed }] after →
      before.session.transport.handedOver? endpoint.request = some handed →
      endpoint.read (.ok body) = .ok result →
      before.surroundings.replies = .answered status content :: rest →
      isSuccess status = true →
      Consults before endpoint (.ok result) after

theorem consults_send
    (situation : Situation)
    {endpoint : Endpoint Result}
    (needsBody : endpoint.NeedsBody) :
    situation.Consults endpoint
      (situation.perform (SessionAction.send endpoint)).1
      (situation.perform (SessionAction.send endpoint)).2 := by
  rw [perform_send]
  have asks := situation.asks_asking endpoint.request
  cases read : endpoint.read (situation.exchange endpoint.request).outcome with
  | error fault =>
      exact .failed asks
  | ok result =>
      obtain ⟨body, handed, status, rest, readBody, given, sent, replies, succeeded⟩ :=
        read_eq_ok needsBody read
      rw [sent] at asks
      exact .answered asks given readBody replies succeeded

/-- The name of a server is shown before it is asked, which may fail. -/
theorem consults_server
    (situation : Situation)
    {server : Value}
    {named : SessionAction Value}
    (endpoint : Value → Endpoint Result)
    (names :
      situation.perform named = (server.checkShown.map fun _ => server, situation))
    (needsBody : (endpoint server).NeedsBody) :
    situation.Consults (endpoint server)
      (situation.perform (named >>= fun server => SessionAction.send (endpoint server))).1
      (situation.perform (named >>= fun server => SessionAction.send (endpoint server))).2 := by
  rw [perform_bind, names]
  cases server.checkShown with
  | error fault =>
      exact .failed (.refl situation _)
  | ok _ =>
      exact consults_send situation needsBody

/-- A call in a state in which its operation is not possible changes nothing at all. -/
theorem call_refused
    {before : Situation}
    {call : SessionCall}
    {operation : Text}
    {states : List SessionState}
    (gated : call.gate? = some (operation, states))
    (impossible : before.session.state ∉ states) :
    before.call call =
      (.error (.wrongState operation before.session.state states), before) := by
  cases call with
  | authenticate username password clientToken requestUser =>
      cases gated
      simp only [Situation.call, SessionCall.action, SessionAction.authenticate, perform_bind,
        perform_expect, if_neg impossible]
  | join serverId secret publicKey =>
      cases gated
      simp only [Situation.call, SessionCall.action, SessionAction.join, perform_bind,
        perform_expect, if_neg impossible]
  | refresh requestUser =>
      cases gated
      simp only [Situation.call, SessionCall.action, SessionAction.refresh, perform_bind,
        perform_expect, SessionAction.withTokens, if_neg impossible]
  | validate =>
      cases gated
      simp only [Situation.call, SessionCall.action, SessionAction.validate, perform_bind,
        perform_expect, SessionAction.withTokens, if_neg impossible]
  | invalidate =>
      cases gated
      simp only [Situation.call, SessionCall.action, SessionAction.invalidate, perform_bind,
        perform_expect, SessionAction.withTokens, if_neg impossible]
  | verify username serverId secret publicKey address =>
      cases gated
      simp only [Situation.call, SessionCall.action, SessionAction.verify, perform_bind,
        perform_expect, if_neg impossible]
  | createSharedSecret =>
      cases gated
  | encryptionResponse publicKey verifyToken =>
      cases gated
  | signOut username password =>
      cases gated
  | close =>
      cases gated

/-! ## Logging in -/

/-- The client token of a log-in is the given one, unless one has to be drawn. -/
theorem perform_clientTokenOr (situation : Situation) (clientToken : Value) :
    ∃ after,
      situation.Grows (if clientToken.isNull then [.int clientTokenLength] else []) [] after ∧
      after.session = situation.session ∧
      ((∃ fault,
          situation.perform (SessionAction.clientTokenOr clientToken) = (.error fault, after)) ∨
        ∃ token,
          situation.perform (SessionAction.clientTokenOr clientToken) = (.ok token, after) ∧
          (clientToken.isNull = false → token = clientToken)) := by
  unfold SessionAction.clientTokenOr
  cases isNull : clientToken.isNull with
  | false =>
      refine ⟨situation, .refl situation, rfl, .inr ⟨clientToken, ?_, fun _ => rfl⟩⟩
      simp only [Bool.false_eq_true, if_false, perform_pure]
  | true =>
      refine ⟨situation.drawing clientTokenLength, grows_drawing situation _, rfl, ?_⟩
      simp only [if_true, perform_bind, perform_draw]
      cases situation.surroundings.random.clientToken situation.surroundings.drawn with
      | error fault =>
          exact .inl ⟨fault, rfl⟩
      | ok drawn =>
          exact .inr ⟨.text drawn, rfl, fun given => Bool.noConfusion given⟩

theorem consults_exchangeCredentials
    (situation : Situation)
    (username password token requestUser : Value) :
    situation.Consults
      (Endpoint.authenticate situation.session.authServer username password token requestUser)
      (situation.perform
        (SessionAction.exchangeCredentials username password token requestUser)).1
      (situation.perform
        (SessionAction.exchangeCredentials username password token requestUser)).2 :=
  consults_server situation
    (fun server => Endpoint.authenticate server username password token requestUser)
    (perform_authServer situation)
    (Endpoint.needsBody_authenticate _ username password token requestUser)

theorem authenticate_step
    (before : Situation)
    (username password clientToken requestUser : Value) :
    SessionStep before (.authenticate username password clientToken requestUser)
      (before.call (.authenticate username password clientToken requestUser)).1
      (before.call (.authenticate username password clientToken requestUser)).2 := by
  by_cases possible : before.session.state ∈ [SessionState.unauthenticated]
  · have isUnauthenticated : before.session.state = .unauthenticated :=
      List.mem_singleton.mp possible
    simp only [Situation.call, SessionCall.action, SessionAction.authenticate, perform_bind,
      perform_expect, if_pos possible, perform_reportUser, perform_report, perform_onFault,
      perform_change, perform_pure]
    obtain ⟨drawing, draws, sameSession, failed | ⟨token, drawn, isGiven⟩⟩ :=
      before.perform_clientTokenOr clientToken
    · obtain ⟨fault, failed⟩ := failed
      simp only [failed]
      exact .loginFailed isUnauthenticated ⟨draws, .nothing, sameSession⟩
    · simp only [drawn]
      cases username.checkShown with
      | error fault =>
          exact .loginFailed isUnauthenticated ⟨draws, .nothing, sameSession⟩
      | ok _ =>
          simp only
          have consults := consults_exchangeCredentials
            (drawing.reporting .info (SessionAction.forUser "Attempting to authenticate!" username))
            username password token requestUser
          generalize (drawing.reporting .info
            (SessionAction.forUser "Attempting to authenticate!" username)).perform
              (SessionAction.exchangeCredentials username password token requestUser) = ended
            at consults ⊢
          obtain ⟨outcome, asked⟩ := ended
          have canPose :
              ∀ request,
                request = (Endpoint.authenticate drawing.session.authServer username password token
                  requestUser).request →
                before.session.CanPose
                  (.authenticate username password clientToken requestUser) request := by
            intro request isRequest
            exact ⟨token, isGiven, isRequest.trans (by rw [sameSession])⟩
          have sameTransport : drawing.session.transport = before.session.transport := by
            rw [sameSession]
          have asksHere : drawing.session.state = before.session.state := by
            rw [sameSession]
          cases consults with
          | failed asks =>
              have asks := asks.of_reporting
              exact .loginFailed isUnauthenticated {
                grows := (draws.ask asks).report _ _
                sends := (asks.mono canPose).sends before sameTransport asksHere
                session_eq := asks.session_eq.trans sameSession }
          | @answered body handed result status content rest _ asks given read replies succeeded =>
              have asks := asks.of_reporting
              have sends := (asks.mono canPose).sends before sameTransport asksHere
              have asksIn : drawing.session.state = .unauthenticated := by
                rw [sameSession, isUnauthenticated]
              simp only [reporting_session, asksIn] at asks sends read
              rw [sameSession] at read
              refine .loggedIn isUnauthenticated read {
                grows := ((draws.ask asks).change _).report _ _
                sends := sends
                session_eq := ?_ }
              simp only [reporting_session, withSession_session, asks.session_eq, sameSession]
  · rw [call_refused rfl possible]
    exact .refused rfl possible

/-! ## The shared secret -/

/-- A secret is drawn exactly if the source gives bytes, as many as it is asked for. -/
theorem sharedSecret_eq_ok_iff
    {source : RandomSource}
    {drawn : List Value}
    {secret : Bytes} :
    source.sharedSecret drawn = .ok secret ↔
      source drawn (.int sharedSecretLength) = .ok (.bytes secret) ∧
        secret.length = sharedSecretLength :=
  RandomSource.fixedBytes_eq_ok_iff

theorem createSharedSecret_step (before : Situation) :
    SessionStep before .createSharedSecret
      (before.call .createSharedSecret).1 (before.call .createSharedSecret).2 := by
  have draws := before.grows_drawing sharedSecretLength
  simp only [Situation.call, SessionCall.action, SessionAction.createSharedSecret, perform_bind,
    perform_draw, perform_change, perform_pure]
  cases drawn : before.surroundings.random.sharedSecret before.surroundings.drawn with
  | error fault =>
      exact .secretUndrawn drawn ⟨draws, .nothing, rfl⟩
  | ok secret =>
      simp only
      exact .secretDrawn drawn ⟨draws.change _, .nothing, rfl⟩

/-- The secret of a response is at hand, or is drawn and kept, or cannot be drawn. -/
theorem perform_sharedSecret (before : Situation) (publicKey verifyToken : Value) :
    (∃ secret after,
        before.perform SessionAction.sharedSecret = (.ok secret, after) ∧
        before.OffersSecret secret ∧
        before.Leads (.encryptionResponse publicKey verifyToken) []
          { before.session with sharedSecret := some secret } after) ∨
      ∃ fault after,
        before.perform SessionAction.sharedSecret = (.error fault, after) ∧
        before.session.sharedSecret = none ∧
        before.surroundings.random.sharedSecret before.surroundings.drawn = .error fault ∧
        before.Leads (.encryptionResponse publicKey verifyToken) [] before.session after := by
  cases held : before.session.sharedSecret with
  | some secret =>
      refine .inl ⟨secret, before, ?_, .inl held, ?_, .nothing, ?_⟩
      · simp only [SessionAction.sharedSecret, perform_bind, perform_session, held, perform_pure]
      · simp only [SessionCall.draws, held, Option.isNone_some, Bool.false_eq_true, if_false]
        exact .refl before
      · rw [← held]
  | none =>
      have draws :
          before.Grows
            (SessionCall.draws before.session (.encryptionResponse publicKey verifyToken)) []
            (before.drawing sharedSecretLength) := by
        simp only [SessionCall.draws, held, Option.isNone_none, if_true]
        exact before.grows_drawing sharedSecretLength
      simp only [SessionAction.sharedSecret, perform_bind, perform_session, held,
        SessionAction.createSharedSecret, perform_draw, perform_change, perform_pure]
      cases drawn : before.surroundings.random.sharedSecret before.surroundings.drawn with
      | error fault =>
          exact .inr ⟨fault, _, rfl, trivial, rfl, draws, .nothing, rfl⟩
      | ok secret =>
          exact .inl ⟨.bytes secret, _, rfl, .inr ⟨held, secret, drawn, rfl⟩,
            draws.change _, .nothing, rfl⟩

/-- The secret of a response is the one that it was made with. -/
theorem ofSecret_sharedSecret
    {padding : PaddingSource}
    {publicKey verifyToken secret : Value}
    {response : EncryptionResponse}
    (answered :
      EncryptionResponse.ofSecret padding publicKey verifyToken secret = .ok response) :
    response.sharedSecret = secret := by
  simp only [EncryptionResponse.ofSecret, bind_eq_ok_iff, pure_eq_ok_iff] at answered
  obtain ⟨key, _, encryptedSecret, _, encryptedToken, _, rfl⟩ := answered
  rfl

theorem encryptionResponse_step (before : Situation) (publicKey verifyToken : Value) :
    SessionStep before (.encryptionResponse publicKey verifyToken)
      (before.call (.encryptionResponse publicKey verifyToken)).1
      (before.call (.encryptionResponse publicKey verifyToken)).2 := by
  simp only [Situation.call, SessionCall.action, SessionAction.encryptionResponse, perform_bind]
  rcases before.perform_sharedSecret publicKey verifyToken with
    ⟨secret, after, offered, offers, leads⟩ | ⟨fault, after, failed, missing, undrawn, leads⟩
  · have leadsOn :
        before.Leads (.encryptionResponse publicKey verifyToken) []
          { before.session with sharedSecret := some secret }
          { after with surroundings := { after.surroundings with
              padding := after.surroundings.padding.after
                (2 * EncryptionResponse.paddingPerMessage) } } :=
      ⟨⟨leads.grows.random, leads.grows.drawn, leads.grows.requests, leads.grows.replies,
        leads.grows.isDebugging⟩, leads.sends, leads.session_eq⟩
    simp only [offered, perform_get, perform_changeSurroundings, perform_lift]
    cases answered :
        EncryptionResponse.ofSecret after.surroundings.padding publicKey verifyToken secret with
    | error fault =>
        exact .responseFailed offers leadsOn
    | ok response =>
        exact .responded offers (ofSecret_sharedSecret answered) leadsOn
  · simp only [failed]
    exact .responseUndrawn missing undrawn leads

/-! ## Joining a server -/

/-- A join has been announced to the session server, or something has prevented it. -/
theorem perform_announceJoin
    (situation : Situation)
    (serverId secret publicKey : Value) :
    (∃ fault sent after,
        situation.perform (SessionAction.announceJoin serverId secret publicKey) =
          (.error fault, after) ∧
        situation.Asks
          (situation.session.CanPose (.join serverId secret publicKey)) sent after) ∨
      ∃ hash tokens profile handed after,
        situation.perform (SessionAction.announceJoin serverId secret publicKey) =
          (.ok hash, after) ∧
        Digest.ofServerValues Hasher.sha1 serverId secret publicKey = .ok hash ∧
        situation.session.tokens = some tokens ∧
        situation.session.profile = some profile ∧
        situation.session.transport.handedOver?
          (Endpoint.join situation.session.sessionServer tokens.accessToken profile.uuid
            (.text hash)).request = some handed ∧
        situation.Asks
          (situation.session.CanPose (.join serverId secret publicKey))
          [{ state := situation.session.state, request := handed }] after := by
  simp only [SessionAction.announceJoin, perform_bind, perform_lift]
  cases hashed : Digest.ofServerValues Hasher.sha1 serverId secret publicKey with
  | error fault =>
      exact .inl ⟨fault, [], situation, rfl, .refl situation _⟩
  | ok hash =>
      simp only [perform_report, perform_sessionServer, perform_pure]
      generalize isTold : situation.reporting .debug _ = told
      have toldSession : told.session = situation.session := by
        rw [← isTold]
        rfl
      have toldNothing :
          situation.Asks (situation.session.CanPose (.join serverId secret publicKey)) [] told := by
        rw [← isTold]
        exact .of_reporting (.refl _ _)
      cases heldTokens : situation.session.tokens with
      | none =>
          refine .inl ⟨.noSuchOperation, [], told, ?_, toldNothing⟩
          simp only [perform_tokens_none (toldSession ▸ heldTokens)]
      | some tokens =>
          simp only [perform_tokens (toldSession ▸ heldTokens)]
          cases heldProfile : situation.session.profile with
          | none =>
              refine .inl ⟨.noSuchOperation, [], told, ?_, toldNothing⟩
              simp only [perform_profile_none (toldSession ▸ heldProfile)]
          | some profile =>
              simp only [perform_profile (toldSession ▸ heldProfile), toldSession]
              cases situation.session.sessionServer.checkShown with
              | error fault =>
                  exact .inl ⟨fault, [], told, rfl, toldNothing⟩
              | ok _ =>
                  have consults := told.consults_send
                    (Endpoint.needsBody_join situation.session.sessionServer tokens.accessToken
                      profile.uuid (.text hash))
                  have canPose :
                      ∀ request,
                        request = (Endpoint.join situation.session.sessionServer
                          tokens.accessToken profile.uuid (.text hash)).request →
                        situation.session.CanPose (.join serverId secret publicKey) request :=
                    fun request isRequest =>
                      ⟨tokens, profile, hash, heldTokens, heldProfile, hashed, isRequest⟩
                  simp only [Except.map]
                  generalize told.perform (SessionAction.send (Endpoint.join
                    situation.session.sessionServer tokens.accessToken profile.uuid
                    (.text hash))) = ended at consults ⊢
                  obtain ⟨outcome, asked⟩ := ended
                  rw [← isTold] at consults
                  cases consults with
                  | @failed sent fault _ asks =>
                      exact .inl ⟨fault, sent, asked, rfl, asks.of_reporting.mono canPose⟩
                  | @answered body handed _ status content rest _ asks given =>
                      exact .inr ⟨hash, tokens, profile, handed, asked, rfl, rfl, rfl, rfl, given,
                        asks.of_reporting.mono canPose⟩

theorem join_step (before : Situation) (serverId secret publicKey : Value) :
    SessionStep before (.join serverId secret publicKey)
      (before.call (.join serverId secret publicKey)).1
      (before.call (.join serverId secret publicKey)).2 := by
  have samePosed :
      (before.entering .joining).session.CanPose (.join serverId secret publicKey) =
        before.session.CanPose (.join serverId secret publicKey) :=
    rfl
  by_cases possible : before.session.state ∈ [SessionState.authenticated]
  · have isAuthenticated : before.session.state = .authenticated :=
      List.mem_singleton.mp possible
    simp only [Situation.call, SessionCall.action, SessionAction.join, perform_bind,
      perform_expect, if_pos possible, perform_enter, perform_onFault, perform_report,
      perform_change, perform_pure]
    have entered := before.grows_withSession fun session => { session with state := .joining }
    rcases (before.entering .joining).perform_announceJoin serverId secret publicKey with
      ⟨fault, sent, asked, failed, asks⟩ |
        ⟨hash, tokens, profile, handed, asked, announced, hashed, heldTokens, heldProfile, given,
          asks⟩
    · rw [samePosed] at asks
      simp only [failed]
      refine .joinFailed isAuthenticated {
        grows := ((entered.ask asks).report _ _).change _
        sends := asks.sends before rfl rfl
        session_eq := ?_ }
      simp only [withSession_session, reporting_session, asks.session_eq, entering_session,
        isAuthenticated]
    · rw [samePosed] at asks
      simp only [announced]
      have held :
          (asked.withSession fun session =>
            { session with
              state := .joined
              sharedSecret := some secret
              serverHash := some hash }).session.profile = some profile := by
        simp only [withSession_session, asks.session_eq]
        exact heldProfile
      simp only [perform_profile held]
      refine .joined isAuthenticated heldTokens heldProfile hashed given {
        grows := ((entered.ask asks).change _).report _ _
        sends := asks.sends before rfl rfl
        session_eq := ?_ }
      simp only [reporting_session, withSession_session, asks.session_eq, entering_session]
  · rw [call_refused rfl possible]
    exact .refused rfl possible

/-! ## Renewing and giving back tokens -/

/-- New tokens have been asked for, or something has prevented it. -/
theorem perform_exchangeTokens (situation : Situation) (requestUser : Value) :
    (∃ fault sent after,
        situation.perform (SessionAction.exchangeTokens requestUser) = (.error fault, after) ∧
        situation.Asks (situation.session.CanPose (.refresh requestUser)) sent after) ∨
      ∃ result held body handed after,
        situation.perform (SessionAction.exchangeTokens requestUser) = (.ok result, after) ∧
        situation.session.tokens = some held ∧
        (Endpoint.refresh situation.session.authServer held.accessToken held.clientToken
          requestUser).read (.ok body) = .ok result ∧
        situation.Asks (situation.session.CanPose (.refresh requestUser))
          [{ state := situation.session.state, request := handed }] after := by
  simp only [SessionAction.exchangeTokens, perform_bind]
  cases heldTokens : situation.session.tokens with
  | none =>
      simp only [perform_tokens_none heldTokens]
      exact .inl ⟨.noSuchOperation, [], situation, rfl, .refl situation _⟩
  | some tokens =>
      simp only [perform_tokens heldTokens, perform_authServer]
      cases situation.session.authServer.checkShown with
      | error fault =>
          exact .inl ⟨fault, [], situation, rfl, .refl situation _⟩
      | ok _ =>
          have consults := situation.consults_send
            (Endpoint.needsBody_refresh situation.session.authServer tokens.accessToken
              tokens.clientToken requestUser)
          have canPose :
              ∀ request,
                request = (Endpoint.refresh situation.session.authServer tokens.accessToken
                  tokens.clientToken requestUser).request →
                situation.session.CanPose (.refresh requestUser) request :=
            fun request isRequest => ⟨tokens, heldTokens, isRequest⟩
          simp only [Except.map]
          generalize situation.perform (SessionAction.send (Endpoint.refresh
            situation.session.authServer tokens.accessToken tokens.clientToken
            requestUser)) = ended at consults ⊢
          obtain ⟨outcome, asked⟩ := ended
          cases consults with
          | @failed sent fault _ asks =>
              exact .inl ⟨fault, sent, asked, rfl, asks.mono canPose⟩
          | @answered body handed result status content rest _ asks given read =>
              exact .inr ⟨result, tokens, body, handed, asked, rfl, rfl, read,
                asks.mono canPose⟩

theorem masked_text (content : Text) :
    Session.masked (.text content) =
      .ok (Console.maskText content Console.visibleCharacters) :=
  rfl

theorem refresh_step (before : Situation) (requestUser : Value) :
    SessionStep before (.refresh requestUser)
      (before.call (.refresh requestUser)).1 (before.call (.refresh requestUser)).2 := by
  by_cases possible : before.session.state ∈ SessionAction.withTokens
  · simp only [Situation.call, SessionCall.action, SessionAction.refresh, perform_bind,
      perform_expect, if_pos possible, perform_onFault, perform_report, perform_change,
      perform_lift, perform_pure]
    rcases before.perform_exchangeTokens requestUser with
      ⟨fault, sent, asked, failed, asks⟩ |
        ⟨⟨tokens, profile⟩, held, body, handed, asked, renewed, heldTokens, read, asks⟩
    · simp only [failed]
      refine .renewalFailed possible {
        grows := (asks.grows.report _ _).change _
        sends := asks.sends before rfl rfl
        session_eq := ?_ }
      simp only [withSession_session, reporting_session, asks.session_eq]
    · obtain ⟨content, isText, notEmpty⟩ := Endpoint.refresh_accessToken read
      simp only [renewed, isText, masked_text]
      refine .renewed possible heldTokens read {
        grows := (asks.grows.change _).report _ _
        sends := asks.sends before rfl rfl
        session_eq := ?_ }
      simp only [reporting_session, withSession_session, asks.session_eq]
  · rw [call_refused rfl possible]
    exact .refused rfl possible

theorem validate_step (before : Situation) :
    SessionStep before .validate (before.call .validate).1 (before.call .validate).2 := by
  by_cases possible : before.session.state ∈ SessionAction.withTokens
  · have nothing : before.Leads .validate [] before.session before :=
      ⟨.refl before, .nothing, rfl⟩
    simp only [Situation.call, SessionCall.action, SessionAction.validate, perform_bind,
      perform_expect, if_pos possible, perform_pure]
    cases heldTokens : before.session.tokens with
    | none =>
        simp only [perform_tokens_none heldTokens]
        exact .checkFailed possible nothing
    | some tokens =>
        simp only [perform_tokens heldTokens, perform_authServer]
        cases before.session.authServer.checkShown with
        | error fault =>
            exact .checkFailed possible nothing
        | ok _ =>
            -- The check reads a refusal too, so its flag need not come from a body.
            have asks := before.asks_asking
              (Endpoint.validate before.session.authServer tokens.accessToken
                tokens.clientToken).request
            have canPose :
                ∀ request,
                  request = (Endpoint.validate before.session.authServer tokens.accessToken
                    tokens.clientToken).request →
                  before.session.CanPose .validate request :=
              fun request isRequest => ⟨tokens, heldTokens, isRequest⟩
            have sends := (asks.mono canPose).sends before rfl rfl
            simp only [Except.map, perform_send]
            cases (Endpoint.validate before.session.authServer tokens.accessToken
                tokens.clientToken).read (before.exchange
                  (Endpoint.validate before.session.authServer tokens.accessToken
                    tokens.clientToken).request).outcome with
            | error fault =>
                exact .checkFailed possible ⟨asks.grows, sends, rfl⟩
            | ok flag =>
                exact .checked possible ⟨asks.grows, sends, rfl⟩
  · rw [call_refused rfl possible]
    exact .refused rfl possible

theorem invalidate_step (before : Situation) :
    SessionStep before .invalidate (before.call .invalidate).1 (before.call .invalidate).2 := by
  by_cases possible : before.session.state ∈ SessionAction.withTokens
  · have nothing : before.Leads .invalidate [] before.session before :=
      ⟨.refl before, .nothing, rfl⟩
    simp only [Situation.call, SessionCall.action, SessionAction.invalidate, perform_bind,
      perform_expect, if_pos possible, perform_lift, perform_report, perform_change, perform_pure]
    cases heldTokens : before.session.tokens with
    | none =>
        simp only [perform_tokens_none heldTokens]
        exact .invalidationFailed possible nothing
    | some tokens =>
        simp only [perform_tokens heldTokens, perform_authServer]
        cases before.session.authServer.checkShown with
        | error fault =>
            exact .invalidationFailed possible nothing
        | ok _ =>
            have consults := before.consults_send
              (Endpoint.needsBody_invalidate before.session.authServer tokens.accessToken
                tokens.clientToken)
            have canPose :
                ∀ request,
                  request = (Endpoint.invalidate before.session.authServer tokens.accessToken
                    tokens.clientToken).request →
                  before.session.CanPose .invalidate request :=
              fun request isRequest => ⟨tokens, heldTokens, isRequest⟩
            simp only [Except.map]
            generalize before.perform (SessionAction.send (Endpoint.invalidate
              before.session.authServer tokens.accessToken tokens.clientToken)) = ended
              at consults ⊢
            obtain ⟨outcome, asked⟩ := ended
            cases consults with
            | failed asks =>
                exact .invalidationFailed possible
                  ⟨asks.grows, (asks.mono canPose).sends before rfl rfl, asks.session_eq⟩
            | answered asks given =>
                have sends := (asks.mono canPose).sends before rfl rfl
                simp only
                cases Session.masked tokens.accessToken with
                | error fault =>
                    exact .invalidationFailed possible ⟨asks.grows, sends, asks.session_eq⟩
                | ok token =>
                    exact .invalidated possible
                      ⟨(asks.grows.report _ _).change _, sends,
                        congrArg Session.reset asks.session_eq⟩
  · rw [call_refused rfl possible]
    exact .refused rfl possible

theorem signOut_step (before : Situation) (username password : Value) :
    SessionStep before (.signOut username password)
      (before.call (.signOut username password)).1
      (before.call (.signOut username password)).2 := by
  simp only [Situation.call, SessionCall.action, SessionAction.signOut, perform_bind,
    perform_authServer, perform_reportUser, perform_change, perform_pure]
  cases before.session.authServer.checkShown with
  | error fault =>
      exact .signOutFailed ⟨.refl before, .nothing, rfl⟩
  | ok _ =>
      have consults := before.consults_send
        (Endpoint.needsBody_signOut before.session.authServer username password)
      simp only [Except.map]
      generalize before.perform (SessionAction.send
        (Endpoint.signOut before.session.authServer username password)) = ended at consults ⊢
      obtain ⟨outcome, asked⟩ := ended
      cases consults with
      | failed asks =>
          exact .signOutFailed
            ⟨asks.grows, (asks.mono fun _ isRequest => isRequest).sends before rfl rfl,
              asks.session_eq⟩
      | answered asks given read replies succeeded =>
          have posed := asks.mono fun _ isRequest => isRequest
          simp only
          -- A user who cannot be shown has signed out, but the session does not learn of it.
          cases username.checkShown with
          | error fault =>
              exact .signOutFailed
                ⟨asks.grows, posed.sends before rfl rfl, asks.session_eq⟩
          | ok _ =>
              exact .signedOut replies succeeded
                ⟨(asks.grows.report _ _).change _, posed.sends before rfl rfl,
                  congrArg Session.reset asks.session_eq⟩

end Situation

end SessionHandshake
