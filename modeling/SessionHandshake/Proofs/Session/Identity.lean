import SessionHandshake.Proofs.Received
import SessionHandshake.Proofs.Session.Failure
import SessionHandshake.Proofs.Session.Grant
import SessionHandshake.Proofs.Session.Turn

namespace SessionHandshake

/-!
# Identities of clients

The tokens that a client shows are the ones it has been given last, and it shows
none that it may have lost.  The player in whose name it joins is the last one that
the authentication server has named.  Whatever is asked is asked at the servers
that are configured.
-/

variable {before after : Situation} {call : SessionCall} {outcome : Except Fault SessionResult}

/-! ## Tokens -/

/-- A call with some outcome has obtained tokens. -/
inductive ObtainsTokens : SessionCall → Except Fault SessionResult → Tokens → Prop where
  | loggedIn
      {username password clientToken requestUser : Value}
      {tokens : Tokens} {profile : Profile} :
      ObtainsTokens (.authenticate username password clientToken requestUser)
        (.ok (.identity tokens profile)) tokens
  | renewed {requestUser : Value} {tokens : Tokens} :
      ObtainsTokens (.refresh requestUser) (.ok (.tokens tokens)) tokens

/-- A call with some outcome has received a profile from the authentication server. -/
inductive ReceivesProfile (before : Situation) :
    SessionCall → Except Fault SessionResult → Profile → Prop where
  | loggedIn
      {username password clientToken requestUser : Value}
      {tokens : Tokens} {profile : Profile} :
      ReceivesProfile before (.authenticate username password clientToken requestUser)
        (.ok (.identity tokens profile)) profile
  | renewed {requestUser : Value} {result : SessionResult} {profile : Profile} :
      before.AnswerNames profile →
      ReceivesProfile before (.refresh requestUser) (.ok result) profile

/-- A call with some outcome has lost whatever tokens there were, and the profile with them. -/
inductive LosesIdentity (before : Situation) :
    SessionCall → Except Fault SessionResult → Prop where
  | renewalFailed {requestUser : Value} {fault : Fault} :
      before.session.state = .authenticated ∨ before.session.state = .joined →
      LosesIdentity before (.refresh requestUser) (.error fault)
  | invalidated {result : SessionResult} :
      LosesIdentity before .invalidate (.ok result)
  | signedOut {username password : Value} {result : SessionResult} :
      LosesIdentity before (.signOut username password) (.ok result)

/-- The profile of a session that is logged in; a server's profile is its client's. -/
def Session.ownProfile (session : Session) : Option Profile :=
  match session.state with
  | .authenticated =>
      session.profile
  | .joined =>
      session.profile
  | _ =>
      none

theorem Session.ownProfile_of_withTokens
    {session : Session}
    (possible : session.state ∈ SessionAction.withTokens) :
    session.ownProfile = session.profile := by
  unfold Session.ownProfile
  rcases Situation.withTokens_iff.mp possible with state | state <;> rw [state]

namespace SessionStep

/-- A session that has lost its identity has started over. -/
theorem reset_of_loses
    (step : SessionStep before call outcome after)
    (loses : LosesIdentity before call outcome) :
    after.session = before.session.reset := by
  cases loses with
  | renewalFailed possible =>
      cases step with
      | refused gated impossible =>
          cases gated
          cases impossible (Situation.withTokens_iff.mpr possible)
      | renewalFailed _ leads =>
          exact leads.session_eq
  | invalidated =>
      cases step with
      | invalidated _ leads =>
          exact leads.session_eq
  | signedOut =>
      cases step with
      | signedOut _ _ leads =>
          exact leads.session_eq

theorem tokens_of_obtains
    {tokens : Tokens}
    (step : SessionStep before call outcome after)
    (obtains : ObtainsTokens call outcome tokens) :
    after.session.tokens = some tokens := by
  cases obtains with
  | loggedIn =>
      cases step with
      | loggedIn _ _ leads =>
          rw [leads.session_eq]
  | renewed =>
      cases step with
      | renewed _ _ _ leads =>
          rw [leads.session_eq]

theorem tokens_of_leaves
    (step : SessionStep before call outcome after)
    (unobtained : ∀ tokens, ¬ ObtainsTokens call outcome tokens)
    (kept : ¬ LosesIdentity before call outcome) :
    after.session.tokens = before.session.tokens := by
  cases step with
  | refused _ _ =>
      rfl
  | loggedIn _ _ _ =>
      exact (unobtained _ .loggedIn).elim
  | renewalFailed possible _ =>
      exact (kept (.renewalFailed (Situation.withTokens_iff.mp possible))).elim
  | renewed _ _ _ _ =>
      exact (unobtained _ .renewed).elim
  | invalidated _ _ =>
      exact (kept .invalidated).elim
  | signedOut _ _ _ =>
      exact (kept .signedOut).elim
  | _ =>
      next leads =>
        exact (congrArg Session.tokens leads.session_eq).trans rfl

end SessionStep

/-! ## Turns and identities -/

namespace SessionTurn

/-- The tokens that a turn has obtained were given by the answer to it. -/
theorem answerGives_of_obtains
    (turn : SessionTurn)
    {tokens : Tokens}
    (obtains : ObtainsTokens turn.call turn.outcome tokens) :
    turn.before.AnswerGives tokens := by
  obtain ⟨before, call⟩ := turn
  generalize isOutcome : outcome { before := before, call := call } = outcome at obtains
  cases obtains with
  | loggedIn =>
      obtain ⟨gives, _⟩ := Situation.answer_of_authenticate isOutcome
      exact gives
  | renewed =>
      obtain ⟨_, _, same, gives, _⟩ := Situation.answer_of_refresh isOutcome
      cases same
      exact gives

/-- The profile that a turn has received was named by the answer to it. -/
theorem answerNames_of_receives
    (turn : SessionTurn)
    {profile : Profile}
    (receives : ReceivesProfile turn.before turn.call turn.outcome profile) :
    turn.before.AnswerNames profile := by
  obtain ⟨before, call⟩ := turn
  generalize isOutcome : outcome { before := before, call := call } = outcome at receives
  cases receives with
  | loggedIn =>
      obtain ⟨_, names⟩ := Situation.answer_of_authenticate isOutcome
      exact names
  | renewed names =>
      exact names

/-- A profile that is received is the one that the session goes by then. -/
theorem ownProfile_of_receives
    (turn : SessionTurn)
    {profile : Profile}
    (receives : ReceivesProfile turn.before turn.call turn.outcome profile) :
    turn.after.session.ownProfile = some profile := by
  obtain ⟨before, call⟩ := turn
  have step := SessionTurn.step { before := before, call := call }
  generalize isOutcome : outcome { before := before, call := call } = outcome at receives step
  generalize isAfter : after { before := before, call := call } = after at step ⊢
  cases receives with
  | loggedIn =>
      cases step with
      | loggedIn _ _ leads =>
          rw [leads.session_eq]
          rfl
  | renewed named =>
      obtain ⟨_, renewed, _, _, names, _, session⟩ := Situation.answer_of_refresh isOutcome
      have isNamed := (names profile).mpr named
      rw [← isAfter]
      exact (congrArg Session.ownProfile session).trans (by rw [isNamed]; rfl)

/-- A turn that has received no profile and lost none leaves the session's own as it was. -/
theorem ownProfile_of_leaves
    (turn : SessionTurn)
    (unreceived :
      ∀ profile, ¬ ReceivesProfile turn.before turn.call turn.outcome profile)
    (kept : ¬ LosesIdentity turn.before turn.call turn.outcome) :
    turn.after.session.ownProfile = turn.before.session.ownProfile := by
  obtain ⟨before, call⟩ := turn
  have step := SessionTurn.step { before := before, call := call }
  generalize isOutcome : outcome { before := before, call := call } = outcome
    at unreceived kept step
  generalize isAfter : after { before := before, call := call } = after at step ⊢
  cases step with
  | refused _ _ =>
      rfl
  | loggedIn _ _ _ =>
      exact (unreceived _ .loggedIn).elim
  | joined isAuthenticated _ _ _ _ leads =>
      rw [leads.session_eq, Session.ownProfile, Session.ownProfile, isAuthenticated]
  | renewalFailed possible _ =>
      exact (kept (.renewalFailed (Situation.withTokens_iff.mp possible))).elim
  | renewed _ _ _ _ =>
      -- The step does not say which answer was read, so the call itself is looked at.
      obtain ⟨_, renewed, _, _, names, possible, session⟩ :=
        Situation.answer_of_refresh isOutcome
      rw [Session.ownProfile_of_withTokens possible, ← isAfter]
      cases renewed with
      | none =>
          exact congrArg Session.ownProfile session
      | some profile =>
          exact (unreceived profile (.renewed ((names profile).mp rfl))).elim
  | invalidated _ _ =>
      exact (kept .invalidated).elim
  | signedOut _ _ _ =>
      exact (kept .signedOut).elim
  | rejected isUnauthenticated leads =>
      rw [leads.session_eq, Session.ownProfile, Session.ownProfile, isUnauthenticated]
  | unjudged isUnauthenticated _ leads =>
      rw [leads.session_eq, Session.ownProfile, Session.ownProfile, isUnauthenticated]
  | verified isUnauthenticated _ _ _ leads =>
      rw [leads.session_eq, Session.ownProfile, Session.ownProfile, isUnauthenticated]
  | _ =>
      -- What is left keeps the state and the profile.
      next leads =>
        exact (congrArg Session.ownProfile leads.session_eq).trans rfl

end SessionTurn

namespace Custody

/-- The custody of the tokens of a session. -/
def ofTokens : Custody Tokens where
  Stores := fun turn tokens => ObtainsTokens turn.call turn.outcome tokens
  GivesUp := fun turn => LosesIdentity turn.before turn.call turn.outcome

/-- The custody of the profile of a client. -/
def ofProfile : Custody Profile where
  Stores := fun turn profile => ReceivesProfile turn.before turn.call turn.outcome profile
  GivesUp := fun turn => LosesIdentity turn.before turn.call turn.outcome

theorem ofTokens_governs : ofTokens.Governs Session.tokens where
  stored := fun turn _ obtains => turn.step.tokens_of_obtains obtains
  givenUp := fun turn loses => congrArg Session.tokens (turn.step.reset_of_loses loses)
  left := fun turn leaves => turn.step.tokens_of_leaves leaves.unstored leaves.kept

theorem ofProfile_governs : ofProfile.Governs Session.ownProfile where
  stored := fun turn _ receives => turn.ownProfile_of_receives receives
  givenUp := fun turn loses => congrArg Session.ownProfile (turn.step.reset_of_loses loses)
  left := fun turn leaves => turn.ownProfile_of_leaves leaves.unstored leaves.kept

end Custody

/-! ## Servers -/

/-- A server is the configured one of a name, or a given one if there is none of the name. -/
inductive Config.Names (config : Config) (key otherwise : String) : Value → Prop where
  | configured {server : Value} :
      Value.find? (Value.ofString key) config.entries = some server →
      Names config key otherwise server
  | default :
      Value.find? (Value.ofString key) config.entries = none →
      Names config key otherwise (Value.ofString otherwise)

theorem Config.names_lookupOr (config : Config) (key otherwise : String) :
    config.Names key otherwise (config.lookupOr key (Value.ofString otherwise)) := by
  unfold Config.lookupOr
  cases found : Value.find? (Value.ofString key) config.entries with
  | none =>
      exact .default found
  | some server =>
      exact .configured found

def Config.NamesAuthServer (config : Config) (server : Value) : Prop :=
  config.Names "auth-server" "https://authserver.mojang.com" server

def Config.NamesSessionServer (config : Config) (server : Value) : Prop :=
  config.Names "session-server" "https://sessionserver.mojang.com" server

namespace Session

theorem names_authServer (session : Session) :
    session.config.NamesAuthServer session.authServer :=
  session.config.names_lookupOr _ _

theorem names_sessionServer (session : Session) :
    session.config.NamesSessionServer session.sessionServer :=
  session.config.names_lookupOr _ _

end Session

/-- No call changes what is configured, or the transport. -/
theorem SessionStep.config_eq
    (step : SessionStep before call outcome after) :
    after.session.config = before.session.config ∧
      after.session.transport = before.session.transport := by
  cases step with
  | refused _ _ =>
      exact ⟨rfl, rfl⟩
  | _ =>
      next leads =>
        rw [leads.session_eq]
        exact ⟨rfl, rfl⟩

namespace Situation

variable {start : Situation} {calls : List SessionCall}

theorem ending_config (start : Situation) (calls : List SessionCall) :
    (start.ending calls).session.config = start.session.config ∧
      (start.ending calls).session.transport = start.session.transport := by
  have config :=
    start.ending_eq_of_turns (fun situation => situation.session.config) calls
      fun turn _ => turn.step.config_eq.1
  have transport :=
    start.ending_eq_of_turns (fun situation => situation.session.transport) calls
      fun turn _ => turn.step.config_eq.2
  exact ⟨config, transport⟩

/-! ## What a session begins with -/

/-- A session that has just been made has its tokens and its profile from the configuration. -/
structure Restores (start : Situation) (tokens : Tokens) (profile : Profile) : Prop where
  restored :
    ∃ transport console printed,
      Session.restore start.session.config transport console = .ok (start.session, printed)
  accessToken : start.session.config.lookup "access-token" = .ok tokens.accessToken
  clientToken : start.session.config.lookup "client-token" = .ok tokens.clientToken
  uuid :
    ∃ given digits,
      start.session.config.lookup "uuid" = .ok given ∧
      Uuid.normalize given = .ok digits ∧
      profile.uuid = .text digits

/-- A session that has just been made has no identity, or a restored one. -/
theorem Begins.identity (begins : start.Begins) :
    start.session.tokens = none ∧ start.session.ownProfile = none ∨
      ∃ tokens profile,
        start.session.tokens = some tokens ∧
        start.session.ownProfile = some profile ∧
        start.Restores tokens profile := by
  cases begins with
  | created config transport surroundings =>
      exact .inl ⟨rfl, rfl⟩
  | @restored config transport console printed session surroundings restored =>
      have saved := restored
      simp only [Session.restore, Session.savedIdentity, bind_eq_ok_iff, pure_eq_ok_iff] at saved
      obtain ⟨_, ⟨access, isAccess, client, isClient, given, isGiven, digits, normalized, name,
        _, rfl⟩, line, _, same⟩ := saved
      cases same
      exact .inr ⟨_, _, rfl, rfl, ⟨transport, console, _, restored⟩, isAccess, isClient,
        given, digits, isGiven, normalized, rfl⟩

/-! ## What is sent -/

/--
Tokens are the last that a run has obtained, or those that it has begun with, and
nothing has happened since by which they may have been lost.
-/
inductive CurrentTokens
    (start : Situation)
    (turns : List SessionTurn)
    (tokens : Tokens) : Prop where
  | obtained {earlier later : List SessionTurn} {obtaining : SessionTurn} :
      turns = earlier ++ obtaining :: later →
      ObtainsTokens obtaining.call obtaining.outcome tokens →
      obtaining.before.AnswerGives tokens →
      (∀ turn ∈ later, Custody.ofTokens.Leaves turn) →
      CurrentTokens start turns tokens
  | restored {profile : Profile} :
      start.Restores tokens profile →
      (∀ turn ∈ turns, Custody.ofTokens.Leaves turn) →
      CurrentTokens start turns tokens

/-- A profile is the last that a run has received, or the one that it has begun with. -/
inductive CurrentProfile
    (start : Situation)
    (turns : List SessionTurn)
    (profile : Profile) : Prop where
  | received {earlier later : List SessionTurn} {receiving : SessionTurn} :
      turns = earlier ++ receiving :: later →
      ReceivesProfile receiving.before receiving.call receiving.outcome profile →
      receiving.before.AnswerNames profile →
      (∀ turn ∈ later, Custody.ofProfile.Leaves turn) →
      CurrentProfile start turns profile
  | restored {tokens : Tokens} :
      start.Restores tokens profile →
      (∀ turn ∈ turns, Custody.ofProfile.Leaves turn) →
      CurrentProfile start turns profile

theorem Begins.currentTokens
    {tokens : Tokens}
    (begins : start.Begins)
    (held : (start.ending calls).session.tokens = some tokens) :
    start.CurrentTokens (start.turns calls) tokens := by
  rcases Custody.ofTokens_governs.holds_or_untouched held with
    ⟨earlier, obtaining, later, split, obtains, left⟩ | ⟨atStart, untouched⟩
  · exact .obtained split obtains (obtaining.answerGives_of_obtains obtains) left
  · rcases begins.identity with ⟨noTokens, _⟩ | ⟨saved, profile, isSaved, _, restores⟩
    · cases noTokens.symm.trans atStart
    · cases isSaved.symm.trans atStart
      exact .restored restores untouched

theorem Begins.currentProfile
    {profile : Profile}
    (begins : start.Begins)
    (held : (start.ending calls).session.ownProfile = some profile) :
    start.CurrentProfile (start.turns calls) profile := by
  rcases Custody.ofProfile_governs.holds_or_untouched held with
    ⟨earlier, receiving, later, split, receives, left⟩ | ⟨atStart, untouched⟩
  · exact .received split receives (receiving.answerNames_of_receives receives) left
  · rcases begins.identity with ⟨_, noProfile⟩ | ⟨tokens, saved, _, isSaved, restores⟩
    · cases noProfile.symm.trans atStart
    · cases isSaved.symm.trans atStart
      exact .restored restores untouched

/--
A request that has been handed over is that of a call after some turns: it goes to the
configured server, and says the tokens and the profile that are current then.
-/
def SendsCurrently (start : Situation) (turns : List SessionTurn) (handed : SentRequest) :
    SessionCall → Prop
  | .authenticate username password _ requestUser =>
      ∃ server token,
        start.session.config.NamesAuthServer server ∧
        handed.Posts (server.shown ++ ("/authenticate" : Text)) [
          ("agent", .ofMembers [("name", Value.ofString "Minecraft"), ("version", .int 1)]),
          ("username", username),
          ("password", password),
          ("clientToken", token),
          ("requestUser", requestUser)]
  | .join _ _ _ =>
      ∃ server tokens profile hash,
        start.session.config.NamesSessionServer server ∧
        start.CurrentTokens turns tokens ∧
        start.CurrentProfile turns profile ∧
        handed.Posts (server.shown ++ ("/session/minecraft/join" : Text)) [
          ("accessToken", tokens.accessToken),
          ("selectedProfile", profile.uuid),
          ("serverId", .text hash)]
  | .refresh requestUser =>
      ∃ server tokens,
        start.session.config.NamesAuthServer server ∧
        start.CurrentTokens turns tokens ∧
        handed.Posts (server.shown ++ ("/refresh" : Text)) [
          ("accessToken", tokens.accessToken),
          ("clientToken", tokens.clientToken),
          ("requestUser", requestUser)]
  | .validate =>
      ∃ server tokens,
        start.session.config.NamesAuthServer server ∧
        start.CurrentTokens turns tokens ∧
        handed.Posts (server.shown ++ ("/validate" : Text))
          (("accessToken", tokens.accessToken) ::
            if tokens.clientToken.isNull then [] else [("clientToken", tokens.clientToken)])
  | .invalidate =>
      ∃ server tokens,
        start.session.config.NamesAuthServer server ∧
        start.CurrentTokens turns tokens ∧
        handed.Posts (server.shown ++ ("/invalidate" : Text)) [
          ("accessToken", tokens.accessToken),
          ("clientToken", tokens.clientToken)]
  | .signOut username password =>
      ∃ server,
        start.session.config.NamesAuthServer server ∧
        handed.Posts (server.shown ++ ("/signout" : Text)) [
          ("username", username),
          ("password", password)]
  | .verify username _ _ _ address =>
      ∃ server hash,
        start.session.config.NamesSessionServer server ∧
        handed.Asks (server.shown ++ ("/session/minecraft/hasJoined" : Text))
          ([("username", username), ("serverId", .text hash)] ++
            if address.isNull then [] else [("ip", address)])
  | _ =>
      False

/-- What a validation hands over says the client token if there is one. -/
theorem posts_of_validate_handedOver
    {transport : Transport}
    {server accessToken clientToken : Value}
    {handed : SentRequest}
    (given :
      transport.handedOver? (Endpoint.validate server accessToken clientToken).request =
        some handed) :
    handed.Posts (server.shown ++ ("/validate" : Text))
      (("accessToken", accessToken) ::
        if clientToken.isNull then [] else [("clientToken", clientToken)]) := by
  simp only [Endpoint.validate, Endpoint.tokenMembers] at given
  cases isNull : clientToken.isNull with
  | true =>
      rw [isNull] at given
      exact SentRequest.posts_of_handedOver ["accessToken"] rfl (by decide) (by decide) given
  | false =>
      rw [isNull] at given
      exact SentRequest.posts_of_handedOver ["accessToken", "clientToken"] rfl (by decide)
        (by decide) given

/-- What a call may pose after some calls, it sends with what is current then. -/
theorem Begins.sendsCurrently
    {call : SessionCall}
    {request : Request}
    {transport : Transport}
    {handed : SentRequest}
    (begins : start.Begins)
    (possible : call.IsPossible (start.ending calls).session.state)
    (posed : (start.ending calls).session.CanPose call request)
    (given : transport.handedOver? request = some handed) :
    start.SendsCurrently (start.turns calls) handed call := by
  have authServer := (start.ending calls).session.names_authServer
  have sessionServer := (start.ending calls).session.names_sessionServer
  rw [(start.ending_config calls).1] at authServer sessionServer
  cases call with
  | authenticate username password clientToken requestUser =>
      obtain ⟨token, _, rfl⟩ := posed
      exact ⟨_, token, authServer, SentRequest.posts_of_handedOver
        ["agent", "username", "password", "clientToken", "requestUser"] rfl (by decide)
        (by decide) given⟩
  | join serverId secret publicKey =>
      obtain ⟨tokens, profile, hash, heldTokens, heldProfile, _, rfl⟩ := posed
      -- The profile of a session that may join is its own, not one that it has verified.
      have isAuthenticated := List.mem_singleton.mp (possible _ _ rfl)
      have ownProfile : (start.ending calls).session.ownProfile = some profile :=
        (Session.ownProfile_of_withTokens (withTokens_iff.mpr (.inl isAuthenticated))).trans
          heldProfile
      exact ⟨_, tokens, profile, hash, sessionServer, begins.currentTokens heldTokens,
        begins.currentProfile ownProfile, SentRequest.tellsOfJoin_of_handedOver given⟩
  | refresh requestUser =>
      obtain ⟨tokens, held, rfl⟩ := posed
      exact ⟨_, tokens, authServer, begins.currentTokens held, SentRequest.posts_of_handedOver
        ["accessToken", "clientToken", "requestUser"] rfl (by decide) (by decide) given⟩
  | validate =>
      obtain ⟨tokens, held, rfl⟩ := posed
      exact ⟨_, tokens, authServer, begins.currentTokens held,
        posts_of_validate_handedOver given⟩
  | invalidate =>
      obtain ⟨tokens, held, rfl⟩ := posed
      exact ⟨_, tokens, authServer, begins.currentTokens held, SentRequest.posts_of_handedOver
        ["accessToken", "clientToken"] rfl (by decide) (by decide) given⟩
  | signOut username password =>
      cases posed
      exact ⟨_, authServer, SentRequest.posts_of_handedOver ["username", "password"] rfl
        (by decide) (by decide) given⟩
  | verify username serverId secret publicKey address =>
      obtain ⟨hash, _, rfl⟩ := posed
      exact ⟨_, hash, sessionServer, SentRequest.asksAboutJoin_of_handedOver given⟩
  | createSharedSecret =>
      cases posed
  | encryptionResponse publicKey verifyToken =>
      cases posed
  | close =>
      cases posed

/-- A call that has sent a request was possible. -/
theorem possible_of_sent
    {request : SessionRequest}
    (isSent : request ∈ (before.event call).sent) :
    call.IsPossible before.session.state := by
  intro operation states gated
  by_contra impossible
  have nothing : (before.event call).sent = [] := by
    simp only [event, call_refused gated impossible, List.drop_length]
  rw [nothing] at isSent
  cases isSent

/--
Whatever a run has done before, a call asks the configured servers, with the tokens
that the run has obtained last and not lost since, and a client joins as the player
whom the authentication server has named last.
-/
theorem Begins.identity_custody
    (begins : start.Begins)
    (calls : List SessionCall)
    (call : SessionCall) :
    ∀ request ∈ ((start.ending calls).event call).sent,
      start.SendsCurrently (start.turns calls) request.request call := by
  intro request isSent
  have possible := possible_of_sent isSent
  have sends : call.Sends (start.ending calls).session ((start.ending calls).event call).sent :=
    SessionTurn.sends { before := start.ending calls, call := call }
  generalize ((start.ending calls).event call).sent = sent at isSent sends
  cases sends with
  | nothing =>
      cases isSent
  | one canPose given =>
      rw [List.mem_singleton.mp isSent]
      exact begins.sendsCurrently possible canPose given

/-- A client that has renewed its token joins a server with the new one. -/
theorem identity_custody_renewed :
    let start := Situation.quiet [Reply.granting "first", Reply.granting "second", Reply.silent]
    let calls : List SessionCall := [.logIn, .refresh (.bool false)]
    let joining : SessionCall := .join (.text []) (.bytes []) (.bytes [1])
    start.Begins ∧
      ∃ request ∈ ((start.ending calls).event joining).sent,
        start.SendsCurrently (start.turns calls) request.request joining := by
  intro start calls joining
  have begins : start.Begins := quiet_begins _
  have asks : 0 < ((start.ending calls).event joining).sent.length := by
    decide +kernel
  obtain ⟨request, isSent⟩ := List.exists_mem_of_length_pos asks
  exact ⟨begins, request, isSent, begins.identity_custody calls joining request isSent⟩

end Situation

end SessionHandshake
