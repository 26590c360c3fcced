import SessionHandshake.Proofs.Session.Perform
import SessionHandshake.Proofs.Transport

namespace SessionHandshake

/-!
# What a call of an operation can do

`SessionStep` lists every way in which a call can end: what it gives back, what
it makes of the session, and what it has asked of the surroundings.  Properties
of whole histories follow from it case by case, without another look at the
operations.
-/

namespace SessionCall

/-- The name of an operation that is not possible in every state, and its states. -/
def gate? : SessionCall → Option (Text × List SessionState)
  | .authenticate .. =>
      some ("authenticate", [.unauthenticated])
  | .join .. =>
      some ("join", [.authenticated])
  | .refresh _ =>
      some ("refresh", [.authenticated, .joined])
  | .validate =>
      some ("validate", [.authenticated, .joined])
  | .invalidate =>
      some ("invalidate", [.authenticated, .joined])
  | .verify .. =>
      some ("verify", [.unauthenticated])
  | _ =>
      none

/-- The numbers of random bytes that a call asks for. -/
def draws (session : Session) : SessionCall → List Value
  | .authenticate _ _ clientToken _ =>
      if clientToken.isNull then [.int clientTokenLength] else []
  | .createSharedSecret =>
      [.int sharedSecretLength]
  | .encryptionResponse _ _ =>
      if session.sharedSecret.isNone then [.int sharedSecretLength] else []
  | _ =>
      []

/-- The state in which a call that is made in some state asks the servers. -/
def askingState (state : SessionState) : SessionCall → SessionState
  | .join .. =>
      .joining
  | .verify .. =>
      .verifying
  | _ =>
      state

end SessionCall

/-- A request is one that a call may make on behalf of a session. -/
def Session.CanPose (session : Session) : SessionCall → Request → Prop
  | .authenticate username password clientToken requestUser, request =>
      ∃ token,
        (clientToken.isNull = false → token = clientToken) ∧
        request =
          (Endpoint.authenticate session.authServer username password token requestUser).request
  | .join serverId secret publicKey, request =>
      ∃ tokens profile hash,
        session.tokens = some tokens ∧
        session.profile = some profile ∧
        Digest.ofServerValues Hasher.sha1 serverId secret publicKey = .ok hash ∧
        request =
          (Endpoint.join session.sessionServer tokens.accessToken profile.uuid
            (.text hash)).request
  | .refresh requestUser, request =>
      ∃ tokens,
        session.tokens = some tokens ∧
        request =
          (Endpoint.refresh session.authServer tokens.accessToken tokens.clientToken
            requestUser).request
  | .validate, request =>
      ∃ tokens,
        session.tokens = some tokens ∧
        request =
          (Endpoint.validate session.authServer tokens.accessToken tokens.clientToken).request
  | .invalidate, request =>
      ∃ tokens,
        session.tokens = some tokens ∧
        request =
          (Endpoint.invalidate session.authServer tokens.accessToken tokens.clientToken).request
  | .signOut username password, request =>
      request = (Endpoint.signOut session.authServer username password).request
  | .verify username serverId secret publicKey address, request =>
      ∃ hash,
        Digest.ofServerValues Hasher.sha1 serverId secret publicKey = .ok hash ∧
        request =
          (Endpoint.hasJoined session.sessionServer username (.text hash) address).request
  | _, _ =>
      False

/-- A call has sent nothing, or one request of its own. -/
inductive SessionCall.Sends (session : Session) (call : SessionCall) :
    List SessionRequest → Prop where
  | nothing :
      Sends session call []
  | one {request : Request} {handed : SentRequest} :
      session.CanPose call request →
      session.transport.handedOver? request = some handed →
      Sends session call [{ state := call.askingState session.state, request := handed }]

namespace Situation

/--
The surroundings of a session have been asked for random bytes and have been
sent requests, each of which has used up one reply.
-/
structure Grows
    (before : Situation)
    (drawn : List Value)
    (sent : List SessionRequest)
    (after : Situation) : Prop where
  random : after.surroundings.random = before.surroundings.random
  drawn : after.surroundings.drawn = before.surroundings.drawn ++ drawn
  requests : after.surroundings.requests = before.surroundings.requests ++ sent
  replies : after.surroundings.replies = before.surroundings.replies.drop sent.length
  isDebugging :
    after.surroundings.console.isDebugging = before.surroundings.console.isDebugging

/-- A call that was possible has left a session behind, having sent some requests. -/
structure Leads
    (before : Situation)
    (call : SessionCall)
    (sent : List SessionRequest)
    (session : Session)
    (after : Situation) : Prop where
  grows : before.Grows (call.draws before.session) sent after
  sends : call.Sends before.session sent
  session_eq : after.session = session

/-- A secret is the one that the session has, or a new one if it has none. -/
def OffersSecret (before : Situation) (secret : Value) : Prop :=
  before.session.sharedSecret = some secret ∨
    before.session.sharedSecret = none ∧
      ∃ drawn,
        before.surroundings.random.sharedSecret before.surroundings.drawn = .ok drawn ∧
        secret = .bytes drawn

end Situation

/-- Every way in which a call can end. -/
inductive SessionStep (before : Situation) :
    SessionCall → Except Fault SessionResult → Situation → Prop where
  | refused {call : SessionCall} {operation : Text} {states : List SessionState} :
      call.gate? = some (operation, states) →
      before.session.state ∉ states →
      SessionStep before call
        (.error (.wrongState operation before.session.state states)) before
  | loginFailed
      {username password clientToken requestUser : Value}
      {sent : List SessionRequest} {fault : Fault} {after : Situation} :
      before.session.state = .unauthenticated →
      before.Leads (.authenticate username password clientToken requestUser) sent
        before.session after →
      SessionStep before (.authenticate username password clientToken requestUser)
        (.error fault) after
  | loggedIn
      {username password clientToken requestUser token body : Value}
      {handed : SentRequest} {tokens : Tokens} {profile : Profile} {after : Situation} :
      before.session.state = .unauthenticated →
      (Endpoint.authenticate before.session.authServer username password token
        requestUser).read (.ok body) = .ok (tokens, profile) →
      before.Leads (.authenticate username password clientToken requestUser)
        [{ state := .unauthenticated, request := handed }]
        { before.session with
          state := .authenticated
          tokens := some tokens
          profile := some profile }
        after →
      SessionStep before (.authenticate username password clientToken requestUser)
        (.ok (.identity tokens profile)) after
  | secretUndrawn {fault : Fault} {after : Situation} :
      before.surroundings.random.sharedSecret before.surroundings.drawn = .error fault →
      before.Leads .createSharedSecret [] before.session after →
      SessionStep before .createSharedSecret (.error fault) after
  | secretDrawn {secret : Bytes} {after : Situation} :
      before.surroundings.random.sharedSecret before.surroundings.drawn = .ok secret →
      before.Leads .createSharedSecret []
        { before.session with sharedSecret := some (.bytes secret) } after →
      SessionStep before .createSharedSecret (.ok (.secret (.bytes secret))) after
  | responseUndrawn {publicKey verifyToken : Value} {fault : Fault} {after : Situation} :
      before.session.sharedSecret = none →
      before.surroundings.random.sharedSecret before.surroundings.drawn = .error fault →
      before.Leads (.encryptionResponse publicKey verifyToken) [] before.session after →
      SessionStep before (.encryptionResponse publicKey verifyToken) (.error fault) after
  | responseFailed
      {publicKey verifyToken secret : Value} {fault : Fault} {after : Situation} :
      before.OffersSecret secret →
      before.Leads (.encryptionResponse publicKey verifyToken) []
        { before.session with sharedSecret := some secret } after →
      SessionStep before (.encryptionResponse publicKey verifyToken) (.error fault) after
  | responded
      {publicKey verifyToken secret : Value}
      {response : EncryptionResponse} {after : Situation} :
      before.OffersSecret secret →
      response.sharedSecret = secret →
      before.Leads (.encryptionResponse publicKey verifyToken) []
        { before.session with sharedSecret := some secret } after →
      SessionStep before (.encryptionResponse publicKey verifyToken)
        (.ok (.response response)) after
  | joinFailed
      {serverId secret publicKey : Value}
      {sent : List SessionRequest} {fault : Fault} {after : Situation} :
      before.session.state = .authenticated →
      before.Leads (.join serverId secret publicKey) sent
        { before.session with sharedSecret := none } after →
      SessionStep before (.join serverId secret publicKey) (.error fault) after
  | joined
      {serverId secret publicKey : Value} {handed : SentRequest}
      {tokens : Tokens} {profile : Profile} {hash : Text} {after : Situation} :
      before.session.state = .authenticated →
      before.session.tokens = some tokens →
      before.session.profile = some profile →
      Digest.ofServerValues Hasher.sha1 serverId secret publicKey = .ok hash →
      before.session.transport.handedOver?
        (Endpoint.join before.session.sessionServer tokens.accessToken profile.uuid
          (.text hash)).request = some handed →
      before.Leads (.join serverId secret publicKey)
        [{ state := .joining, request := handed }]
        { before.session with
          state := .joined
          sharedSecret := some secret
          serverHash := some hash }
        after →
      SessionStep before (.join serverId secret publicKey) (.ok (.hash hash)) after
  | renewalFailed
      {requestUser : Value}
      {sent : List SessionRequest} {fault : Fault} {after : Situation} :
      before.session.state ∈ SessionAction.withTokens →
      before.Leads (.refresh requestUser) sent before.session.reset after →
      SessionStep before (.refresh requestUser) (.error fault) after
  | renewed
      {requestUser body : Value} {handed : SentRequest}
      {held tokens : Tokens} {profile : Option Profile} {after : Situation} :
      before.session.state ∈ SessionAction.withTokens →
      before.session.tokens = some held →
      (Endpoint.refresh before.session.authServer held.accessToken held.clientToken
        requestUser).read (.ok body) = .ok (tokens, profile) →
      before.Leads (.refresh requestUser)
        [{ state := before.session.state, request := handed }]
        { before.session with
          state := .authenticated
          tokens := some tokens
          profile := profile.orElse fun _ => before.session.profile
          sharedSecret := none
          serverHash := none }
        after →
      SessionStep before (.refresh requestUser) (.ok (.tokens tokens)) after
  | checkFailed {sent : List SessionRequest} {fault : Fault} {after : Situation} :
      before.session.state ∈ SessionAction.withTokens →
      before.Leads .validate sent before.session after →
      SessionStep before .validate (.error fault) after
  | checked {sent : List SessionRequest} {flag : Bool} {after : Situation} :
      before.session.state ∈ SessionAction.withTokens →
      before.Leads .validate sent before.session after →
      SessionStep before .validate (.ok (.flag flag)) after
  | invalidationFailed {sent : List SessionRequest} {fault : Fault} {after : Situation} :
      before.session.state ∈ SessionAction.withTokens →
      before.Leads .invalidate sent before.session after →
      SessionStep before .invalidate (.error fault) after
  | invalidated {handed : SentRequest} {after : Situation} :
      before.session.state ∈ SessionAction.withTokens →
      before.Leads .invalidate [{ state := before.session.state, request := handed }]
        before.session.reset after →
      SessionStep before .invalidate (.ok .nothing) after
  | signOutFailed
      {username password : Value}
      {sent : List SessionRequest} {fault : Fault} {after : Situation} :
      before.Leads (.signOut username password) sent before.session after →
      SessionStep before (.signOut username password) (.error fault) after
  | signedOut
      {username password : Value} {handed : SentRequest}
      {status : Int} {body : Value} {rest : List Reply} {after : Situation} :
      before.surroundings.replies = .answered status body :: rest →
      isSuccess status = true →
      before.Leads (.signOut username password)
        [{ state := before.session.state, request := handed }]
        before.session.reset after →
      SessionStep before (.signOut username password) (.ok .nothing) after
  | rejected
      {username serverId secret publicKey address : Value}
      {sent : List SessionRequest} {fault : Fault} {after : Situation} :
      before.session.state = .unauthenticated →
      before.Leads (.verify username serverId secret publicKey address) sent
        { before.session with state := .rejected } after →
      SessionStep before (.verify username serverId secret publicKey address)
        (.error fault) after
  | unjudged
      {username serverId secret publicKey address : Value}
      {sent : List SessionRequest} {fault : Fault} {after : Situation} :
      before.session.state = .unauthenticated →
      loweredName username = .error fault →
      before.Leads (.verify username serverId secret publicKey address) sent
        { before.session with state := .verifying } after →
      SessionStep before (.verify username serverId secret publicKey address)
        (.error fault) after
  | verified
      {username serverId secret publicKey address body : Value} {handed : SentRequest}
      {hash : Text} {profile : Profile} {after : Situation} :
      before.session.state = .unauthenticated →
      Digest.ofServerValues Hasher.sha1 serverId secret publicKey = .ok hash →
      before.session.transport.handedOver?
        (Endpoint.hasJoined before.session.sessionServer username (.text hash)
          address).request = some handed →
      (Endpoint.hasJoined before.session.sessionServer username (.text hash)
        address).read (.ok body) = .ok (some profile) →
      before.Leads (.verify username serverId secret publicKey address)
        [{ state := .verifying, request := handed }]
        { before.session with
          state := .verified
          profile := some profile
          serverHash := some hash }
        after →
      SessionStep before (.verify username serverId secret publicKey address)
        (.ok (.profile profile)) after
  | closed {after : Situation} :
      before.Leads .close [] before.session after →
      SessionStep before .close (.ok .nothing) after

/-- A call either was not possible and has changed nothing, or has led somewhere. -/
theorem SessionStep.refused_or_leads
    {before after : Situation}
    {call : SessionCall}
    {outcome : Except Fault SessionResult}
    (step : SessionStep before call outcome after) :
    (∃ operation states,
        call.gate? = some (operation, states) ∧
        before.session.state ∉ states ∧
        outcome = .error (.wrongState operation before.session.state states) ∧
        after = before) ∨
      ∃ sent session, before.Leads call sent session after := by
  cases step with
  | refused gated impossible =>
      exact .inl ⟨_, _, gated, impossible, rfl, rfl⟩
  | _ =>
      next leads =>
        exact .inr ⟨_, _, leads⟩

end SessionHandshake
