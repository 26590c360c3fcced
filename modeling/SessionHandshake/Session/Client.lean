import SessionHandshake.Session.Basic

namespace SessionHandshake

/-!
# The client's side of a session

A client logs in, joins servers with a secret of its own for each, and renews,
checks or gives back its tokens.  A secret whose join has failed is given up, and
a failed renewal gives up everything.
-/

namespace SessionAction

/-- The line parts that name a user. -/
def forUser (words : String) (username : Value) : Text :=
  Text.ofString words ++ (" [username=" : Text) ++ username.shown ++ ("]" : Text)

/-- The line parts that name a player. -/
def forPlayer (words : String) (profile : Profile) : Text :=
  Text.ofString words ++ (" [username=" : Text) ++ profile.username.shown ++
    (", uuid=" : Text) ++ profile.uuid.shown ++ ("]" : Text)

/-- The line parts that name a token. -/
def forToken (words : String) (token : Text) : Text :=
  Text.ofString words ++ (" [token=" : Text) ++ token ++ ("]" : Text)

/-- A line that names a user, who must be one that can be shown. -/
def reportUser (level : LogLevel) (words : String) (username : Value) : SessionAction Unit := do
  lift username.checkShown
  report level (forUser words username)

/-- The client token of a log-in: the given one, or one that is drawn. -/
def clientTokenOr (clientToken : Value) : SessionAction Value := do
  if clientToken.isNull then
    let drawn ← draw clientTokenLength RandomSource.clientToken
    return .text drawn
  else
    return clientToken

/-- The authentication server asked for tokens and a profile. -/
def exchangeCredentials (username password clientToken requestUser : Value) :
    SessionAction (Tokens × Profile) := do
  send (Endpoint.authenticate (← authServer) username password clientToken requestUser)

/-- Credentials exchanged for tokens and a profile. -/
def authenticate (username password clientToken requestUser : Value) :
    SessionAction (Tokens × Profile) := do
  expect "authenticate" [.unauthenticated]
  let clientToken ← clientTokenOr clientToken
  reportUser .info "Attempting to authenticate!" username
  -- Whoever gets as far as this can be shown, so the line of a failure does not ask again.
  let (tokens, profile) ← onFault
    (exchangeCredentials username password clientToken requestUser)
    fun _ => report .error (forUser "Authentication failed!" username)
  change fun session => { session with
    state := .authenticated
    tokens := some tokens
    profile := some profile }
  report .success (forPlayer "Authenticated!" profile)
  return (tokens, profile)

/-- A new secret for the connection to a server. -/
def createSharedSecret : SessionAction Value := do
  let drawn ← draw sharedSecretLength RandomSource.sharedSecret
  change fun session => { session with sharedSecret := some (.bytes drawn) }
  return .bytes drawn

/-- The secret of the connection to a server, which is drawn if there is none. -/
def sharedSecret : SessionAction Value := do
  match (← session).sharedSecret with
  | some secret =>
      return secret
  | none =>
      createSharedSecret

/-- The answer to a server's encryption request. -/
def encryptionResponse (publicKey verifyToken : Value) :
    SessionAction EncryptionResponse := do
  let secret ← sharedSecret
  let padding := (← get).surroundings.padding
  changeSurroundings fun surroundings =>
    { surroundings with
      padding := surroundings.padding.after (2 * EncryptionResponse.paddingPerMessage) }
  lift (EncryptionResponse.ofSecret padding publicKey verifyToken secret)

/-- The session server told of a join; the result is the hash that was posted. -/
def announceJoin (serverId secret publicKey : Value) : SessionAction Text := do
  let hash ← lift (Digest.ofServerValues Hasher.sha1 serverId secret publicKey)
  report .debug (("Computed server hash! [hash=" : Text) ++ hash ++ ("]" : Text))
  let tokens ← tokens
  let profile ← profile
  let server ← sessionServer
  send (Endpoint.join server tokens.accessToken profile.uuid (.text hash))
  return hash

/-- A server joined with a secret, which is given up if that fails. -/
def join (serverId secret publicKey : Value) : SessionAction Text := do
  expect "join" [.authenticated]
  enter .joining
  let hash ← onFault (announceJoin serverId secret publicKey) fun _ => do
    report .error "Session server rejected the join!"
    change fun session => { session with state := .authenticated, sharedSecret := none }
  change fun session => { session with
    state := .joined
    sharedSecret := some secret
    serverHash := some hash }
  -- The profile is one that an answer or a restored line has named, and can be shown.
  let profile ← profile
  report .success (forUser "Joined!" profile.username)
  return hash

/-- The states in which a session has tokens that can be used. -/
def withTokens : List SessionState := [.authenticated, .joined]

/-- The tokens exchanged for new ones. -/
def exchangeTokens (requestUser : Value) : SessionAction (Tokens × Option Profile) := do
  let tokens ← tokens
  let server ← authServer
  send (Endpoint.refresh server tokens.accessToken tokens.clientToken requestUser)

/-- The tokens renewed; if that fails, the session starts over. -/
def refresh (requestUser : Value) : SessionAction Tokens := do
  expect "refresh" withTokens
  let (tokens, profile) ← onFault (exchangeTokens requestUser) fun _ => do
    report .warning "Token refresh failed, session is no longer authenticated!"
    change Session.reset
  change fun session => { session with
    state := .authenticated
    tokens := some tokens
    profile := profile.orElse fun _ => session.profile
    sharedSecret := none
    serverHash := none }
  let token ← lift (Session.masked tokens.accessToken)
  report .info (forToken "Refreshed access token!" token)
  return tokens

/-- Whether the access token is still usable. -/
def validate : SessionAction Bool := do
  expect "validate" withTokens
  let tokens ← tokens
  let server ← authServer
  send (Endpoint.validate server tokens.accessToken tokens.clientToken)

/-- The access token given back. -/
def invalidate : SessionAction Unit := do
  expect "invalidate" withTokens
  let tokens ← tokens
  let server ← authServer
  send (Endpoint.invalidate server tokens.accessToken tokens.clientToken)
  let token ← lift (Session.masked tokens.accessToken)
  report .info (forToken "Invalidated access token!" token)
  change Session.reset

/-- All tokens of an account given back; this is possible in any state. -/
def signOut (username password : Value) : SessionAction Unit := do
  let server ← authServer
  send (Endpoint.signOut server username password)
  reportUser .info "Signed out!" username
  change Session.reset

end SessionAction

end SessionHandshake
