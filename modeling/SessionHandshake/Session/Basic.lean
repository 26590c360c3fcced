import SessionHandshake.Config
import SessionHandshake.Digest
import SessionHandshake.Key.Exchange
import SessionHandshake.Transport.Basic

namespace SessionHandshake

/-!
# Sessions

A session is one attempt to log in.  What it does depends on what surrounds it:
where its random bytes come from, what the servers answer and what has been
printed so far.  A session and its surroundings make up a situation, and every
operation is an action on situations that ends with a result or with a fault.
An action that ends with a fault has changed the situation as far as it came.
-/

/-- One attempt to log in, as a client or as a server. -/
structure Session where
  config : Config
  transport : Transport
  /-- The session has made its transport itself and closes it. -/
  ownsTransport : Bool
  state : SessionState
  tokens : Option Tokens
  profile : Option Profile
  sharedSecret : Option Value
  serverHash : Option Text

/-- A request that a session has sent, and the state in which it was sent. -/
structure SessionRequest where
  state : SessionState
  request : SentRequest

/-- What surrounds a session. -/
structure Surroundings where
  random : RandomSource
  /-- The numbers of random bytes asked for so far, the oldest first. -/
  drawn : List Value
  padding : PaddingSource
  replies : List Reply
  /-- The requests sent so far, the oldest first. -/
  requests : List SessionRequest
  /-- How often the transport has been closed. -/
  closes : Nat
  console : Console

/-- A session and what surrounds it. -/
structure Situation where
  session : Session
  surroundings : Surroundings

/-- An action on situations that ends with a result or a fault. -/
abbrev SessionAction := ExceptT Fault (StateM Situation)

namespace Session

/-- A session that has not done anything yet; without a transport it makes its own. -/
def create (config : Config) (transport : Option Transport) : Session where
  config := config
  transport := transport.getD (Transport.ofTimeout config.timeout)
  ownsTransport := transport.isNone
  state := .unauthenticated
  tokens := none
  profile := none
  sharedSecret := none
  serverHash := none

/-- The session with all that it has gained given up. -/
def reset (session : Session) : Session :=
  { session with
    state := .unauthenticated
    tokens := none
    profile := none
    sharedSecret := none
    serverHash := none }

/-- The authentication server of a session. -/
def authServer (session : Session) : Value :=
  session.config.authServer

/-- The session server of a session. -/
def sessionServer (session : Session) : Value :=
  session.config.sessionServer

/-- A token as messages show it. -/
def masked (token : Value) : Except Fault Text :=
  Console.mask token (.int Console.visibleCharacters)

/-- The tokens and the profile that a configuration holds. -/
def savedIdentity (config : Config) : Except Fault (Tokens × Profile) := do
  let accessToken ← config.lookup "access-token"
  let clientToken ← config.lookup "client-token"
  let uuid ← Uuid.normalize (← config.lookup "uuid")
  let username ← config.lookup "username"
  let tokens : Tokens := {
    accessToken := accessToken
    clientToken := clientToken
    requestUser := .bool false
  }
  let profile : Profile := {
    uuid := .text uuid
    username := username
    properties := .list []
  }
  return (tokens, profile)

/-- The line that reports a session that goes on from a configuration. -/
def restoredLine (tokens : Tokens) (profile : Profile) : Except Fault Text := do
  profile.username.checkShown
  let token ← masked tokens.accessToken
  return ("Restored session! [username=" : Text) ++ profile.username.shown ++
    (", token=" : Text) ++ token ++ ("]" : Text)

/-- A session that goes on from the tokens and the profile in a configuration. -/
def restore
    (config : Config)
    (transport : Option Transport)
    (console : Console) :
    Except Fault (Session × Console) := do
  let (tokens, profile) ← savedIdentity config
  let line ← restoredLine tokens profile
  let session := {
    create config transport with
    state := .authenticated
    tokens := some tokens
    profile := some profile
  }
  return (session, console.report .info line)

end Session

namespace SessionAction

/-- The session as it is now. -/
def session : SessionAction Session := do
  return (← get).session

/-- The session changed. -/
def change (update : Session → Session) : SessionAction Unit :=
  modify fun situation => { situation with session := update situation.session }

/-- The state of the session changed. -/
def enter (state : SessionState) : SessionAction Unit :=
  change fun session => { session with state := state }

/-- The surroundings changed. -/
def changeSurroundings (update : Surroundings → Surroundings) : SessionAction Unit :=
  modify fun situation => { situation with surroundings := update situation.surroundings }

/-- The result of something that does not touch the situation. -/
def lift {Result : Type} (outcome : Except Fault Result) : SessionAction Result :=
  match outcome with
  | .ok result =>
      return result
  | .error fault =>
      throw fault

/-- The operation is possible in some states only. -/
def expect (operation : Text) (states : List SessionState) : SessionAction Unit := do
  let session ← session
  if states.contains session.state then
    return
  else
    throw (.wrongState operation session.state states)

/-- The authentication server of the session, which addresses name. -/
def authServer : SessionAction Value := do
  let server := (← session).authServer
  lift server.checkShown
  return server

/-- The session server of the session, which addresses name. -/
def sessionServer : SessionAction Value := do
  let server := (← session).sessionServer
  lift server.checkShown
  return server

/-- A message printed. -/
def report (level : LogLevel) (message : Text) : SessionAction Unit :=
  changeSurroundings fun surroundings =>
    { surroundings with console := surroundings.console.report level message }

/-- An action, and what is to be done if it ends with a fault, which goes on. -/
def onFault {Result : Type}
    (action : SessionAction Result)
    (handle : Fault → SessionAction Unit) :
    SessionAction Result :=
  tryCatch action fun fault => do
    handle fault
    throw fault

/-- Random bytes drawn by one question to the source. -/
def draw {Result : Type}
    (length : Nat)
    (ask : RandomSource → List Value → Except Fault Result) :
    SessionAction Result := do
  let surroundings := (← get).surroundings
  changeSurroundings fun surroundings =>
    { surroundings with drawn := surroundings.drawn ++ [.int length] }
  lift (ask surroundings.random surroundings.drawn)

/-- The surroundings after an exchange in a state of the session. -/
def afterExchange
    (surroundings : Surroundings)
    (state : SessionState)
    (exchange : Exchange) :
    Surroundings :=
  let sent := exchange.sent.toList.map fun request => { state := state, request := request }
  { surroundings with
    replies := exchange.replies
    requests := surroundings.requests ++ sent
    console := exchange.console }

/-- The request of an endpoint sent, and its outcome read. -/
def send {Result : Type} (endpoint : Endpoint Result) : SessionAction Result := do
  let situation ← get
  let exchange := situation.session.transport.exchange endpoint.request
    situation.surroundings.replies situation.surroundings.console
  changeSurroundings fun surroundings =>
    afterExchange surroundings situation.session.state exchange
  lift (endpoint.read exchange.outcome)

/-- The tokens of the session, which it has while it is authenticated. -/
def tokens : SessionAction Tokens := do
  match (← session).tokens with
  | some tokens =>
      return tokens
  | none =>
      throw .noSuchOperation

/-- The profile of the session, which it has while it is authenticated. -/
def profile : SessionAction Profile := do
  match (← session).profile with
  | some profile =>
      return profile
  | none =>
      throw .noSuchOperation

/-- The transport closed, if the session has made it. -/
def close : SessionAction Unit := do
  if (← session).ownsTransport then
    changeSurroundings fun surroundings =>
      { surroundings with closes := surroundings.closes + 1 }
  else
    return

/-- An action after which the transport is closed, however the action ends. -/
def closing {Result : Type} (action : SessionAction Result) : SessionAction Result := do
  let result ← onFault action fun _ => close
  close
  return result

end SessionAction

end SessionHandshake
