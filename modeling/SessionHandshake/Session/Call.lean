import SessionHandshake.Session.Server

namespace SessionHandshake

/-!
# Runs of a session

What can be asked of a session, as data, so that whole histories can be spoken
of: `Situation.run` performs calls one after the other, whatever they end with.
-/

/-- A call of an operation of a session. -/
inductive SessionCall where
  | authenticate (username password clientToken requestUser : Value)
  | createSharedSecret
  | encryptionResponse (publicKey verifyToken : Value)
  | join (serverId secret publicKey : Value)
  | refresh (requestUser : Value)
  | validate
  | invalidate
  | signOut (username password : Value)
  | verify (username serverId secret publicKey address : Value)
  | close

/-- What a call ends with, if not with a fault. -/
inductive SessionResult where
  | nothing
  | identity (tokens : Tokens) (profile : Profile)
  | secret (secret : Value)
  | response (response : EncryptionResponse)
  | hash (hash : Text)
  | tokens (tokens : Tokens)
  | flag (flag : Bool)
  | profile (profile : Profile)

/-- The action of a call. -/
def SessionCall.action : SessionCall → SessionAction SessionResult
  | .authenticate username password clientToken requestUser => do
      let (tokens, profile) ←
        SessionAction.authenticate username password clientToken requestUser
      return .identity tokens profile
  | .createSharedSecret => do
      return .secret (← SessionAction.createSharedSecret)
  | .encryptionResponse publicKey verifyToken => do
      return .response (← SessionAction.encryptionResponse publicKey verifyToken)
  | .join serverId secret publicKey => do
      return .hash (← SessionAction.join serverId secret publicKey)
  | .refresh requestUser => do
      return .tokens (← SessionAction.refresh requestUser)
  | .validate => do
      return .flag (← SessionAction.validate)
  | .invalidate => do
      SessionAction.invalidate
      return .nothing
  | .signOut username password => do
      SessionAction.signOut username password
      return .nothing
  | .verify username serverId secret publicKey address => do
      return .profile (← SessionAction.verify username serverId secret publicKey address)
  | .close => do
      SessionAction.close
      return .nothing

namespace Situation

/-- What an action ends with, and the situation after it. -/
def perform {Result : Type}
    (situation : Situation)
    (action : SessionAction Result) :
    Except Fault Result × Situation :=
  action.run.run situation

/-- What a call ends with, and the situation after it. -/
def call (situation : Situation) (call : SessionCall) :
    Except Fault SessionResult × Situation :=
  situation.perform call.action

/-- What calls end with, one after the other, and the situation after the last. -/
def run (situation : Situation) :
    List SessionCall → List (Except Fault SessionResult) × Situation
  | [] =>
      ([], situation)
  | first :: rest =>
      let (outcome, situation) := situation.call first
      let (outcomes, situation) := run situation rest
      (outcome :: outcomes, situation)

end Situation

end SessionHandshake
