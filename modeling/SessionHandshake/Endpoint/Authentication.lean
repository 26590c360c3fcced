import SessionHandshake.Endpoint.Answer

namespace SessionHandshake

/-!
# The authentication server

Logging in, renewing, checking and giving back tokens.
-/

namespace Endpoint

/-- The authentication server unless another one is configured. -/
def defaultAuthServer : Value :=
  Value.ofString "https://authserver.mojang.com"

/-- What kind of program asks for tokens. -/
def agent : Value :=
  object [("name", Value.ofString "Minecraft"), ("version", .int 1)]

/-- The profile of an answer to a log-in, whose absence is a failed log-in. -/
def loginProfile (entries : List (Value × Value)) : Except Fault Profile :=
  match Profile.ofAnswer ((Value.member? entries "selectedProfile").getD .null) with
  | .ok profile =>
      .ok profile
  | .error (.malformedResponse problem cause) =>
      .error (.refused .authentication (.unusableProfile problem) RefusalDetails.none
        (some (.malformedResponse problem cause)))
  | .error fault =>
      .error fault

/-- Credentials exchanged for tokens and a profile. -/
def authenticate
    (server username password clientToken requestUser : Value) :
    Endpoint (Tokens × Profile) where
  request :=
    postObject server "/authenticate" [
      ("agent", agent),
      ("username", username),
      ("password", password),
      ("clientToken", clientToken),
      ("requestUser", requestUser)]
  read
    | .ok body => do
        let entries ← Answer.members Answer.notAuthenticated body
        let tokens ← Answer.tokens Answer.notAuthenticated entries requestUser
        let profile ← loginProfile entries
        return (tokens, profile)
    | .error (.transport message status body cause) =>
        .error (Fault.refusedOnAccountOf .authentication (.credentials status) body
          (some (.transport message status body cause)))
    | .error fault =>
        .error fault

/-- The profile of an answer to a renewal, which need not have one. -/
def renewedProfile (entries : List (Value × Value)) : Except Fault (Option Profile) :=
  match (Value.member? entries "selectedProfile").getD .null with
  | .null =>
      .ok none
  | answer =>
      (Profile.ofAnswer answer).map some

/-- A token exchanged for a new one; the server gives up the old one. -/
def refresh
    (server accessToken clientToken requestUser : Value) :
    Endpoint (Tokens × Option Profile) where
  request :=
    postObject server "/refresh" [
      ("accessToken", accessToken),
      ("clientToken", clientToken),
      ("requestUser", requestUser)]
  read
    | .ok body => do
        let entries ← Answer.members Answer.malformed body
        let tokens ← Answer.tokens Answer.malformed entries requestUser
        let profile ← renewedProfile entries
        return (tokens, profile)
    | .error (.transport message status body cause) =>
        .error (Fault.refusedOnAccountOf .authentication (.refresh status) body
          (some (.transport message status body cause)))
    | .error fault =>
        .error fault

/-- The status by which the server says that a token is not valid. -/
def forbidden : Value := .int 403

/-- The members of a request that names tokens, the client token if there is one. -/
def tokenMembers (accessToken clientToken : Value) : List (String × Value) :=
  if clientToken.isNull then
    [("accessToken", accessToken)]
  else
    [("accessToken", accessToken), ("clientToken", clientToken)]

/-- Whether a token is still usable for joining servers. -/
def validate (server accessToken clientToken : Value) : Endpoint Bool where
  request := postObject server "/validate" (tokenMembers accessToken clientToken)
  read
    | .ok _ =>
        .ok true
    | .error (.transport message status body cause) =>
        if status.same forbidden then
          .ok false
        else
          .error (.transport message status body cause)
    | .error fault =>
        .error fault

/-- All tokens of an account given back, on account of its credentials. -/
def signOut (server username password : Value) : Endpoint Unit where
  request :=
    postObject server "/signout" [("username", username), ("password", password)]
  read
    | .ok _ =>
        .ok ()
    | .error (.transport message status body cause) =>
        .error (Fault.refusedOnAccountOf .authentication (.signOut status) body
          (some (.transport message status body cause)))
    | .error fault =>
        .error fault

/-- One token given back. -/
def invalidate (server accessToken clientToken : Value) : Endpoint Unit where
  request :=
    postObject server "/invalidate" [
      ("accessToken", accessToken), ("clientToken", clientToken)]
  read
    | .ok _ =>
        .ok ()
    | .error fault =>
        .error fault

end Endpoint

end SessionHandshake
