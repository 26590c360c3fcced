import SessionHandshake.Endpoint.Answer

namespace SessionHandshake

/-!
# The session server

A client tells the session server which game server it joins, and the game
server asks whether the client did.
-/

namespace Endpoint

/-- The session server unless another one is configured. -/
def defaultSessionServer : Value :=
  Value.ofString "https://sessionserver.mojang.com"

/-- How the reason of a refused join may begin, and which refusal that is. -/
def joinRefusals : List (Text × Refusal) := [
  ("ForbiddenOperationException", .sessionId),
  ("Invalid serverId", .serverId),
  ("Invalid profileId", .profileId)]

/-- The refusal that a reason stands for, if it is a known one. -/
def joinRefusal? (reason : Text) : Option Refusal :=
  (joinRefusals.find? fun refusal => reason.startsWith refusal.1).map Prod.snd

/--
The reason that a field of a refusal's body gives, if it is a known one.

A field that counts as false gives no reason; any other field must be a text.
-/
def statedRefusal? (field : Value) : Except Fault (Option (Refusal × Text)) :=
  match field with
  | .text reason =>
      .ok ((joinRefusal? reason).map (·, reason))
  | other =>
      if other.isTruthy then
        .error .noSuchOperation
      else
        .ok none

/-- The refusal of a body: by its short name, else by its explanation. -/
def bodyRefusal? (details : RefusalDetails) : Except Fault (Option (Refusal × Text)) := do
  match ← statedRefusal? details.error with
  | some refusal =>
      return some refusal
  | none =>
      statedRefusal? details.errorMessage

/-- The most specific fault for a join that was refused with a status and a body. -/
def joinFault (status body : Value) (cause : Option Fault) : Except Fault Fault := do
  let details ← RefusalDetails.ofBody body
  match ← bodyRefusal? details with
  | some (refusal, reason) =>
      return .refused refusal (.joinForReason reason) details cause
  | none =>
      return .refused .join (.joinWithStatus status) details cause

/-- The session server told that a player joins a game server. -/
def join (server accessToken profileId serverHash : Value) : Endpoint Unit where
  request :=
    postObject server "/session/minecraft/join" [
      ("accessToken", accessToken),
      ("selectedProfile", profileId),
      ("serverId", serverHash)]
  read
    | .ok _ =>
        .ok ()
    | .error (.transport message status body cause) =>
        match joinFault status body (some (.transport message status body cause)) with
        | .ok fault =>
            .error fault
        | .error fault =>
            .error fault
    | .error fault =>
        .error fault

/-- The parameters of a question about a join; the address only if there is one. -/
def joinParameters (username serverHash address : Value) : List (String × Value) :=
  [("username", username), ("serverId", serverHash)] ++
    (if address.isNull then [] else [("ip", address)])

/--
The session server asked whether a player has joined a game server.

A blank body says that the session server knows nothing of it.
-/
def hasJoined (server username serverHash address : Value) : Endpoint (Option Profile) where
  request :=
    .get (Endpoint.address server "/session/minecraft/hasJoined")
      (object (joinParameters username serverHash address))
  read
    | .ok body => do
        if ← body.isBlankBody then
          return none
        else
          let entries ← Answer.members Answer.malformed body
          let profile ← Profile.ofAnswer (.mapping entries)
          return some profile
    | .error fault =>
        .error fault

end Endpoint

end SessionHandshake
