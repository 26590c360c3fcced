import SessionHandshake.Session.Client
import SessionHandshake.Text.Lowercase

namespace SessionHandshake

/-!
# The server's side of a session

A game server asks the session server whether a connecting client has joined it.
The client is let in only if the session server names the player that the client
claims to be; anything else, a failed request included, rejects the client.
-/

/-- A name in lower case, if it is one that has cases; bytes never equal a text. -/
def loweredName (name : Value) : Except Fault (Option Text) :=
  match name with
  | .text content =>
      .ok (some (Text.lowercase content))
  | .bytes _ =>
      .ok none
  | .byteBuffer _ =>
      .ok none
  | _ =>
      .error .noSuchOperation

/-- Two names are the same up to the case of their letters. -/
def sameName (answered claimed : Value) : Except Fault Bool := do
  match ← loweredName answered, ← loweredName claimed with
  | some answered, some claimed =>
      return answered = claimed
  | _, _ =>
      return false

/-- The fault says that the session server did not give a usable answer. -/
def Fault.isUnanswered : Fault → Bool
  | .transport .. =>
      true
  | .malformedResponse .. =>
      true
  | _ =>
      false

namespace SessionAction

/-- The session server asked about a join; the hash is the one asked about. -/
def askAboutJoin (username serverId secret publicKey address : Value) :
    SessionAction (Text × Option Profile) := do
  let hash ← lift (Digest.ofServerValues Hasher.sha1 serverId secret publicKey)
  lift username.checkShown
  report .debug (("Computed server hash! [username=" : Text) ++ username.shown ++
    (", hash=" : Text) ++ hash ++ ("]" : Text))
  let server ← sessionServer
  let answered ← send (Endpoint.hasJoined server username (.text hash) address)
  return (hash, answered)

/-- The client rejected because the question about its join has failed. -/
def rejectUnanswered {Result : Type} (username : Value) (fault : Fault) :
    SessionAction Result := do
  enter .rejected
  if fault.isUnanswered then
    reportUser .error "Could not verify session!" username
    throw (.refused .verification (.unverified username) RefusalDetails.none (some fault))
  else
    reportUser .error "Session verification failed!" username
    throw fault

/-- The client rejected because the session server does not name it. -/
def rejectUnconfirmed {Result : Type} (username : Value) (answered : Option Profile) :
    SessionAction Result := do
  enter .rejected
  reportUser .error "Session server did not confirm the join!" username
  throw (.refused .verification
    (.unconfirmed username (answered.map Profile.username)) RefusalDetails.none none)

/-- The client let in as the player whom the session server names. -/
def confirm (hash : Text) (profile : Profile) : SessionAction Profile := do
  change fun session => { session with
    state := .verified
    profile := some profile
    serverHash := some hash }
  report .success (forPlayer "Verified session!" profile)
  return profile

/-- A connecting client checked; the result is the profile that the server knows. -/
def verify (username serverId secret publicKey address : Value) :
    SessionAction Profile := do
  expect "verify" [.unauthenticated]
  enter .verifying
  let (hash, answered) ← tryCatch
    (askAboutJoin username serverId secret publicKey address)
    (rejectUnanswered username)
  match answered with
  | none =>
      rejectUnconfirmed username none
  | some profile =>
      if ← lift (sameName profile.username username) then
        confirm hash profile
      else
        rejectUnconfirmed username (some profile)

end SessionAction

end SessionHandshake
