import SessionHandshake.Profile.Uuid
import SessionHandshake.Value.Fingerprint

namespace SessionHandshake

/-!
# Profiles and tokens

A profile is who a player is, and tokens are what the player has been issued.
`Profile.ofAnswer` reads a profile from an answer of a server and says which of
the conditions on it is not met.
-/

/-- Who a player is.  Two profiles are the same if identifier and name are. -/
structure Profile where
  uuid : Value
  username : Value
  properties : Value

namespace Profile

/-- The identifier in its dashed form. -/
def dashedUuid (profile : Profile) : Except Fault Text :=
  Uuid.dashed profile.uuid

/-- Equality of profiles: properties do not count. -/
def same (left right : Profile) : Bool :=
  left.uuid.same right.uuid && left.username.same right.username

/-- Both parts that make up the identity of a profile can be hashed. -/
def isHashable (profile : Profile) : Bool :=
  profile.uuid.isHashable && profile.username.isHashable

/-- Two profiles are filed under the same fingerprint if both parts of their identity are. -/
def hasFingerprintOf (left right : Profile) : Bool :=
  left.uuid.hasFingerprintOf right.uuid && left.username.hasFingerprintOf right.username

/-- A required member of an answer. -/
def require (entries : List (Value × Value)) (name : String) : Except Fault Value :=
  match Value.member? entries name with
  | some value =>
      .ok value
  | none =>
      .error (.malformedResponse (.profileMissing name)
        (some (.missingKey (Value.ofString name))))

/-- A name must be a text that is not empty. -/
def checkName (name : Value) : Except Fault Unit :=
  match name with
  | .text (_ :: _) =>
      .ok ()
  | other =>
      .error (.malformedResponse (.badName other) none)

/-- Properties must be a list of objects, and may be left out. -/
def checkProperties (properties : Option Value) : Except Fault (List Value) :=
  match properties with
  | none =>
      .ok []
  | some (.list items) =>
      if items.all Value.isMapping then
        .ok items
      else
        .error (.malformedResponse .badProperties none)
  | some _ =>
      .error (.malformedResponse .badProperties none)

/-- The profile of an answer. -/
def ofAnswer (answer : Value) : Except Fault Profile :=
  match answer with
  | .mapping entries => do
      let id ← require entries "id"
      let name ← require entries "name"
      checkName name
      let properties ← checkProperties (Value.member? entries "properties")
      let uuid ← Uuid.normalize id
      return { uuid := .text uuid, username := name, properties := .list properties }
  | _ =>
      .error (.malformedResponse .profileNotObject none)

end Profile

/-- What the authentication server has issued to a player. -/
structure Tokens where
  accessToken : Value
  clientToken : Value
  requestUser : Value

/--
Tokens as they are shown: the access token gives full access to the account, so
it is left out.
-/
def Tokens.shown (tokens : Tokens) : Except Fault Text := do
  tokens.clientToken.checkShown
  tokens.requestUser.checkShown
  return ("SessionTokens(access_token=<hidden>, client_token=" : Text) ++
    tokens.clientToken.quoted ++ (", request_user=" : Text) ++ tokens.requestUser.shown ++
    (")" : Text)

end SessionHandshake
