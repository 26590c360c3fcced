import SessionHandshake.Proofs.Configuration
import SessionHandshake.Proofs.Entries
import SessionHandshake.Proofs.Session.Coupling

namespace SessionHandshake

/-!
# Openings

A session is created, or it is restored from what its configuration has saved.
Restoring says so in a line, and fails if anything saved is missing or unusable.
Two sessions that open alike start a run in situations that are alike.
-/

/-- The two ways in which a session begins. -/
inductive SessionOpening where
  | created
  | restored

namespace SessionOpening

/-- The situation in which a session begins, if it does. -/
def begin (opening : SessionOpening)
    (config : Config)
    (transport : Option Transport)
    (surroundings : Surroundings) :
    Except Fault Situation :=
  match opening with
  | .created =>
      .ok { session := Session.create config transport, surroundings := surroundings }
  | .restored => do
      let (session, console) ← Session.restore config transport surroundings.console
      return { session := session, surroundings := { surroundings with console := console } }

/-- A session that goes on from an identity. -/
def resumed (identity : Tokens × Profile) (session : Session) : Session :=
  { session with
    state := .authenticated
    tokens := some identity.1
    profile := some identity.2 }

/-- A session is restored by reading its identity and reporting it. -/
theorem begin_restored
    (config : Config)
    (transport : Option Transport)
    (surroundings : Surroundings) :
    restored.begin config transport surroundings = (do
      let identity ← Session.savedIdentity config
      let line ← Session.restoredLine identity.1 identity.2
      let created : Situation :=
        { session := Session.create config transport, surroundings := surroundings }
      return (created.withSession (resumed identity)).reporting .info line) := by
  rw [begin, Session.restore]
  cases Session.savedIdentity config with
  | error fault =>
      rfl
  | ok identity =>
      simp only [ok_bind]
      cases Session.restoredLine identity.1 identity.2 <;> rfl

/-- What an opening leads to is a session that has just been made. -/
theorem begins_of_begin
    {opening : SessionOpening}
    {config : Config}
    {transport : Option Transport}
    {surroundings : Surroundings}
    {situation : Situation}
    (isBegun : opening.begin config transport surroundings = .ok situation) :
    situation.Begins := by
  cases opening with
  | created =>
      cases isBegun
      exact .created config transport surroundings
  | restored =>
      obtain ⟨⟨session, console⟩, isRestored, isBegun⟩ := bind_eq_ok_iff.mp isBegun
      cases isBegun
      exact .restored _ isRestored

end SessionOpening

/-! ## What is saved -/

/-- The values of a configuration, with tokens and a profile set. -/
def Config.saving (config : Config) (tokens : Tokens) (profile : Profile) : Config where
  entries :=
    Value.insert (Value.ofString "username") profile.username
      (Value.insert (Value.ofString "uuid") profile.uuid
        (Value.insert (Value.ofString "client-token") tokens.clientToken
          (Value.insert (Value.ofString "access-token") tokens.accessToken config.entries)))

namespace Config

theorem lookup_of_find?
    {config : Config}
    {key : String}
    {value : Value}
    (found : Value.find? (Value.ofString key) config.entries = some value) :
    config.lookup key = .ok value := by
  have isHashable : (Value.ofString key).isHashable = true := by
    simp only [Value.ofString, Value.isHashable]
  exact get_of_find? isHashable found

section Saving

variable (config : Config) (tokens : Tokens) (profile : Profile)

theorem saving_find?_of_notMem
    (key : Text)
    (isOther : key ∉ ["access-token", "client-token", "uuid", "username"].map Text.ofString) :
    Value.find? (.text key) (config.saving tokens profile).entries =
      Value.find? (.text key) config.entries := by
  simp only [List.map_cons, List.map_nil, List.mem_cons, List.not_mem_nil, or_false,
    not_or] at isOther
  obtain ⟨notAccess, notClient, notUuid, notName⟩ := isOther
  simp only [saving, Value.ofString, Value.find?_insert_of_ne notName,
    Value.find?_insert_of_ne notUuid, Value.find?_insert_of_ne notClient,
    Value.find?_insert_of_ne notAccess]

/-- Saving changes neither of the servers, nor how long a request may take. -/
theorem saving_servers :
    (config.saving tokens profile).authServer = config.authServer ∧
      (config.saving tokens profile).sessionServer = config.sessionServer ∧
      (config.saving tokens profile).timeout = config.timeout := by
  refine ⟨?_, ?_, ?_⟩
  · exact congrArg (Option.getD · Endpoint.defaultAuthServer)
      (saving_find?_of_notMem config tokens profile "auth-server" (by decide))
  · exact congrArg (Option.getD · Endpoint.defaultSessionServer)
      (saving_find?_of_notMem config tokens profile "session-server" (by decide))
  · exact congrArg (Option.getD · (.int 10))
      (saving_find?_of_notMem config tokens profile "timeout" (by decide))

/-- What has been saved is found again. -/
theorem saving_lookup :
    (config.saving tokens profile).lookup "access-token" = .ok tokens.accessToken ∧
      (config.saving tokens profile).lookup "client-token" = .ok tokens.clientToken ∧
      (config.saving tokens profile).lookup "uuid" = .ok profile.uuid ∧
      (config.saving tokens profile).lookup "username" = .ok profile.username := by
  have distinct :
      (["access-token", "client-token", "uuid", "username"].map Text.ofString).Nodup := by
    decide
  simp only [List.map_cons, List.map_nil, List.nodup_cons, List.mem_cons, List.not_mem_nil,
    or_false, not_or] at distinct
  obtain ⟨⟨accessClient, accessUuid, accessName⟩, ⟨clientUuid, clientName⟩, uuidName, _⟩ := distinct
  refine ⟨lookup_of_find? ?_, lookup_of_find? ?_, lookup_of_find? ?_, lookup_of_find? ?_⟩
  · simp only [saving, Value.ofString, Value.find?_insert_of_ne accessName,
      Value.find?_insert_of_ne accessUuid, Value.find?_insert_of_ne accessClient,
      Value.find?_insert_self]
  · simp only [saving, Value.ofString, Value.find?_insert_of_ne clientName,
      Value.find?_insert_of_ne clientUuid, Value.find?_insert_self]
  · simp only [saving, Value.ofString, Value.find?_insert_of_ne uuidName,
      Value.find?_insert_self]
  · simp only [saving, Value.ofString, Value.find?_insert_self]

/-- A saved identity is read back, but for what is not saved of it. -/
theorem savedIdentity_saving
    {digits : Text}
    (isNormalized : Uuid.normalize profile.uuid = .ok digits) :
    Session.savedIdentity (config.saving tokens profile) =
      .ok ({ tokens with requestUser := .bool false },
        { profile with uuid := .text digits, properties := .list [] }) := by
  obtain ⟨isAccess, isClient, isUuid, isName⟩ := saving_lookup config tokens profile
  rw [Session.savedIdentity, isAccess, isClient, isUuid, isName]
  simp only [ok_bind, isNormalized]
  rfl

end Saving

/-- A configuration that has saved an access token of the player `Notch`, and nothing else. -/
def remembering (accessToken : Text) : Config :=
  empty.saving
    { accessToken := .text accessToken
      clientToken := Value.ofString "client"
      requestUser := .bool false }
    { uuid := Value.ofString "069a79f444e94726a5befca90e38aaf5"
      username := Value.ofString "Notch"
      properties := .list [] }

/-- It asks the servers that are asked unless others are configured. -/
theorem remembering_servers (accessToken : Text) :
    (remembering accessToken).authServer = Endpoint.defaultAuthServer ∧
      (remembering accessToken).sessionServer = Endpoint.defaultSessionServer := by
  obtain ⟨isAuth, isSession, _⟩ := saving_servers empty _ _
  exact ⟨isAuth, isSession⟩

end Config

/-! ## Opening side by side -/

namespace Likeness.Laws

variable
  {like : Likeness}
  (laws : like.Laws)
  {config otherConfig : Config}
  {transport otherTransport : Option Transport}
  {surroundings otherSurroundings : Surroundings}
include laws

/-- Sessions that open alike open in situations that are alike, or fail alike. -/
theorem begin_alike
    (opening : SessionOpening)
    (configs : like.config config otherConfig)
    (saved :
      opening = .restored →
      OutcomesAlike like.fault
        (fun one other => like.tokens one.1 other.1 ∧ like.profile one.2 other.2)
        (Session.savedIdentity config) (Session.savedIdentity otherConfig))
    (outside :
      like.outside
        { session := Session.create config transport, surroundings := surroundings }
        { session := Session.create otherConfig otherTransport
          surroundings := otherSurroundings }) :
    OutcomesAlike like.fault like.Alike (opening.begin config transport surroundings)
      (opening.begin otherConfig otherTransport otherSurroundings) := by
  cases opening with
  | created =>
      exact .ok {
        config := configs
        state := rfl
        tokens := .none
        profile := .none
        sharedSecret := .none
        serverHash := .none
        outside := outside }
  | restored =>
      rw [SessionOpening.begin_restored, SessionOpening.begin_restored]
      refine (saved rfl).bind ?_
      rintro ⟨tokens, profile⟩ ⟨otherTokens, otherProfile⟩ ⟨tokensAlike, profilesAlike⟩
      have sameLine :
          Session.restoredLine tokens profile = Session.restoredLine otherTokens otherProfile := by
        rw [Session.restoredLine, Session.restoredLine, (laws.player profilesAlike).2,
          laws.masked tokensAlike]
      simp only at sameLine ⊢
      rw [← sameLine]
      refine .bind_self laws.sameFault fun line => ?_
      have keepsTransport (identity : Tokens × Profile) (session : Session) :
          (SessionOpening.resumed identity session).transport = session.transport :=
        rfl
      have resumedOutside :=
        laws.withSession (keepsTransport (tokens, profile))
          (keepsTransport (otherTokens, otherProfile)) outside
      exact .ok {
        config := configs
        state := rfl
        tokens := .some tokensAlike
        profile := .some profilesAlike
        sharedSecret := .none
        serverHash := .none
        outside := laws.reporting .info line resumedOutside }

end Likeness.Laws

end SessionHandshake
