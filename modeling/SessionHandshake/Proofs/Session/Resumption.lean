import SessionHandshake.Proofs.Identifier
import SessionHandshake.Proofs.Session.Holdings
import SessionHandshake.Proofs.Session.Identity
import SessionHandshake.Proofs.Session.Opening

namespace SessionHandshake

/-!
# Sessions that are resumed

A session that is logged in can be saved: its configuration, its tokens and its
player are all that matters.  A session restored from these keeps pace with the
one that was saved, whatever is asked of the two afterwards.
-/

/-! ## Keeping pace -/

/-- The same has been printed on two consoles since some earlier time. -/
structure Console.KeepsPace (start otherStart one other : Console) : Prop where
  isDebugging : one.isDebugging = other.isDebugging
  printed :
    ∃ lines, one.printed = start.printed ++ lines ∧ other.printed = otherStart.printed ++ lines

namespace Console.KeepsPace

variable {start otherStart one other : Console}

theorem report
    (keepsPace : KeepsPace start otherStart one other)
    (level : LogLevel)
    (message : Text) :
    KeepsPace start otherStart (one.report level message) (other.report level message) := by
  obtain ⟨lines, isPrinted, isOtherPrinted⟩ := keepsPace.printed
  have sameShows : one.shows level = other.shows level := by
    rw [shows, shows, keepsPace.isDebugging]
  unfold Console.report
  rw [sameShows]
  split
  · exact ⟨keepsPace.isDebugging, lines ++ line level message,
      by simp only [isPrinted, List.append_assoc],
      by simp only [isOtherPrinted, List.append_assoc]⟩
  · exact keepsPace

theorem replyReported (keepsPace : KeepsPace start otherStart one other) (reply : Reply) :
    KeepsPace start otherStart (Transport.replyReported one reply)
      (Transport.replyReported other reply) := by
  unfold Transport.replyReported
  split
  · split
    · exact keepsPace.report .debug _
    · exact keepsPace
  · exact keepsPace

theorem exchange
    (keepsPace : KeepsPace start otherStart one other)
    (transport : Transport)
    (request : Request)
    (replies : List Reply) :
    KeepsPace start otherStart (transport.exchange request replies one).console
      (transport.exchange request replies other).console := by
  cases transport with
  | direct =>
      exact keepsPace
  | web timeout userAgent =>
      unfold Transport.exchange Transport.webExchange
      simp only
      split
      · exact keepsPace
      · split
        · exact keepsPace.report .debug _
        · exact (keepsPace.report .debug _).replyReported _

end Console.KeepsPace

/--
Two sessions have the same ahead of them, and have sent and printed the same since
some earlier time.
-/
structure Situation.KeepsPace (start otherStart one other : Situation) : Prop where
  transport : one.session.transport = other.session.transport
  random :
    ∀ later length,
      one.surroundings.random (one.surroundings.drawn ++ later) length =
        other.surroundings.random (other.surroundings.drawn ++ later) length
  padding : one.surroundings.padding = other.surroundings.padding
  replies : one.surroundings.replies = other.surroundings.replies
  requests :
    ∃ sent,
      one.surroundings.requests = start.surroundings.requests ++ sent ∧
        other.surroundings.requests = otherStart.surroundings.requests ++ sent
  console :
    Console.KeepsPace start.surroundings.console otherStart.surroundings.console
      one.surroundings.console other.surroundings.console

/-- Tokens that are the same to a server. -/
def Tokens.Agree (one other : Tokens) : Prop :=
  one.accessToken = other.accessToken ∧ one.clientToken = other.clientToken

/-- Profiles of the same player, whatever their properties. -/
def Profile.Agree (one other : Profile) : Prop :=
  one.uuid = other.uuid ∧ one.username = other.username

namespace Likeness

/-- Two sessions of which one may have been restored from the other. -/
def resumption (start otherStart : Situation) : Likeness where
  config one other :=
    one.authServer = other.authServer ∧ one.sessionServer = other.sessionServer
  tokens := Tokens.Agree
  issued := Eq
  profile := Profile.Agree
  named := Eq
  clientToken := Eq
  secret := Eq
  hash := Eq
  response := Eq
  fault := Eq
  unanswered := Eq
  outside := Situation.KeepsPace start otherStart

variable {start otherStart : Situation}

/-- The steps of a session look at nothing that is not saved. -/
theorem resumption_laws : (resumption start otherStart).Laws where
  sameFault := fun _ => rfl
  unanswered := id
  rejected := by
    rintro one _ rfl
    exact ⟨rfl, fun _ => rfl⟩
  servers := id
  issued := by
    rintro one _ rfl
    exact ⟨rfl, rfl⟩
  named := by
    rintro one _ rfl
    exact ⟨rfl, rfl⟩
  masked := fun tokens => congrArg Session.masked tokens.1
  player := id
  drawnSecret := by
    intro one other outside
    have same := outside.random [] (.int sharedSecretLength)
    simp only [List.append_nil] at same
    rw [RandomSource.sharedSecret, RandomSource.sharedSecret, RandomSource.fixedBytes,
      RandomSource.fixedBytes, RandomSource.bytes, RandomSource.bytes, same]
    exact .self (fun _ => rfl) fun _ _ => rfl
  drawnToken := by
    intro one other outside
    have same := outside.random [] (.int clientTokenLength)
    simp only [List.append_nil] at same
    rw [RandomSource.clientToken, RandomSource.clientToken, RandomSource.fixedBytes,
      RandomSource.fixedBytes, RandomSource.bytes, RandomSource.bytes, same]
    exact .self (fun _ => rfl) fun _ _ => rfl
  drawing := fun length outside => { outside with
    random := fun later asked => by
      have same := outside.random (.int length :: later) asked
      simp only [Situation.drawing, List.append_assoc, List.cons_append, List.nil_append]
      exact same }
  padding := Situation.KeepsPace.padding
  padded := fun padding outside => { outside with padding := rfl }
  encrypted := by
    rintro one _ padding publicKey verifyToken rfl
    exact .refl (fun _ => rfl) _
  hashed := by
    rintro one _ serverId publicKey rfl
    exact .refl (fun _ => rfl) _
  withSession := fun keeps otherKeeps outside => { outside with
    transport := ((keeps _).trans outside.transport).trans (otherKeeps _).symm }
  reporting := fun level message outside => { outside with
    console := outside.console.report level message }
  hashReported := by
    rintro one other first _ before after outside rfl
    exact { outside with console := outside.console.report .debug _ }
  closing := fun _ _ outside => { outside with }

/-- Two sessions that keep pace are answered alike where they ask the same. -/
theorem resumption_asksAlike
    {Result : Type}
    {results : Result → Result → Prop}
    {server : Config → Value}
    (sameServer :
      ∀ {one other}, (resumption start otherStart).config one other → server one = server other)
    (endpoint : Value → Endpoint Result)
    (reflexive : ∀ result, results result result) :
    (resumption start otherStart).AsksAlike Eq results server endpoint endpoint := by
  intro one other situations
  have keepsPace : Situation.KeepsPace start otherStart one other := situations.outside
  simp only
  rw [← sameServer situations.config]
  generalize (endpoint (server one.session.config)) = asked
  have sameOutcome :
      (one.exchange asked.request).outcome = (other.exchange asked.request).outcome := by
    rw [Situation.exchange, Situation.exchange, Transport.exchange_outcome,
      Transport.exchange_outcome, keepsPace.transport, keepsPace.replies]
  have sameReplies :
      (one.exchange asked.request).replies = (other.exchange asked.request).replies := by
    rw [Situation.exchange, Situation.exchange, Transport.exchange_replies,
      Transport.exchange_replies, keepsPace.transport, keepsPace.replies]
  have sameSent : (one.exchange asked.request).sent = (other.exchange asked.request).sent := by
    rw [Situation.exchange, Situation.exchange, Transport.exchange_sent, Transport.exchange_sent,
      keepsPace.transport]
  constructor
  · rw [← sameOutcome]
    exact .self (fun _ => rfl) fun result _ => reflexive result
  · obtain ⟨sent, isSent, isOtherSent⟩ := keepsPace.requests
    exact {
      transport := keepsPace.transport
      random := keepsPace.random
      padding := keepsPace.padding
      replies := sameReplies
      requests := by
        refine ⟨sent ++ (other.exchange asked.request).sent.toList.map fun request =>
          { state := other.session.state, request := request }, ?_, ?_⟩
        · simp only [Situation.asking, SessionAction.afterExchange, isSent, sameSent,
            situations.state, List.append_assoc]
        · simp only [Situation.asking, SessionAction.afterExchange, isOtherSent,
            List.append_assoc]
      console := by
        have exchanged :=
          keepsPace.console.exchange one.session.transport asked.request one.surroundings.replies
        simp only [Situation.asking, SessionAction.afterExchange, Situation.exchange]
        rw [← keepsPace.transport, ← keepsPace.replies]
        exact exchanged }

/-- Whatever is called on both sessions is answered alike. -/
theorem resumption_callsAlike (call : SessionCall) :
    (resumption start otherStart).CallsAlike call call := by
  cases call with
  | authenticate username password clientToken requestUser =>
      refine .authenticate (fun _ => rfl) ?_
      rintro token _ rfl
      exact resumption_asksAlike And.left
        (Endpoint.authenticate · username password token requestUser) fun _ => ⟨rfl, rfl⟩
  | createSharedSecret =>
      exact .createSharedSecret
  | encryptionResponse publicKey verifyToken =>
      exact .encryptionResponse publicKey verifyToken
  | join serverId secret publicKey =>
      refine .join rfl ?_
      rintro tokens otherTokens profile otherProfile hash _ ⟨sameAccess, _⟩ ⟨sameUuid, _⟩ rfl
      rw [← sameAccess, ← sameUuid]
      exact resumption_asksAlike And.right
        (Endpoint.join · tokens.accessToken profile.uuid (.text hash)) fun _ => trivial
  | refresh requestUser =>
      refine .refresh ?_
      rintro tokens otherTokens ⟨sameAccess, sameClient⟩
      rw [← sameAccess, ← sameClient]
      refine resumption_asksAlike And.left
        (Endpoint.refresh · tokens.accessToken tokens.clientToken requestUser) ?_
      rintro ⟨issued, renewed⟩
      refine ⟨rfl, ?_⟩
      cases renewed with
      | none =>
          exact .none
      | some profile =>
          exact .some rfl
  | validate =>
      refine .validate ?_
      rintro tokens otherTokens ⟨sameAccess, sameClient⟩
      rw [← sameAccess, ← sameClient]
      exact resumption_asksAlike And.left
        (Endpoint.validate · tokens.accessToken tokens.clientToken) fun _ => rfl
  | invalidate =>
      refine .invalidate ?_
      rintro tokens otherTokens ⟨sameAccess, sameClient⟩
      rw [← sameAccess, ← sameClient]
      exact resumption_asksAlike And.left
        (Endpoint.invalidate · tokens.accessToken tokens.clientToken) fun _ => trivial
  | signOut username password =>
      exact .signOut
        (resumption_asksAlike And.left (Endpoint.signOut · username password) fun _ => trivial)
  | verify username serverId secret publicKey address =>
      refine .verify rfl ?_
      rintro hash _ rfl
      refine resumption_asksAlike And.right
        (Endpoint.hasJoined · username (.text hash) address) fun answered => ?_
      cases answered with
      | none =>
          exact .none
      | some profile =>
          exact .some rfl
  | close =>
      exact .close

end Likeness

/-! ## Sessions that can be saved -/

/--
What a session has if it was created: what it holds was brought by answers, and it
holds tokens and a profile while it can use them, but no hash before it has joined.
-/
structure Session.IsEarned (session : Session) : Prop where
  tokens : ∀ tokens, session.tokens = some tokens → tokens.AreIssued
  profile : ∀ profile, session.profile = some profile → profile.IsNamed
  identified :
    session.state ∈ SessionAction.withTokens →
      session.tokens.isSome = true ∧ session.profile.isSome = true
  unhashed :
    session.state = .unauthenticated ∨ session.state = .authenticated →
      session.serverHash = none

theorem Session.Holds.isEarned
    {session : Session}
    (holds : session.Holds Tokens.AreIssued Profile.IsNamed) :
    session.IsEarned where
  tokens := holds.tokens
  profile := holds.profile
  identified := holds.identified
  unhashed := fun start => start.elim (fun state => (holds.blank state).2.2) holds.unhashed

/-- A session that has been created has earned what it has, whatever it has been asked. -/
theorem Session.isEarned_ending
    (config : Config)
    (transport : Option Transport)
    (surroundings : Surroundings)
    (calls : List SessionCall) :
    (Situation.ending
      { session := Session.create config transport, surroundings := surroundings }
      calls).session.IsEarned :=
  (Session.Holds.ending (fun _ => id) (fun _ => id)
    (Session.holds_reset (Session.create config transport)) calls).isEarned

/-! ## Going on from what was saved -/

/-- What surrounds two sessions agrees in all that is still to come. -/
structure Surroundings.GoesOnAs (one other : Surroundings) : Prop where
  random :
    ∀ later length,
      one.random (one.drawn ++ later) length = other.random (other.drawn ++ later) length
  padding : one.padding = other.padding
  replies : one.replies = other.replies
  isDebugging : one.console.isDebugging = other.console.isDebugging

/--
Two turns that end with the same, leave sessions that are the same to every server,
and have sent and printed the same since the runs of the two sessions began.
-/
structure SessionTurn.KeepsPace (start otherStart : Situation) (one other : SessionTurn) :
    Prop where
  outcome : one.outcome = other.outcome
  state : one.after.session.state = other.after.session.state
  tokens : Option.Rel Tokens.Agree one.after.session.tokens other.after.session.tokens
  profile : Option.Rel Profile.Agree one.after.session.profile other.after.session.profile
  requests :
    ∃ sent,
      one.after.surroundings.requests = start.surroundings.requests ++ sent ∧
        other.after.surroundings.requests = otherStart.surroundings.requests ++ sent
  printed :
    ∃ lines,
      one.after.surroundings.console.printed = start.surroundings.console.printed ++ lines ∧
        other.after.surroundings.console.printed =
          otherStart.surroundings.console.printed ++ lines

namespace Likeness

variable {start otherStart : Situation}

theorem resumption_keepsPace
    {one other : SessionTurn}
    (alike : (resumption start otherStart).TurnsAlike one other) :
    one.KeepsPace start otherStart other where
  outcome := (alike.outcome.mono id fun results => results.eq id id id id id).eq
  state := alike.after.state
  tokens := alike.after.tokens
  profile := alike.after.profile
  requests := Situation.KeepsPace.requests alike.after.outside
  printed := Console.KeepsPace.printed (Situation.KeepsPace.console alike.after.outside)

end Likeness

/-- An earned identity is restored from what was saved of it. -/
theorem SessionOpening.restored_of_saved
    (config : Config)
    (transport : Option Transport)
    (surroundings : Surroundings)
    {tokens : Tokens}
    {profile : Profile}
    (areIssued : tokens.AreIssued)
    (isNamed : profile.IsNamed) :
    ∃ line,
      restored.begin (config.saving tokens profile) transport surroundings =
        .ok (Situation.reporting
          (Situation.withSession
            { session := Session.create (config.saving tokens profile) transport
              surroundings := surroundings }
            (resumed
              ({ tokens with requestUser := .bool false },
                { profile with properties := .list [] })))
          .info line) := by
  obtain ⟨_, described⟩ := isNamed
  obtain ⟨_, digits, _, isNormalized, isUuid⟩ := described.uuid
  obtain ⟨name, _, _, isName⟩ := described.username
  obtain ⟨⟨access, isAccess, _⟩, _⟩ := areIssued
  have isSaved :=
    config.savedIdentity_saving tokens profile (isUuid ▸ Uuid.normalize_idempotent isNormalized)
  rw [← isUuid] at isSaved
  have isShown : profile.username.checkShown = .ok () := by
    rw [isName]
    exact (Value.isShowable_text name).checkShown
  have isMasked :
      Session.masked tokens.accessToken =
        .ok (Console.maskText access Console.visibleCharacters) := by
    rw [isAccess]
    rfl
  have hasLine :
      ∃ line,
        Session.restoredLine { tokens with requestUser := .bool false }
          { profile with properties := .list [] } = .ok line := by
    simp only [Session.restoredLine, isShown, isMasked, ok_bind]
    exact ⟨_, rfl⟩
  obtain ⟨line, isLine⟩ := hasLine
  refine ⟨line, ?_⟩
  rw [begin_restored, isSaved]
  simp only [ok_bind, isLine]
  rfl

/--
A session that was created and is logged in without a secret goes on as if nothing had
happened when it is restored from its configuration, its tokens and its profile: this
succeeds, and whatever is then called on both sessions, with the same ahead of them,
ends with the same, and sends and prints the same.
-/
theorem resumed_keeps_pace
    {config : Config}
    {transport : Option Transport}
    {surroundings otherSurroundings : Surroundings}
    {earlier : List SessionCall}
    {live : Situation}
    (isReached :
      live =
        Situation.ending
          { session := Session.create config transport, surroundings := surroundings } earlier)
    (isAuthenticated : live.session.state = .authenticated)
    (noSecret : live.session.sharedSecret = none)
    (goesOn : live.surroundings.GoesOnAs otherSurroundings) :
    ∃ tokens profile savedConfig resumed,
      live.session.tokens = some tokens ∧
        live.session.profile = some profile ∧
        Config.ofValue (.mapping (config.saving tokens profile).entries) = .ok savedConfig ∧
        SessionOpening.restored.begin savedConfig transport otherSurroundings = .ok resumed ∧
        ∀ calls,
          List.Forall₂ (SessionTurn.KeepsPace live resumed) (live.turns calls)
            (resumed.turns calls) := by
  have earned : live.session.IsEarned := by
    rw [isReached]
    exact Session.isEarned_ending config transport surroundings earlier
  obtain ⟨sameConfig, sameTransport⟩ :=
    Situation.ending_config
      { session := Session.create config transport, surroundings := surroundings } earlier
  rw [← isReached] at sameConfig sameTransport
  obtain ⟨hasTokens, hasProfile⟩ :=
    earned.identified (Situation.withTokens_iff.mpr (.inl isAuthenticated))
  obtain ⟨tokens, held⟩ := Option.isSome_iff_exists.mp hasTokens
  obtain ⟨profile, heldProfile⟩ := Option.isSome_iff_exists.mp hasProfile
  obtain ⟨line, isBegun⟩ :=
    SessionOpening.restored_of_saved config transport otherSurroundings (earned.tokens tokens held)
      (earned.profile profile heldProfile)
  obtain ⟨sameAuth, sameSession, sameTimeout⟩ := config.saving_servers tokens profile
  refine ⟨tokens, profile, _, _, held, heldProfile, rfl, isBegun, fun calls => ?_⟩
  generalize isResumed : Situation.reporting _ .info line = resumed
  have alike : (Likeness.resumption live resumed).Alike live resumed := by
    rw [← isResumed]
    exact {
      config := by
        rw [sameConfig]
        exact ⟨sameAuth.symm, sameSession.symm⟩
      state := isAuthenticated
      tokens := by
        rw [held]
        exact .some ⟨rfl, rfl⟩
      profile := by
        rw [heldProfile]
        exact .some ⟨rfl, rfl⟩
      sharedSecret := by
        rw [noSecret]
        exact .none
      serverHash := by
        rw [earned.unhashed (.inr isAuthenticated)]
        exact .none
      outside := {
        transport := by
          rw [sameTransport]
          exact congrArg (fun timeout => transport.getD (Transport.ofTimeout timeout))
            sameTimeout.symm
        random := goesOn.random
        padding := goesOn.padding
        replies := goesOn.replies
        requests := ⟨[], (List.append_nil _).symm, (List.append_nil _).symm⟩
        console := {
          isDebugging := by
            simp only [Situation.reporting, Console.report]
            split <;> exact goesOn.isDebugging
          printed := ⟨[], (List.append_nil _).symm, (List.append_nil _).symm⟩ } } }
  exact (Likeness.resumption_laws.turns_alike alike
    (List.forall₂_same.mpr fun call _ => Likeness.resumption_callsAlike call)).imp
      fun _ _ => Likeness.resumption_keepsPace

/-- A client that has logged in is saved and goes on in the same surroundings. -/
theorem resumed_keeps_pace_loggedIn :
    let live := (Situation.quiet [Reply.granting "access", Reply.silent]).ending [.logIn]
    live.session.state = .authenticated ∧ live.session.sharedSecret = none ∧
      ∃ tokens profile savedConfig resumed,
        live.session.tokens = some tokens ∧
          live.session.profile = some profile ∧
          Config.ofValue (.mapping (Config.empty.saving tokens profile).entries) =
            .ok savedConfig ∧
          SessionOpening.restored.begin savedConfig (some .direct) live.surroundings =
            .ok resumed ∧
          ∀ calls,
            List.Forall₂ (SessionTurn.KeepsPace live resumed) (live.turns calls)
              (resumed.turns calls) := by
  intro live
  have reached :
      live.session.state = .authenticated ∧ live.session.sharedSecret.isNone = true := by
    decide +kernel
  obtain ⟨isAuthenticated, isUndrawn⟩ := reached
  have noSecret := Option.isNone_iff_eq_none.mp isUndrawn
  exact ⟨isAuthenticated, noSecret,
    resumed_keeps_pace rfl isAuthenticated noSecret ⟨fun _ _ => rfl, rfl, rfl, rfl⟩⟩

end SessionHandshake
