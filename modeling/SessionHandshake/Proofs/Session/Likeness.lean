import SessionHandshake.Proofs.Session.Result
import SessionHandshake.Proofs.Session.Server

namespace SessionHandshake

/-!
# Two sessions side by side

Two sessions run side by side over a likeness: what may differ between them is said
once, part by part, together with the laws under which the primitive steps of a
session keep it.  Programs are then compared line by line, and wherever the two
ask a server, the likeness of the answers is all that is left to be shown.
-/

/-- In which respects two sessions are alike, part by part. -/
structure Likeness where
  config : Config → Config → Prop
  tokens : Tokens → Tokens → Prop
  /-- Tokens that an answer has just brought. -/
  issued : Tokens → Tokens → Prop
  profile : Profile → Profile → Prop
  /-- Profiles that an answer has just brought. -/
  named : Profile → Profile → Prop
  clientToken : Value → Value → Prop
  secret : Value → Value → Prop
  hash : Text → Text → Prop
  response : EncryptionResponse → EncryptionResponse → Prop
  fault : Fault → Fault → Prop
  /-- Faults that keep a client from being verified. -/
  unanswered : Fault → Fault → Prop
  /-- The transports of two situations and what surrounds their sessions. -/
  outside : Situation → Situation → Prop

namespace Likeness

/-- The sessions of two situations are in one state and alike in all their parts. -/
structure Alike (like : Likeness) (one other : Situation) : Prop where
  config : like.config one.session.config other.session.config
  state : one.session.state = other.session.state
  tokens : Option.Rel like.tokens one.session.tokens other.session.tokens
  profile : Option.Rel like.profile one.session.profile other.session.profile
  sharedSecret : Option.Rel like.secret one.session.sharedSecret other.session.sharedSecret
  serverHash : Option.Rel like.hash one.session.serverHash other.session.serverHash
  outside : like.outside one other

/-- The primitive steps of a session keep a likeness. -/
structure Laws (like : Likeness) : Prop where
  sameFault : ∀ fault, like.fault fault fault
  unanswered : ∀ {one other}, like.fault one other → like.unanswered one other
  rejected :
    ∀ {one other}, like.unanswered one other →
      one.isUnanswered = other.isUnanswered ∧
        ∀ username,
          like.fault (Situation.unansweredFault username one)
            (Situation.unansweredFault username other)
  servers :
    ∀ {one other}, like.config one other →
      one.authServer = other.authServer ∧ one.sessionServer = other.sessionServer
  issued : ∀ {one other}, like.issued one other → like.tokens one other
  named : ∀ {one other}, like.named one other → like.profile one other
  masked :
    ∀ {one other}, like.tokens one other →
      Session.masked one.accessToken = Session.masked other.accessToken
  player :
    ∀ {one other}, like.profile one other →
      one.uuid = other.uuid ∧ one.username = other.username
  drawnSecret :
    ∀ {one other : Situation}, like.outside one other →
      OutcomesAlike like.fault (fun first second => like.secret (.bytes first) (.bytes second))
        (one.surroundings.random.sharedSecret one.surroundings.drawn)
        (other.surroundings.random.sharedSecret other.surroundings.drawn)
  drawnToken :
    ∀ {one other : Situation}, like.outside one other →
      OutcomesAlike like.fault (fun first second => like.clientToken (.text first) (.text second))
        (one.surroundings.random.clientToken one.surroundings.drawn)
        (other.surroundings.random.clientToken other.surroundings.drawn)
  drawing :
    ∀ {one other} (length : Nat), like.outside one other →
      like.outside (one.drawing length) (other.drawing length)
  padding :
    ∀ {one other}, like.outside one other →
      one.surroundings.padding = other.surroundings.padding
  padded :
    ∀ {one other : Situation} (padding : PaddingSource), like.outside one other →
      like.outside
        { one with surroundings := { one.surroundings with padding := padding } }
        { other with surroundings := { other.surroundings with padding := padding } }
  encrypted :
    ∀ {one other} (padding : PaddingSource) (publicKey verifyToken : Value),
      like.secret one other →
        OutcomesAlike like.fault like.response
          (EncryptionResponse.ofSecret padding publicKey verifyToken one)
          (EncryptionResponse.ofSecret padding publicKey verifyToken other)
  hashed :
    ∀ {one other} (serverId publicKey : Value), like.secret one other →
      OutcomesAlike like.fault like.hash
        (Digest.ofServerValues Hasher.sha1 serverId one publicKey)
        (Digest.ofServerValues Hasher.sha1 serverId other publicKey)
  withSession :
    ∀ {one other} {update otherUpdate : Session → Session},
      (∀ session, (update session).transport = session.transport) →
      (∀ session, (otherUpdate session).transport = session.transport) →
      like.outside one other →
      like.outside (one.withSession update) (other.withSession otherUpdate)
  reporting :
    ∀ {one other} (level : LogLevel) (message : Text), like.outside one other →
      like.outside (one.reporting level message) (other.reporting level message)
  hashReported :
    ∀ {one other first second} (before after : Text), like.outside one other →
      like.hash first second →
      like.outside (one.reporting .debug (before ++ first ++ after))
        (other.reporting .debug (before ++ second ++ after))
  closing :
    ∀ {one other : Situation} (closes otherCloses : Nat), like.outside one other →
      like.outside
        { one with surroundings := { one.surroundings with closes := closes } }
        { other with surroundings := { other.surroundings with closes := otherCloses } }

/-- Two programs of sessions end alike, in situations that are alike again. -/
def PerformsAlike {First Second : Type}
    (like : Likeness)
    (faults : Fault → Fault → Prop)
    (results : First → Second → Prop)
    (one : SessionAction First)
    (other : SessionAction Second) : Prop :=
  ∀ before otherBefore,
    like.Alike before otherBefore →
    OutcomesAlike faults results (before.perform one).1 (otherBefore.perform other).1 ∧
      like.Alike (before.perform one).2 (otherBefore.perform other).2

/-- Two endpoints, given a server of the configuration, are answered alike. -/
def AsksAlike {First Second : Type}
    (like : Likeness)
    (faults : Fault → Fault → Prop)
    (results : First → Second → Prop)
    (server : Config → Value)
    (one : Value → Endpoint First)
    (other : Value → Endpoint Second) : Prop :=
  ∀ before otherBefore,
    like.Alike before otherBefore →
    let endpoint := one (server before.session.config)
    let otherEndpoint := other (server otherBefore.session.config)
    OutcomesAlike faults results
        (endpoint.read (before.exchange endpoint.request).outcome)
        (otherEndpoint.read (otherBefore.exchange otherEndpoint.request).outcome) ∧
      like.outside (before.asking endpoint.request) (otherBefore.asking otherEndpoint.request)

/-! ## Sequences of steps -/

section Sequences

variable
  {like : Likeness}
  {faults : Fault → Fault → Prop}
  {First Second Third Fourth : Type}
  {results : First → Second → Prop}
  {nextResults : Third → Fourth → Prop}

theorem performsAlike_pure {first : First} {second : Second} (alike : results first second) :
    like.PerformsAlike faults results (pure first) (pure second) :=
  fun _ _ situations => ⟨.ok alike, situations⟩

theorem performsAlike_throw {first second : Fault} (alike : faults first second) :
    like.PerformsAlike faults results (throw first) (throw second) :=
  fun _ _ situations => ⟨.error alike, situations⟩

theorem performsAlike_lift
    {one : Except Fault First}
    {other : Except Fault Second}
    (alike : OutcomesAlike faults results one other) :
    like.PerformsAlike faults results (SessionAction.lift one) (SessionAction.lift other) := by
  intro before otherBefore situations
  rw [Situation.perform_lift, Situation.perform_lift]
  exact ⟨alike, situations⟩

theorem PerformsAlike.bind
    {one : SessionAction First}
    {other : SessionAction Second}
    {next : First → SessionAction Third}
    {otherNext : Second → SessionAction Fourth}
    (alike : like.PerformsAlike faults results one other)
    (goesOn :
      ∀ {first second}, results first second →
        like.PerformsAlike faults nextResults (next first) (otherNext second)) :
    like.PerformsAlike faults nextResults (one >>= next) (other >>= otherNext) := by
  intro before otherBefore situations
  obtain ⟨outcomes, after⟩ := alike before otherBefore situations
  rw [Situation.perform_bind, Situation.perform_bind]
  rcases performed : before.perform one with ⟨outcome, between⟩
  rcases otherPerformed : otherBefore.perform other with ⟨otherOutcome, otherBetween⟩
  simp only [performed, otherPerformed] at outcomes after
  cases outcomes with
  | ok alike =>
      exact goesOn alike between otherBetween after
  | error alike =>
      exact ⟨.error alike, after⟩

/-- Handlers take over on both sides, or on neither. -/
theorem PerformsAlike.tryCatch
    {handledFaults : Fault → Fault → Prop}
    {one : SessionAction First}
    {other : SessionAction Second}
    {handle : Fault → SessionAction First}
    {otherHandle : Fault → SessionAction Second}
    (alike : like.PerformsAlike faults results one other)
    (handled :
      ∀ {first second}, faults first second →
        like.PerformsAlike handledFaults results (handle first) (otherHandle second)) :
    like.PerformsAlike handledFaults results
      (MonadExcept.tryCatch one handle) (MonadExcept.tryCatch other otherHandle) := by
  intro before otherBefore situations
  obtain ⟨outcomes, after⟩ := alike before otherBefore situations
  rw [Situation.perform_tryCatch, Situation.perform_tryCatch]
  rcases performed : before.perform one with ⟨outcome, between⟩
  rcases otherPerformed : otherBefore.perform other with ⟨otherOutcome, otherBetween⟩
  simp only [performed, otherPerformed] at outcomes after
  cases outcomes with
  | ok alike =>
      exact ⟨.ok alike, after⟩
  | error alike =>
      exact handled alike between otherBetween after

theorem PerformsAlike.onFault
    {one : SessionAction First}
    {other : SessionAction Second}
    {handle otherHandle : Fault → SessionAction Unit}
    (alike : like.PerformsAlike faults results one other)
    (handled :
      ∀ {first second}, faults first second →
        like.PerformsAlike faults (fun _ _ => True) (handle first) (otherHandle second)) :
    like.PerformsAlike faults results (SessionAction.onFault one handle)
      (SessionAction.onFault other otherHandle) :=
  alike.tryCatch fun faultsAlike =>
    (handled faultsAlike).bind fun _ => performsAlike_throw faultsAlike

end Sequences

/-! ## Primitive steps -/

namespace Laws

variable
  {like : Likeness}
  (laws : like.Laws)
  {faults : Fault → Fault → Prop}
  {First Second : Type}
  {results : First → Second → Prop}
include laws

theorem sameFaults {faults : Fault → Fault → Prop}
    (weaker : ∀ {one other}, like.fault one other → faults one other) (fault : Fault) :
    faults fault fault :=
  weaker (laws.sameFault fault)

/-- What is alike in the sessions stays alike where both are changed alike. -/
theorem change
    {update otherUpdate : Session → Session}
    (keeps : ∀ session, (update session).transport = session.transport)
    (otherKeeps : ∀ session, (otherUpdate session).transport = session.transport)
    (changed :
      ∀ {before otherBefore}, like.Alike before otherBefore →
        like.outside (before.withSession update) (otherBefore.withSession otherUpdate) →
        like.Alike (before.withSession update) (otherBefore.withSession otherUpdate)) :
    like.PerformsAlike faults (fun _ _ => True) (SessionAction.change update)
      (SessionAction.change otherUpdate) := by
  intro before otherBefore situations
  rw [Situation.perform_change, Situation.perform_change]
  exact ⟨.ok trivial, changed situations (laws.withSession keeps otherKeeps situations.outside)⟩

theorem enter (state : SessionState) :
    like.PerformsAlike faults (fun _ _ => True) (SessionAction.enter state)
      (SessionAction.enter state) :=
  laws.change (fun _ => rfl) (fun _ => rfl) fun situations outside => {
    config := situations.config
    state := rfl
    tokens := situations.tokens
    profile := situations.profile
    sharedSecret := situations.sharedSecret
    serverHash := situations.serverHash
    outside := outside }

theorem reset :
    like.PerformsAlike faults (fun _ _ => True) (SessionAction.change Session.reset)
      (SessionAction.change Session.reset) :=
  laws.change (fun _ => rfl) (fun _ => rfl) fun situations outside => {
    config := situations.config
    state := rfl
    tokens := .none
    profile := .none
    sharedSecret := .none
    serverHash := .none
    outside := outside }

theorem report (level : LogLevel) (message : Text) :
    like.PerformsAlike faults (fun _ _ => True) (SessionAction.report level message)
      (SessionAction.report level message) := by
  intro before otherBefore situations
  rw [Situation.perform_report, Situation.perform_report]
  exact ⟨.ok trivial, { situations with
    outside := laws.reporting level message situations.outside }⟩

/-- A user is named on both sides, or cannot be. -/
theorem reportUser
    (weaker : ∀ {one other}, like.fault one other → faults one other)
    (level : LogLevel)
    (words : String)
    (username : Value) :
    like.PerformsAlike faults (fun _ _ => True) (SessionAction.reportUser level words username)
      (SessionAction.reportUser level words username) :=
  (performsAlike_lift (.refl (laws.sameFaults weaker) _)).bind fun _ => laws.report _ _

theorem reportHash {first second : Text} (hashes : like.hash first second) (before after : Text) :
    like.PerformsAlike faults (fun _ _ => True)
      (SessionAction.report .debug (before ++ first ++ after))
      (SessionAction.report .debug (before ++ second ++ after)) := by
  intro situation otherSituation situations
  rw [Situation.perform_report, Situation.perform_report]
  exact ⟨.ok trivial, { situations with
    outside := laws.hashReported before after situations.outside hashes }⟩

/-- Both operations are possible, or neither is. -/
theorem expect
    (weaker : ∀ {one other}, like.fault one other → faults one other)
    (operation : Text)
    (states : List SessionState) :
    like.PerformsAlike faults (fun _ _ => True) (SessionAction.expect operation states)
      (SessionAction.expect operation states) := by
  intro before otherBefore situations
  rw [Situation.perform_expect, Situation.perform_expect, situations.state]
  split
  · exact ⟨.ok trivial, situations⟩
  · exact ⟨.error (laws.sameFaults weaker _), situations⟩

theorem tokens (weaker : ∀ {one other}, like.fault one other → faults one other) :
    like.PerformsAlike faults like.tokens SessionAction.tokens SessionAction.tokens := by
  intro before otherBefore situations
  rw [Situation.perform_tokens_eq, Situation.perform_tokens_eq, Session.heldTokens,
    Session.heldTokens]
  refine ⟨?_, situations⟩
  have alike := situations.tokens
  generalize before.session.tokens = held at alike
  generalize otherBefore.session.tokens = otherHeld at alike
  cases alike with
  | some alike =>
      exact .ok alike
  | none =>
      exact .error (laws.sameFaults weaker _)

theorem profile (weaker : ∀ {one other}, like.fault one other → faults one other) :
    like.PerformsAlike faults like.profile SessionAction.profile SessionAction.profile := by
  intro before otherBefore situations
  rw [Situation.perform_profile_eq, Situation.perform_profile_eq, Session.heldProfile,
    Session.heldProfile]
  refine ⟨?_, situations⟩
  have alike := situations.profile
  generalize before.session.profile = held at alike
  generalize otherBefore.session.profile = otherHeld at alike
  cases alike with
  | some alike =>
      exact .ok alike
  | none =>
      exact .error (laws.sameFaults weaker _)

/-- A server is named and asked, unless messages could not show its name. -/
theorem ask
    (weaker : ∀ {one other}, like.fault one other → faults one other)
    {server : SessionAction Value}
    {configured : Config → Value}
    (performs :
      ∀ situation : Situation,
        situation.perform server =
          ((configured situation.session.config).checkShown.map
            fun _ => configured situation.session.config, situation))
    (sameServer :
      ∀ {one other}, like.config one other → configured one = configured other)
    {one : Value → Endpoint First}
    {other : Value → Endpoint Second}
    (asks : like.AsksAlike faults results configured one other) :
    like.PerformsAlike faults results
      (server >>= fun server => SessionAction.send (one server))
      (server >>= fun server => SessionAction.send (other server)) := by
  intro before otherBefore situations
  rw [Situation.perform_bind, Situation.perform_bind, performs, performs,
    ← sameServer situations.config]
  cases isShown : (configured before.session.config).checkShown with
  | error fault =>
      exact ⟨.error (laws.sameFaults weaker fault), situations⟩
  | ok _ =>
      obtain ⟨outcomes, outside⟩ := asks before otherBefore situations
      simp only [Except.map, Situation.perform_send]
      rw [← sameServer situations.config] at outcomes outside
      exact ⟨outcomes, { situations with outside := outside }⟩

theorem askAuthServer
    (weaker : ∀ {one other}, like.fault one other → faults one other)
    {one : Value → Endpoint First}
    {other : Value → Endpoint Second}
    (asks : like.AsksAlike faults results Config.authServer one other) :
    like.PerformsAlike faults results
      (SessionAction.authServer >>= fun server => SessionAction.send (one server))
      (SessionAction.authServer >>= fun server => SessionAction.send (other server)) :=
  laws.ask weaker Situation.perform_authServer (fun configs => (laws.servers configs).1) asks

theorem askSessionServer
    (weaker : ∀ {one other}, like.fault one other → faults one other)
    {one : Value → Endpoint First}
    {other : Value → Endpoint Second}
    (asks : like.AsksAlike faults results Config.sessionServer one other) :
    like.PerformsAlike faults results
      (SessionAction.sessionServer >>= fun server => SessionAction.send (one server))
      (SessionAction.sessionServer >>= fun server => SessionAction.send (other server)) :=
  laws.ask weaker Situation.perform_sessionServer (fun configs => (laws.servers configs).2) asks

theorem drawSecret :
    like.PerformsAlike like.fault
      (fun first second => like.secret (.bytes first) (.bytes second))
      (SessionAction.draw sharedSecretLength RandomSource.sharedSecret)
      (SessionAction.draw sharedSecretLength RandomSource.sharedSecret) := by
  intro before otherBefore situations
  rw [Situation.perform_draw, Situation.perform_draw]
  exact ⟨laws.drawnSecret situations.outside, { situations with
    outside := laws.drawing sharedSecretLength situations.outside }⟩

theorem drawToken :
    like.PerformsAlike like.fault
      (fun first second => like.clientToken (.text first) (.text second))
      (SessionAction.draw clientTokenLength RandomSource.clientToken)
      (SessionAction.draw clientTokenLength RandomSource.clientToken) := by
  intro before otherBefore situations
  rw [Situation.perform_draw, Situation.perform_draw]
  exact ⟨laws.drawnToken situations.outside, { situations with
    outside := laws.drawing clientTokenLength situations.outside }⟩

end Laws

end Likeness

end SessionHandshake
