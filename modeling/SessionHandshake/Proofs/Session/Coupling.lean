import Mathlib.Data.List.Forall2
import SessionHandshake.Proofs.Session.Likeness
import SessionHandshake.Proofs.Session.Turn

namespace SessionHandshake

/-!
# Calls side by side

Calls that are alike end alike, in situations that are alike again, if the servers
answer them alike.  By induction the same holds for runs, turn by turn.
-/

namespace Likeness

variable (like : Likeness)

/-- Two calls of one operation whose secrets are alike and whose questions are answered alike. -/
inductive CallsAlike : SessionCall → SessionCall → Prop where
  | authenticate {username password otherPassword clientToken requestUser : Value} :
      (clientToken.isNull = false → like.clientToken clientToken clientToken) →
      (∀ {one other}, like.clientToken one other →
        like.AsksAlike like.fault
          (fun one other => like.issued one.1 other.1 ∧ like.named one.2 other.2)
          Config.authServer
          (fun server => Endpoint.authenticate server username password one requestUser)
          (fun server => Endpoint.authenticate server username otherPassword other requestUser)) →
      CallsAlike (.authenticate username password clientToken requestUser)
        (.authenticate username otherPassword clientToken requestUser)
  | createSharedSecret :
      CallsAlike .createSharedSecret .createSharedSecret
  | encryptionResponse (publicKey verifyToken : Value) :
      CallsAlike (.encryptionResponse publicKey verifyToken)
        (.encryptionResponse publicKey verifyToken)
  | join {serverId secret otherSecret publicKey : Value} :
      like.secret secret otherSecret →
      (∀ {one other profile otherProfile hash otherHash},
        like.tokens one other → like.profile profile otherProfile → like.hash hash otherHash →
        like.AsksAlike like.fault (fun _ _ => True) Config.sessionServer
          (fun server => Endpoint.join server one.accessToken profile.uuid (.text hash))
          (fun server =>
            Endpoint.join server other.accessToken otherProfile.uuid (.text otherHash))) →
      CallsAlike (.join serverId secret publicKey) (.join serverId otherSecret publicKey)
  | refresh {requestUser : Value} :
      (∀ {one other}, like.tokens one other →
        like.AsksAlike like.fault
          (fun one other => like.issued one.1 other.1 ∧ Option.Rel like.named one.2 other.2)
          Config.authServer
          (fun server => Endpoint.refresh server one.accessToken one.clientToken requestUser)
          (fun server => Endpoint.refresh server other.accessToken other.clientToken requestUser)) →
      CallsAlike (.refresh requestUser) (.refresh requestUser)
  | validate :
      (∀ {one other}, like.tokens one other →
        like.AsksAlike like.fault Eq Config.authServer
          (fun server => Endpoint.validate server one.accessToken one.clientToken)
          (fun server => Endpoint.validate server other.accessToken other.clientToken)) →
      CallsAlike .validate .validate
  | invalidate :
      (∀ {one other}, like.tokens one other →
        like.AsksAlike like.fault (fun _ _ => True) Config.authServer
          (fun server => Endpoint.invalidate server one.accessToken one.clientToken)
          (fun server => Endpoint.invalidate server other.accessToken other.clientToken)) →
      CallsAlike .invalidate .invalidate
  | signOut {username password otherPassword : Value} :
      like.AsksAlike like.fault (fun _ _ => True) Config.authServer
        (fun server => Endpoint.signOut server username password)
        (fun server => Endpoint.signOut server username otherPassword) →
      CallsAlike (.signOut username password) (.signOut username otherPassword)
  | verify {username serverId secret otherSecret publicKey address : Value} :
      like.secret secret otherSecret →
      (∀ {hash otherHash}, like.hash hash otherHash →
        like.AsksAlike like.unanswered (Option.Rel like.named) Config.sessionServer
          (fun server => Endpoint.hasJoined server username (.text hash) address)
          (fun server => Endpoint.hasJoined server username (.text otherHash) address)) →
      CallsAlike (.verify username serverId secret publicKey address)
        (.verify username serverId otherSecret publicKey address)
  | close :
      CallsAlike .close .close

/-- Two results of one kind that are alike in what they hold. -/
inductive ResultsAlike : SessionResult → SessionResult → Prop where
  | nothing :
      ResultsAlike .nothing .nothing
  | identity {tokens otherTokens : Tokens} {profile otherProfile : Profile} :
      like.issued tokens otherTokens →
      like.named profile otherProfile →
      ResultsAlike (.identity tokens profile) (.identity otherTokens otherProfile)
  | secret {secret otherSecret : Value} :
      like.secret secret otherSecret →
      ResultsAlike (.secret secret) (.secret otherSecret)
  | response {response otherResponse : EncryptionResponse} :
      like.response response otherResponse →
      ResultsAlike (.response response) (.response otherResponse)
  | hash {hash otherHash : Text} :
      like.hash hash otherHash →
      ResultsAlike (.hash hash) (.hash otherHash)
  | tokens {tokens otherTokens : Tokens} :
      like.issued tokens otherTokens →
      ResultsAlike (.tokens tokens) (.tokens otherTokens)
  | flag (flag : Bool) :
      ResultsAlike (.flag flag) (.flag flag)
  | profile {profile otherProfile : Profile} :
      like.named profile otherProfile →
      ResultsAlike (.profile profile) (.profile otherProfile)

/-- Results that are alike are the same if what they hold is. -/
theorem ResultsAlike.eq
    {like : Likeness}
    {one other : SessionResult}
    (alike : like.ResultsAlike one other)
    (issued : ∀ {one other}, like.issued one other → one = other)
    (named : ∀ {one other}, like.named one other → one = other)
    (secret : ∀ {one other}, like.secret one other → one = other)
    (hash : ∀ {one other}, like.hash one other → one = other)
    (response : ∀ {one other}, like.response one other → one = other) :
    one = other := by
  cases alike with
  | nothing =>
      rfl
  | identity tokens profile =>
      exact congrArg₂ SessionResult.identity (issued tokens) (named profile)
  | secret same =>
      exact congrArg SessionResult.secret (secret same)
  | response same =>
      exact congrArg SessionResult.response (response same)
  | hash same =>
      exact congrArg SessionResult.hash (hash same)
  | tokens same =>
      exact congrArg SessionResult.tokens (issued same)
  | flag flag =>
      rfl
  | profile same =>
      exact congrArg SessionResult.profile (named same)

namespace Laws

variable {like : Likeness} (laws : like.Laws)
include laws

/-! ## What sessions store -/

theorem storeIdentity
    {faults : Fault → Fault → Prop}
    {tokens otherTokens : Tokens}
    {profile otherProfile : Profile}
    (issued : like.issued tokens otherTokens)
    (named : like.named profile otherProfile) :
    like.PerformsAlike faults (fun _ _ => True)
      (SessionAction.change fun session => { session with
        state := .authenticated
        tokens := some tokens
        profile := some profile })
      (SessionAction.change fun session => { session with
        state := .authenticated
        tokens := some otherTokens
        profile := some otherProfile }) :=
  laws.change (fun _ => rfl) (fun _ => rfl) fun situations outside => {
    config := situations.config
    state := rfl
    tokens := .some (laws.issued issued)
    profile := .some (laws.named named)
    sharedSecret := situations.sharedSecret
    serverHash := situations.serverHash
    outside := outside }

theorem storeSecret
    {faults : Fault → Fault → Prop}
    {secret otherSecret : Value}
    (secrets : like.secret secret otherSecret) :
    like.PerformsAlike faults (fun _ _ => True)
      (SessionAction.change fun session => { session with sharedSecret := some secret })
      (SessionAction.change fun session => { session with sharedSecret := some otherSecret }) :=
  laws.change (fun _ => rfl) (fun _ => rfl) fun situations outside => {
    config := situations.config
    state := situations.state
    tokens := situations.tokens
    profile := situations.profile
    sharedSecret := .some secrets
    serverHash := situations.serverHash
    outside := outside }

theorem giveUpSecret {faults : Fault → Fault → Prop} :
    like.PerformsAlike faults (fun _ _ => True)
      (SessionAction.change fun session =>
        { session with state := .authenticated, sharedSecret := none })
      (SessionAction.change fun session =>
        { session with state := .authenticated, sharedSecret := none }) :=
  laws.change (fun _ => rfl) (fun _ => rfl) fun situations outside => {
    config := situations.config
    state := rfl
    tokens := situations.tokens
    profile := situations.profile
    sharedSecret := .none
    serverHash := situations.serverHash
    outside := outside }

theorem storeJoin
    {faults : Fault → Fault → Prop}
    {secret otherSecret : Value}
    {hash otherHash : Text}
    (secrets : like.secret secret otherSecret)
    (hashes : like.hash hash otherHash) :
    like.PerformsAlike faults (fun _ _ => True)
      (SessionAction.change fun session => { session with
        state := .joined
        sharedSecret := some secret
        serverHash := some hash })
      (SessionAction.change fun session => { session with
        state := .joined
        sharedSecret := some otherSecret
        serverHash := some otherHash }) :=
  laws.change (fun _ => rfl) (fun _ => rfl) fun situations outside => {
    config := situations.config
    state := rfl
    tokens := situations.tokens
    profile := situations.profile
    sharedSecret := .some secrets
    serverHash := .some hashes
    outside := outside }

/-- A renewal stores the profile of its answer, or keeps the one that is there. -/
theorem storeRenewal
    {faults : Fault → Fault → Prop}
    {tokens otherTokens : Tokens}
    {profile otherProfile : Option Profile}
    (issued : like.issued tokens otherTokens)
    (named : Option.Rel like.named profile otherProfile) :
    like.PerformsAlike faults (fun _ _ => True)
      (SessionAction.change fun session => { session with
        state := .authenticated
        tokens := some tokens
        profile := profile.orElse fun _ => session.profile
        sharedSecret := none
        serverHash := none })
      (SessionAction.change fun session => { session with
        state := .authenticated
        tokens := some otherTokens
        profile := otherProfile.orElse fun _ => session.profile
        sharedSecret := none
        serverHash := none }) :=
  laws.change (fun _ => rfl) (fun _ => rfl) fun situations outside => {
    config := situations.config
    state := rfl
    tokens := .some (laws.issued issued)
    profile := by
      cases named with
      | some named =>
          exact .some (laws.named named)
      | none =>
          exact situations.profile
    sharedSecret := .none
    serverHash := .none
    outside := outside }

theorem storeVerified
    {faults : Fault → Fault → Prop}
    {profile otherProfile : Profile}
    {hash otherHash : Text}
    (named : like.named profile otherProfile)
    (hashes : like.hash hash otherHash) :
    like.PerformsAlike faults (fun _ _ => True)
      (SessionAction.change fun session => { session with
        state := .verified
        profile := some profile
        serverHash := some hash })
      (SessionAction.change fun session => { session with
        state := .verified
        profile := some otherProfile
        serverHash := some otherHash }) :=
  laws.change (fun _ => rfl) (fun _ => rfl) fun situations outside => {
    config := situations.config
    state := rfl
    tokens := situations.tokens
    profile := .some (laws.named named)
    sharedSecret := situations.sharedSecret
    serverHash := .some hashes
    outside := outside }

/-! ## The client's operations -/

theorem clientTokenOr
    {clientToken : Value}
    (given : clientToken.isNull = false → like.clientToken clientToken clientToken) :
    like.PerformsAlike like.fault like.clientToken (SessionAction.clientTokenOr clientToken)
      (SessionAction.clientTokenOr clientToken) := by
  unfold SessionAction.clientTokenOr
  cases isNull : clientToken.isNull with
  | true =>
      simp only [if_true]
      exact laws.drawToken.bind performsAlike_pure
  | false =>
      simp only [Bool.false_eq_true, if_false]
      exact performsAlike_pure (given isNull)

theorem authenticate
    {username password otherPassword clientToken requestUser : Value}
    (given : clientToken.isNull = false → like.clientToken clientToken clientToken)
    (asks :
      ∀ {one other}, like.clientToken one other →
        like.AsksAlike like.fault
          (fun one other => like.issued one.1 other.1 ∧ like.named one.2 other.2)
          Config.authServer
          (fun server => Endpoint.authenticate server username password one requestUser)
          (fun server => Endpoint.authenticate server username otherPassword other requestUser)) :
    like.PerformsAlike like.fault
      (fun one other => like.issued one.1 other.1 ∧ like.named one.2 other.2)
      (SessionAction.authenticate username password clientToken requestUser)
      (SessionAction.authenticate username otherPassword clientToken requestUser) := by
  unfold SessionAction.authenticate
  refine (laws.expect id _ _).bind fun _ => ?_
  refine (laws.clientTokenOr given).bind fun tokensAlike => ?_
  refine (laws.reportUser id _ _ _).bind fun _ => ?_
  refine ((laws.askAuthServer id (asks tokensAlike)).onFault fun _ => laws.report _ _).bind ?_
  rintro ⟨tokens, profile⟩ ⟨otherTokens, otherProfile⟩ ⟨issued, named⟩
  refine (laws.storeIdentity issued named).bind fun _ => ?_
  have line :
      SessionAction.forPlayer "Authenticated!" profile =
        SessionAction.forPlayer "Authenticated!" otherProfile := by
    obtain ⟨sameUuid, sameName⟩ := laws.player (laws.named named)
    rw [SessionAction.forPlayer, SessionAction.forPlayer, sameUuid, sameName]
  rw [line]
  exact (laws.report _ _).bind fun _ => performsAlike_pure ⟨issued, named⟩

theorem createSharedSecret :
    like.PerformsAlike like.fault like.secret SessionAction.createSharedSecret
      SessionAction.createSharedSecret := by
  unfold SessionAction.createSharedSecret
  refine laws.drawSecret.bind fun secrets => ?_
  refine (laws.storeSecret secrets).bind fun _ => ?_
  exact performsAlike_pure secrets

theorem sharedSecret :
    like.PerformsAlike like.fault like.secret SessionAction.sharedSecret
      SessionAction.sharedSecret := by
  intro before otherBefore situations
  rw [SessionAction.sharedSecret, Situation.perform_bind, Situation.perform_bind,
    Situation.perform_session, Situation.perform_session]
  have alike := situations.sharedSecret
  simp only
  generalize before.session.sharedSecret = held at alike ⊢
  generalize otherBefore.session.sharedSecret = otherHeld at alike ⊢
  cases alike with
  | some secrets =>
      exact performsAlike_pure secrets before otherBefore situations
  | none =>
      exact laws.createSharedSecret before otherBefore situations

theorem encryptionResponse (publicKey verifyToken : Value) :
    like.PerformsAlike like.fault like.response
      (SessionAction.encryptionResponse publicKey verifyToken)
      (SessionAction.encryptionResponse publicKey verifyToken) := by
  unfold SessionAction.encryptionResponse
  refine laws.sharedSecret.bind fun {secret otherSecret} secrets => ?_
  intro before otherBefore situations
  have samePadding := laws.padding situations.outside
  simp only [Situation.perform_bind, Situation.perform_get, Situation.perform_changeSurroundings,
    Situation.perform_lift]
  rw [← samePadding]
  exact ⟨laws.encrypted _ publicKey verifyToken secrets, { situations with
    outside := laws.padded _ situations.outside }⟩

theorem announceJoin
    {serverId secret otherSecret publicKey : Value}
    (secrets : like.secret secret otherSecret)
    (asks :
      ∀ {one other profile otherProfile hash otherHash},
        like.tokens one other → like.profile profile otherProfile → like.hash hash otherHash →
        like.AsksAlike like.fault (fun _ _ => True) Config.sessionServer
          (fun server => Endpoint.join server one.accessToken profile.uuid (.text hash))
          (fun server =>
            Endpoint.join server other.accessToken otherProfile.uuid (.text otherHash))) :
    like.PerformsAlike like.fault like.hash (SessionAction.announceJoin serverId secret publicKey)
      (SessionAction.announceJoin serverId otherSecret publicKey) := by
  unfold SessionAction.announceJoin
  refine (performsAlike_lift (laws.hashed serverId publicKey secrets)).bind fun hashes => ?_
  refine (laws.reportHash hashes _ _).bind fun _ => ?_
  refine (laws.tokens id).bind fun tokens => ?_
  refine (laws.profile id).bind fun profiles => ?_
  have asked := laws.askSessionServer id (asks tokens profiles hashes)
  simpa only [bind_assoc] using asked.bind fun _ => performsAlike_pure hashes

theorem join
    {serverId secret otherSecret publicKey : Value}
    (secrets : like.secret secret otherSecret)
    (asks :
      ∀ {one other profile otherProfile hash otherHash},
        like.tokens one other → like.profile profile otherProfile → like.hash hash otherHash →
        like.AsksAlike like.fault (fun _ _ => True) Config.sessionServer
          (fun server => Endpoint.join server one.accessToken profile.uuid (.text hash))
          (fun server =>
            Endpoint.join server other.accessToken otherProfile.uuid (.text otherHash))) :
    like.PerformsAlike like.fault like.hash (SessionAction.join serverId secret publicKey)
      (SessionAction.join serverId otherSecret publicKey) := by
  unfold SessionAction.join
  refine (laws.expect id _ _).bind fun _ => ?_
  refine (laws.enter _).bind fun _ => ?_
  have cleansUp :
      like.PerformsAlike like.fault (fun _ _ => True)
        (do
          SessionAction.report .error "Session server rejected the join!"
          SessionAction.change fun session =>
            { session with state := .authenticated, sharedSecret := none })
        (do
          SessionAction.report .error "Session server rejected the join!"
          SessionAction.change fun session =>
            { session with state := .authenticated, sharedSecret := none }) :=
    (laws.report _ _).bind fun _ => laws.giveUpSecret
  refine ((laws.announceJoin secrets asks).onFault fun _ => cleansUp).bind fun hashes => ?_
  refine (laws.storeJoin secrets hashes).bind fun _ => ?_
  refine (laws.profile id).bind fun profiles => ?_
  rw [(laws.player profiles).2]
  exact (laws.report _ _).bind fun _ => performsAlike_pure hashes

theorem lift_masked {faults : Fault → Fault → Prop} (sameFault : ∀ fault, faults fault fault)
    {one other : Tokens} (tokens : like.tokens one other) :
    like.PerformsAlike faults Eq (SessionAction.lift (Session.masked one.accessToken))
      (SessionAction.lift (Session.masked other.accessToken)) := by
  rw [laws.masked tokens]
  exact performsAlike_lift (.refl sameFault _)

theorem refresh
    {requestUser : Value}
    (asks :
      ∀ {one other}, like.tokens one other →
        like.AsksAlike like.fault
          (fun one other => like.issued one.1 other.1 ∧ Option.Rel like.named one.2 other.2)
          Config.authServer
          (fun server => Endpoint.refresh server one.accessToken one.clientToken requestUser)
          (fun server => Endpoint.refresh server other.accessToken other.clientToken requestUser)) :
    like.PerformsAlike like.fault like.issued (SessionAction.refresh requestUser)
      (SessionAction.refresh requestUser) := by
  unfold SessionAction.refresh
  refine (laws.expect id _ _).bind fun _ => ?_
  have exchanged :
      like.PerformsAlike like.fault
        (fun one other => like.issued one.1 other.1 ∧ Option.Rel like.named one.2 other.2)
        (SessionAction.exchangeTokens requestUser) (SessionAction.exchangeTokens requestUser) := by
    unfold SessionAction.exchangeTokens
    exact (laws.tokens id).bind fun tokens => laws.askAuthServer id (asks tokens)
  refine (exchanged.onFault fun _ => (laws.report _ _).bind fun _ => laws.reset).bind ?_
  rintro ⟨tokens, profile⟩ ⟨otherTokens, otherProfile⟩ ⟨issued, named⟩
  refine (laws.storeRenewal issued named).bind fun _ => ?_
  refine (laws.lift_masked laws.sameFault (laws.issued issued)).bind
    fun {token otherToken} same => ?_
  rw [same]
  exact (laws.report _ _).bind fun _ => performsAlike_pure issued

theorem validate
    (asks :
      ∀ {one other}, like.tokens one other →
        like.AsksAlike like.fault Eq Config.authServer
          (fun server => Endpoint.validate server one.accessToken one.clientToken)
          (fun server => Endpoint.validate server other.accessToken other.clientToken)) :
    like.PerformsAlike like.fault Eq SessionAction.validate SessionAction.validate := by
  unfold SessionAction.validate
  refine (laws.expect id _ _).bind fun _ => ?_
  exact (laws.tokens id).bind fun tokens => laws.askAuthServer id (asks tokens)

theorem invalidate
    (asks :
      ∀ {one other}, like.tokens one other →
        like.AsksAlike like.fault (fun _ _ => True) Config.authServer
          (fun server => Endpoint.invalidate server one.accessToken one.clientToken)
          (fun server => Endpoint.invalidate server other.accessToken other.clientToken)) :
    like.PerformsAlike like.fault (fun _ _ => True) SessionAction.invalidate
      SessionAction.invalidate := by
  unfold SessionAction.invalidate
  refine (laws.expect id _ _).bind fun _ => ?_
  refine (laws.tokens id).bind fun tokens => ?_
  have rest :
      ∀ {one other : Tokens}, like.tokens one other →
        like.PerformsAlike like.fault (fun _ _ => True)
          (do
            let token ← SessionAction.lift (Session.masked one.accessToken)
            SessionAction.report .info (SessionAction.forToken "Invalidated access token!" token)
            SessionAction.change Session.reset)
          (do
            let token ← SessionAction.lift (Session.masked other.accessToken)
            SessionAction.report .info (SessionAction.forToken "Invalidated access token!" token)
            SessionAction.change Session.reset) := by
    intro one other tokens
    refine (laws.lift_masked laws.sameFault tokens).bind fun {token otherToken} same => ?_
    rw [same]
    exact (laws.report _ _).bind fun _ => laws.reset
  simpa only [bind_assoc] using
    (laws.askAuthServer id (asks tokens)).bind fun _ => rest tokens

theorem signOut
    {username password otherPassword : Value}
    (asks :
      like.AsksAlike like.fault (fun _ _ => True) Config.authServer
        (fun server => Endpoint.signOut server username password)
        (fun server => Endpoint.signOut server username otherPassword)) :
    like.PerformsAlike like.fault (fun _ _ => True) (SessionAction.signOut username password)
      (SessionAction.signOut username otherPassword) := by
  unfold SessionAction.signOut
  simpa only [bind_assoc] using
    (laws.askAuthServer id asks).bind fun _ =>
      (laws.reportUser id _ _ _).bind fun _ => laws.reset

/-! ## The server's operation -/

theorem askAboutJoin
    {username serverId secret otherSecret publicKey address : Value}
    (secrets : like.secret secret otherSecret)
    (asks :
      ∀ {hash otherHash}, like.hash hash otherHash →
        like.AsksAlike like.unanswered (Option.Rel like.named) Config.sessionServer
          (fun server => Endpoint.hasJoined server username (.text hash) address)
          (fun server => Endpoint.hasJoined server username (.text otherHash) address)) :
    like.PerformsAlike like.unanswered
      (fun one other => like.hash one.1 other.1 ∧ Option.Rel like.named one.2 other.2)
      (SessionAction.askAboutJoin username serverId secret publicKey address)
      (SessionAction.askAboutJoin username serverId otherSecret publicKey address) := by
  unfold SessionAction.askAboutJoin
  have hashed := (laws.hashed serverId publicKey secrets).mono laws.unanswered id
  refine (performsAlike_lift hashed).bind fun hashes => ?_
  refine (performsAlike_lift (.refl (laws.sameFaults laws.unanswered) _)).bind fun _ => ?_
  refine (laws.reportHash hashes _ _).bind fun _ => ?_
  have asked := laws.askSessionServer laws.unanswered (asks hashes)
  simpa only [bind_assoc] using asked.bind fun answers => performsAlike_pure ⟨hashes, answers⟩

/-- The handler of an unanswered question rejects the client on both sides. -/
theorem rejectUnanswered
    {Result : Type}
    {results : Result → Result → Prop}
    {one other : Fault}
    (faults : like.unanswered one other)
    (username : Value) :
    like.PerformsAlike like.fault results (SessionAction.rejectUnanswered username one)
      (SessionAction.rejectUnanswered username other) := by
  obtain ⟨sameKind, rejected⟩ := laws.rejected faults
  have ends := rejected username
  unfold Situation.unansweredFault at ends
  unfold SessionAction.rejectUnanswered
  refine (laws.enter _).bind fun _ => ?_
  rw [← sameKind] at ends ⊢
  cases isUnanswered : one.isUnanswered with
  | true =>
      rw [isUnanswered] at ends
      exact (laws.reportUser id _ _ _).bind fun _ => performsAlike_throw ends
  | false =>
      rw [isUnanswered] at ends
      exact (laws.reportUser id _ _ _).bind fun _ => performsAlike_throw ends

theorem rejectUnconfirmed
    {Result : Type}
    {results : Result → Result → Prop}
    {one other : Option Profile}
    (answers : Option.Rel like.named one other)
    (username : Value) :
    like.PerformsAlike like.fault results (SessionAction.rejectUnconfirmed username one)
      (SessionAction.rejectUnconfirmed username other) := by
  have sameName : one.map Profile.username = other.map Profile.username := by
    cases answers with
    | some named =>
        exact congrArg some (laws.player (laws.named named)).2
    | none =>
        rfl
  unfold SessionAction.rejectUnconfirmed
  rw [sameName]
  refine (laws.enter _).bind fun _ => ?_
  exact (laws.reportUser id _ _ _).bind fun _ => performsAlike_throw (laws.sameFault _)

theorem confirm
    {hash otherHash : Text}
    {profile otherProfile : Profile}
    (hashes : like.hash hash otherHash)
    (named : like.named profile otherProfile) :
    like.PerformsAlike like.fault like.named (SessionAction.confirm hash profile)
      (SessionAction.confirm otherHash otherProfile) := by
  obtain ⟨sameUuid, sameName⟩ := laws.player (laws.named named)
  have line :
      SessionAction.forPlayer "Verified session!" profile =
        SessionAction.forPlayer "Verified session!" otherProfile := by
    rw [SessionAction.forPlayer, SessionAction.forPlayer, sameUuid, sameName]
  unfold SessionAction.confirm
  rw [line]
  refine (laws.storeVerified named hashes).bind fun _ => ?_
  exact (laws.report _ _).bind fun _ => performsAlike_pure named

theorem verify
    {username serverId secret otherSecret publicKey address : Value}
    (secrets : like.secret secret otherSecret)
    (asks :
      ∀ {hash otherHash}, like.hash hash otherHash →
        like.AsksAlike like.unanswered (Option.Rel like.named) Config.sessionServer
          (fun server => Endpoint.hasJoined server username (.text hash) address)
          (fun server => Endpoint.hasJoined server username (.text otherHash) address)) :
    like.PerformsAlike like.fault like.named
      (SessionAction.verify username serverId secret publicKey address)
      (SessionAction.verify username serverId otherSecret publicKey address) := by
  unfold SessionAction.verify
  refine (laws.expect id _ _).bind fun _ => ?_
  refine (laws.enter _).bind fun _ => ?_
  refine ((laws.askAboutJoin secrets asks).tryCatch fun faults =>
    laws.rejectUnanswered faults username).bind ?_
  rintro ⟨hash, answered⟩ ⟨otherHash, otherAnswered⟩ ⟨hashes, answers⟩
  simp only at hashes answers
  cases answers with
  | none =>
      exact laws.rejectUnconfirmed .none username
  | @some profile otherProfile named =>
      have sameName := (laws.player (laws.named named)).2
      simp only
      rw [← sameName]
      refine (performsAlike_lift (.refl laws.sameFault _)).bind fun {isSame otherIsSame} same => ?_
      rw [← same]
      cases isSame with
      | true =>
          exact laws.confirm hashes named
      | false =>
          exact laws.rejectUnconfirmed (.some named) username

theorem close :
    like.PerformsAlike like.fault (fun _ _ => True) SessionAction.close SessionAction.close := by
  intro before otherBefore situations
  rw [SessionAction.close, Situation.perform_bind, Situation.perform_bind,
    Situation.perform_session, Situation.perform_session]
  simp only
  have closed (closes otherCloses : Nat) := laws.closing closes otherCloses situations.outside
  cases before.session.ownsTransport <;> cases otherBefore.session.ownsTransport
  · exact ⟨.ok trivial, situations⟩
  · exact ⟨.ok trivial, { situations with
      outside := closed before.surroundings.closes _ }⟩
  · exact ⟨.ok trivial, { situations with
      outside := closed _ otherBefore.surroundings.closes }⟩
  · exact ⟨.ok trivial, { situations with outside := closed _ _ }⟩

/-! ## Calls and runs -/

/-- Calls that are alike end alike in situations that are alike. -/
theorem call_alike {one other : SessionCall} (calls : like.CallsAlike one other) :
    like.PerformsAlike like.fault like.ResultsAlike one.action other.action := by
  cases calls with
  | authenticate given asks =>
      refine (laws.authenticate given asks).bind ?_
      rintro ⟨tokens, profile⟩ ⟨otherTokens, otherProfile⟩ ⟨issued, named⟩
      exact performsAlike_pure (.identity issued named)
  | createSharedSecret =>
      exact laws.createSharedSecret.bind fun secrets => performsAlike_pure (.secret secrets)
  | encryptionResponse publicKey verifyToken =>
      exact (laws.encryptionResponse publicKey verifyToken).bind fun responses =>
        performsAlike_pure (.response responses)
  | join secrets asks =>
      exact (laws.join secrets asks).bind fun hashes => performsAlike_pure (.hash hashes)
  | refresh asks =>
      exact (laws.refresh asks).bind fun issued => performsAlike_pure (.tokens issued)
  | validate asks =>
      refine (laws.validate asks).bind fun {flag otherFlag} same => ?_
      rw [same]
      exact performsAlike_pure (.flag otherFlag)
  | invalidate asks =>
      exact (laws.invalidate asks).bind fun _ => performsAlike_pure .nothing
  | signOut asks =>
      exact (laws.signOut asks).bind fun _ => performsAlike_pure .nothing
  | verify secrets asks =>
      exact (laws.verify secrets asks).bind fun named => performsAlike_pure (.profile named)
  | close =>
      exact laws.close.bind fun _ => performsAlike_pure .nothing

end Laws

/-- Two turns that begin in situations that are alike, and end so. -/
structure TurnsAlike (one other : SessionTurn) : Prop where
  before : like.Alike one.before other.before
  outcome : OutcomesAlike like.fault like.ResultsAlike one.outcome other.outcome
  after : like.Alike one.after other.after

/-- Runs of calls that are alike stay alike, turn by turn. -/
theorem Laws.turns_alike
    {like : Likeness}
    (laws : like.Laws)
    {start otherStart : Situation}
    (situations : like.Alike start otherStart)
    {calls otherCalls : List SessionCall}
    (alike : List.Forall₂ like.CallsAlike calls otherCalls) :
    List.Forall₂ like.TurnsAlike (start.turns calls) (otherStart.turns otherCalls) := by
  induction alike generalizing start otherStart with
  | nil =>
      exact .nil
  | @cons first second rest otherRest firstAlike _ inductionHypothesis =>
      obtain ⟨outcomes, after⟩ := laws.call_alike firstAlike start otherStart situations
      exact .cons ⟨situations, outcomes, after⟩ (inductionHypothesis after)

end Likeness

end SessionHandshake
