import SessionHandshake.Proofs.Confirmation
import SessionHandshake.Proofs.Session.Rest
import SessionHandshake.Proofs.Session.Result

namespace SessionHandshake

/-!
# Who is let in

A client is let in exactly if the session server names it in answer to the one
question about its join.  `Situation.Confirms` says what such an answer is, and
`Situation.Rejects` lists every other thing that can come of the question,
each with the fault that the caller gets for it.
-/

/-- The question to the session server whether a player has joined. -/
def Session.joinQuestion (session : Session) (username hash : Text) (address : Value) : Request :=
  .get (.text (session.sessionServer.shown ++ ("/session/minecraft/hasJoined" : Text)))
    (.mapping ([
      (Value.ofString "username", .text username),
      (Value.ofString "serverId", .text hash)] ++
        if address.isNull then [] else [(Value.ofString "ip", address)]))

theorem Session.hasJoined_request
    (session : Session)
    (username hash : Text)
    (address : Value) :
    (Endpoint.hasJoined session.sessionServer (.text username) (.text hash) address).request =
      session.joinQuestion username hash address := by
  simp only [Endpoint.hasJoined, Endpoint.joinParameters, Session.joinQuestion]
  cases address.isNull <;> rfl

namespace Situation

/-- What comes back for the question about a join, which needs a server that has a name. -/
def joinAnswer (situation : Situation) (username hash : Text) (address : Value) :
    Except Fault Value := do
  situation.session.sessionServer.checkShown
  situation.session.transport.outcome (situation.session.joinQuestion username hash address)
    situation.surroundings.replies

/-- The session server names the player that a client claims to be. -/
structure Confirms
    (situation : Situation)
    (username hash : Text)
    (address : Value)
    (profile : Profile) : Prop where
  answered :
    ∃ body,
      situation.joinAnswer username hash address = .ok body ∧
      body.isBlankBody = .ok false ∧
      body.HoldsProfile profile
  named :
    ∃ name, profile.username = .text name ∧ Text.lowercase name = Text.lowercase username

/-- The session server does not name the player, for which the caller gets a fault. -/
inductive Rejects (situation : Situation) (username hash : Text) (address : Value) :
    Fault → Prop where
  | unanswered {cause : Fault} :
      situation.joinAnswer username hash address = .error cause →
      cause.isUnanswered = true →
      Rejects situation username hash address
        (.refused .verification (.unverified (.text username)) RefusalDetails.none (some cause))
  | failed {cause : Fault} :
      situation.joinAnswer username hash address = .error cause →
      cause.isUnanswered = false →
      Rejects situation username hash address cause
  | blank {body : Value} :
      situation.joinAnswer username hash address = .ok body →
      body.isBlankBody = .ok true →
      Rejects situation username hash address
        (.refused .verification (.unconfirmed (.text username) none) RefusalDetails.none none)
  | malformed {body : Value} {problem : Malformation} {cause : Option Fault} :
      situation.joinAnswer username hash address = .ok body →
      body.isBlankBody = .ok false →
      ¬ body.NestsTooDeep →
      (∀ profile, ¬ body.HoldsProfile profile) →
      Rejects situation username hash address
        (.refused .verification (.unverified (.text username)) RefusalDetails.none
          (some (.malformedResponse problem cause)))
  | nestsTooDeep {body : Value} :
      situation.joinAnswer username hash address = .ok body →
      body.isBlankBody = .ok false →
      body.NestsTooDeep →
      body.OpensTooMany →
      Rejects situation username hash address .tooDeep
  | otherName {body : Value} {profile : Profile} {name : Text} :
      situation.joinAnswer username hash address = .ok body →
      body.isBlankBody = .ok false →
      body.HoldsProfile profile →
      profile.username = .text name →
      Text.lowercase name ≠ Text.lowercase username →
      Rejects situation username hash address
        (.refused .verification (.unconfirmed (.text username) (some (.text name)))
          RefusalDetails.none none)

variable {before : Situation} {username hash : Text} {address : Value}

/-- An answer that confirms a client is none that rejects it. -/
theorem Confirms.not_rejects
    {profile : Profile}
    {fault : Fault}
    (confirms : before.Confirms username hash address profile) :
    ¬ before.Rejects username hash address fault := by
  obtain ⟨body, answered, notBlank, holds⟩ := confirms.answered
  intro rejects
  cases rejects with
  | unanswered failed =>
      cases answered.symm.trans failed
  | failed failed =>
      cases answered.symm.trans failed
  | blank answeredBlank isBlank =>
      cases answered.symm.trans answeredBlank
      cases notBlank.symm.trans isBlank
  | malformed answeredOther _ _ holdsNone =>
      cases answered.symm.trans answeredOther
      exact holdsNone profile holds
  | nestsTooDeep answeredOther _ tooDeep _ =>
      cases answered.symm.trans answeredOther
      exact holds.not_nestsTooDeep tooDeep
  | @otherName _ other _ answeredOther _ holdsOther isText different =>
      cases answered.symm.trans answeredOther
      cases holds.unique holdsOther
      obtain ⟨name, isName, sameName⟩ := confirms.named
      cases isText.symm.trans isName
      exact different sameName

/-- What the question about a join ends with does not depend on what is done around it. -/
theorem perform_askAboutJoin_outcome
    (situation : Situation)
    (username : Text)
    (address : Value)
    {serverId secret publicKey : Value}
    (hashed : Digest.ofServerValues Hasher.sha1 serverId secret publicKey = .ok hash) :
    (situation.perform
        (SessionAction.askAboutJoin (.text username) serverId secret publicKey address)).1 =
      match situation.joinAnswer username hash address with
      | .error fault => .error fault
      | .ok body =>
          ((Endpoint.hasJoined situation.session.sessionServer (.text username) (.text hash)
            address).read (.ok body)).map (hash, ·) := by
  rw [perform_askAboutJoin_fst]
  simp only [confirmation, joinAnswer, answerTo, hashed,
    (Value.isShowable_text username).checkShown, ok_bind, Session.hasJoined_request]
  cases situation.session.sessionServer.checkShown with
  | error fault =>
      rfl
  | ok _ =>
      simp only [ok_bind]
      cases situation.session.transport.outcome
          (situation.session.joinQuestion username hash address)
          situation.surroundings.replies with
      | error fault =>
          rfl
      | ok body =>
          rfl

/-- What a verification ends with, given what comes back for its question. -/
theorem verify_outcome
    (username : Text)
    (address : Value)
    {serverId secret publicKey : Value}
    (isUnauthenticated : before.session.state = .unauthenticated)
    (hashed : Digest.ofServerValues Hasher.sha1 serverId secret publicKey = .ok hash)
    (answersBytes :
      ∀ body,
        before.joinAnswer username hash address = .ok body →
        ∃ content, body = .bytes content) :
    (∃ profile,
        before.Confirms username hash address profile ∧
        (before.call (.verify (.text username) serverId secret publicKey address)).1 =
          .ok (.profile profile)) ∨
      ∃ fault,
        before.Rejects username hash address fault ∧
        (before.call (.verify (.text username) serverId secret publicKey address)).1 =
          .error fault := by
  have judges :=
    verify_judges isUnauthenticated (.text username) serverId secret publicKey address
  have asked := perform_askAboutJoin_outcome (before.entering .verifying) username address hashed
  have sameAnswer :
      (before.entering .verifying).joinAnswer username hash address =
        before.joinAnswer username hash address :=
    rfl
  simp only [asked, sameAnswer] at judges
  generalize before.call (.verify (.text username) serverId secret publicKey address) = ended
    at judges ⊢
  obtain ⟨outcome, after⟩ := ended
  cases answered : before.joinAnswer username hash address with
  | error cause =>
      simp only [answered] at judges
      cases judges with
      | unanswered _ =>
          rw [faultNaming_text]
          refine .inr ⟨_, ?_, rfl⟩
          cases isUnanswered : cause.isUnanswered with
          | true =>
              simp only [unansweredFault, isUnanswered, if_true]
              exact .unanswered answered isUnanswered
          | false =>
              simp only [unansweredFault, isUnanswered, Bool.false_eq_true, if_false]
              exact .failed answered isUnanswered
  | ok body =>
      obtain ⟨content, rfl⟩ := answersBytes body answered
      simp only [answered] at judges
      cases read : (Endpoint.hasJoined (before.entering .verifying).session.sessionServer
          (.text username) (.text hash) address).read (.ok (.bytes content)) with
      | error fault =>
          simp only [read, Except.map] at judges
          obtain ⟨isFull, failed⟩ := Endpoint.hasJoined_read_failed read
          have notBlank := Value.isBlankBody_eq_false_iff.mpr isFull
          cases judges with
          | unanswered _ =>
              rw [faultNaming_text]
              rcases failed with ⟨followable, noProfile, problem, cause, rfl⟩ | ⟨tooDeep, rfl⟩
              · exact .inr ⟨_, .malformed answered notBlank followable noProfile, rfl⟩
              · exact .inr ⟨_, .nestsTooDeep answered notBlank tooDeep tooDeep.opensTooMany,
                  rfl⟩
      | ok found =>
          simp only [read, Except.map] at judges
          rcases Endpoint.hasJoined_read_eq_ok read with
            ⟨isBlank, rfl⟩ | ⟨notBlank, profile, holds, rfl⟩
          · cases judges with
            | unnamed _ =>
                rw [faultNaming_text]
                exact .inr ⟨_, .blank answered isBlank, rfl⟩
          · obtain ⟨entries, _, described⟩ := id holds
            obtain ⟨name, _, _, isText⟩ := described.username
            have compared :
                sameName profile.username (.text username) =
                  .ok (decide (Text.lowercase name = Text.lowercase username)) := by
              rw [isText]
              rfl
            cases judges with
            | uncomparable uncomparable =>
                cases compared.symm.trans uncomparable
            | otherName different _ =>
                have isOther :=
                  of_decide_eq_false (Except.ok.inj (compared.symm.trans different))
                rw [faultNaming_text, unconfirmedFault, Option.map_some, isText]
                exact .inr ⟨_, .otherName answered notBlank holds isText isOther, rfl⟩
            | confirmed same =>
                have isSame := of_decide_eq_true (Except.ok.inj (compared.symm.trans same))
                exact .inl ⟨profile, ⟨⟨_, answered, notBlank, holds⟩, name, isText, isSame⟩, rfl⟩

/-- The requests after a verification: at most one more, which asks about the join. -/
def AsksAboutJoin
    (before : Situation)
    (username hash : Text)
    (address : Value)
    (after : Situation) : Prop :=
  ∃ handed,
    handed.AsksAboutJoin before.session.sessionServer (.text username) (.text hash) address ∧
    after.surroundings.requests =
      before.surroundings.requests ++ [{ state := .verifying, request := handed }]

/-- A server asks about a hash, wherever it can ask, and keeps it once it lets the client in. -/
structure GoesBy
    (server : Situation)
    (username hash : Text)
    (address : Value)
    (outcome : Except Fault SessionResult)
    (after : Situation) : Prop where
  asks :
    after.surroundings.requests = server.surroundings.requests ∨
      server.AsksAboutJoin username hash address after
  asked :
    ∀ handed,
      server.session.sessionServer.checkShown = .ok () →
      server.session.transport.handedOver?
        (server.session.joinQuestion username hash address) = some handed →
      server.AsksAboutJoin username hash address after
  remembers : ∀ result, outcome = .ok result → after.session.serverHash = some hash

end Situation

/-- How a verification has ended: with the profile of the session server, or with a fault. -/
structure Verification
    (before : Situation)
    (username hash : Text)
    (address : Value)
    (outcome : Except Fault SessionResult)
    (after : Situation) : Prop where
  goesBy : before.GoesBy username hash address outcome after
  granted_iff :
    (∃ result, outcome = .ok result) ↔
      ∃ profile, before.Confirms username hash address profile
  granted :
    ∀ result,
      outcome = .ok result →
      ∃ profile,
        result = .profile profile ∧
        before.Confirms username hash address profile ∧
        before.AsksAboutJoin username hash address after ∧
        after.session = { before.session with
          state := .verified
          profile := some profile
          serverHash := some hash }
  rejected :
    ∀ fault,
      outcome = .error fault →
      before.Rejects username hash address fault ∧
        after.session = { before.session with state := .rejected } ∧
        after.session.tokens = none ∧
        after.session.profile = none ∧
        after.session.serverHash = none

namespace Situation

variable {before : Situation} {username hash : Text} {serverId secret publicKey address : Value}

/-- What is done about an answer sends nothing. -/
theorem verify_requests
    {username serverId secret publicKey address : Value}
    (isUnauthenticated : before.session.state = .unauthenticated) :
    (before.call (.verify username serverId secret publicKey address)).2.surroundings.requests =
      ((before.entering .verifying).perform
        (SessionAction.askAboutJoin username serverId secret publicKey
          address)).2.surroundings.requests := by
  have judges := verify_judges isUnauthenticated username serverId secret publicKey address
  generalize before.call (.verify username serverId secret publicKey address) = ended
    at judges ⊢
  generalize (before.entering .verifying).perform
    (SessionAction.askAboutJoin username serverId secret publicKey address) = question
    at judges ⊢
  obtain ⟨outcome, after⟩ := ended
  obtain ⟨answered, asked⟩ := question
  cases judges with
  | unanswered reports =>
      exact reports.requests_eq
  | unnamed reports =>
      exact reports.requests_eq
  | uncomparable _ =>
      rfl
  | otherName _ reports =>
      exact reports.requests_eq
  | confirmed _ =>
      rfl

/-- The question about a join is sent wherever it can be. -/
theorem verify_asks
    {username hash : Text}
    {serverId secret publicKey address : Value}
    {handed : SentRequest}
    (isUnauthenticated : before.session.state = .unauthenticated)
    (hashed : Digest.ofServerValues Hasher.sha1 serverId secret publicKey = .ok hash)
    (shown : before.session.sessionServer.checkShown = .ok ())
    (given :
      before.session.transport.handedOver? (before.session.joinQuestion username hash address) =
        some handed) :
    before.AsksAboutJoin username hash address
      (before.call (.verify (.text username) serverId secret publicKey address)).2 := by
  have posed := given
  rw [← Session.hasJoined_request] at posed
  refine ⟨handed, SentRequest.asksAboutJoin_of_handedOver posed, ?_⟩
  rw [verify_requests isUnauthenticated]
  simp only [SessionAction.askAboutJoin, perform_bind, perform_lift, hashed,
    (Value.isShowable_text username).checkShown, perform_report, perform_sessionServer,
    perform_pure, perform_send]
  generalize isTold : (before.entering .verifying).reporting .debug _ = told
  have toldSession : told.session = { before.session with state := .verifying } := by
    rw [← isTold]
    rfl
  have toldServer : told.session.sessionServer = before.session.sessionServer := by
    rw [toldSession]
    rfl
  have toldRequests : told.surroundings.requests = before.surroundings.requests := by
    rw [← isTold]
    rfl
  have asked := (told.grows_asking (before.session.joinQuestion username hash address)).requests
  simp only [sending, toldSession, given, toldRequests] at asked
  simp only [toldServer, shown, Except.map, Session.hasJoined_request]
  cases (Endpoint.hasJoined before.session.sessionServer (.text username) (.text hash)
      address).read
    (told.exchange (before.session.joinQuestion username hash address)).outcome with
  | error fault =>
      exact asked
  | ok answered =>
      exact asked

/-- A verification that lets the client in has asked once and keeps what it was told. -/
theorem verify_granted
    {after : Situation}
    {result : SessionResult}
    (hashed : Digest.ofServerValues Hasher.sha1 serverId secret publicKey = .ok hash)
    (step :
      SessionStep before (.verify (.text username) serverId secret publicKey address)
        (.ok result) after) :
    ∃ profile,
      result = .profile profile ∧
      before.AsksAboutJoin username hash address after ∧
      after.session = { before.session with
        state := .verified
        profile := some profile
        serverHash := some hash } := by
  cases step with
  | @verified _ _ _ _ _ _ handed _ profile _ _ hashedToo given _ leads =>
      cases hashed.symm.trans hashedToo
      exact ⟨profile, rfl, ⟨handed, SentRequest.asksAboutJoin_of_handedOver given,
        leads.grows.requests⟩, leads.session_eq⟩

/-- A verification that rejects the client has asked at most once and changes only the state. -/
theorem verify_rejected
    {after : Situation}
    {fault : Fault}
    (isUnauthenticated : before.session.state = .unauthenticated)
    (hashed : Digest.ofServerValues Hasher.sha1 serverId secret publicKey = .ok hash)
    (step :
      SessionStep before (.verify (.text username) serverId secret publicKey address)
        (.error fault) after) :
    (after.surroundings.requests = before.surroundings.requests ∨
        before.AsksAboutJoin username hash address after) ∧
      after.session = { before.session with state := .rejected } := by
  cases step with
  | refused gated impossible =>
      cases gated
      exact (impossible (List.mem_singleton.mpr isUnauthenticated)).elim
  | unjudged _ uncomparable _ =>
      cases uncomparable
  | rejected _ leads =>
      refine ⟨?_, leads.session_eq⟩
      have requests := leads.grows.requests
      cases leads.sends with
      | nothing =>
          rw [List.append_nil] at requests
          exact .inl requests
      | @one _ handed posed given =>
          obtain ⟨hashToo, hashedToo, rfl⟩ := posed
          cases hashed.symm.trans hashedToo
          exact .inr ⟨handed, SentRequest.asksAboutJoin_of_handedOver given, requests⟩

/-- Whatever is answered, the server has asked about the hash of what it was given. -/
theorem goesBy_of_verify
    (username : Text)
    (address : Value)
    (isUnauthenticated : before.session.state = .unauthenticated)
    (hashed : Digest.ofServerValues Hasher.sha1 serverId secret publicKey = .ok hash) :
    before.GoesBy username hash address
      (before.call (.verify (.text username) serverId secret publicKey address)).1
      (before.call (.verify (.text username) serverId secret publicKey address)).2 := by
  have step := before.call_step (.verify (.text username) serverId secret publicKey address)
  have asked :
      ∀ handed,
        before.session.sessionServer.checkShown = .ok () →
        before.session.transport.handedOver?
          (before.session.joinQuestion username hash address) = some handed →
        before.AsksAboutJoin username hash address
          (before.call (.verify (.text username) serverId secret publicKey address)).2 :=
    fun _ shown given => verify_asks isUnauthenticated hashed shown given
  generalize before.call (.verify (.text username) serverId secret publicKey address) = ended
    at step asked ⊢
  obtain ⟨outcome, after⟩ := ended
  cases outcome with
  | ok result =>
      obtain ⟨profile, _, asks, session⟩ := verify_granted hashed step
      refine ⟨.inr asks, asked, ?_⟩
      intro _ _
      rw [session]
  | error fault =>
      obtain ⟨asks, _⟩ := verify_rejected isUnauthenticated hashed step
      refine ⟨asks, asked, ?_⟩
      intro _ isResult
      cases isResult

/-- What comes back for the question is the body of the next reply. -/
theorem joinAnswer_bytes
    (answersBytes :
      ∀ status body rest,
        before.surroundings.replies = .answered status body :: rest →
        ∃ content, body = .bytes content)
    (body : Value)
    (answered : before.joinAnswer username hash address = .ok body) :
    ∃ content, body = .bytes content := by
  obtain ⟨_, _, answered⟩ := bind_eq_ok_iff.mp answered
  obtain ⟨_, status, rest, replies, _⟩ := Transport.outcome_eq_ok answered
  exact answersBytes status body rest replies

/--
A client is let in exactly if the session server confirms its join, and is
rejected in every other case.
-/
theorem Reached.verification
    {secret publicKey : Bytes}
    (reached : before.Reached)
    (isUnauthenticated : before.session.state = .unauthenticated)
    (isServerId : serverId.IsServerId)
    (encodable :
      ∀ content, serverId = .text content → content.any CodePoint.isSurrogate = false)
    (answersBytes :
      ∀ status body rest,
        before.surroundings.replies = .answered status body :: rest →
        ∃ content, body = .bytes content) :
    ∃ hash,
      Digest.ofServerValues Hasher.sha1 serverId (.bytes secret) (.bytes publicKey) = .ok hash ∧
        Verification before username hash address
          (before.call
            (.verify (.text username) serverId (.bytes secret) (.bytes publicKey) address)).1
          (before.call
            (.verify (.text username) serverId (.bytes secret) (.bytes publicKey) address)).2 := by
  obtain ⟨identifier, encoded⟩ := isServerId.exists_serverIdBytes encodable
  have hashed := Digest.ofServerValues_bytes encoded secret publicKey
  refine ⟨_, hashed, ?_⟩
  have step := before.call_step
    (.verify (.text username) serverId (.bytes secret) (.bytes publicKey) address)
  have ends := verify_outcome username address isUnauthenticated hashed
    (joinAnswer_bytes answersBytes)
  have goesBy := goesBy_of_verify username address isUnauthenticated hashed
  obtain ⟨tokens, profile, serverHash⟩ := reached.of_unauthenticated isUnauthenticated
  generalize before.call
    (.verify (.text username) serverId (.bytes secret) (.bytes publicKey) address) = ended
    at step ends goesBy ⊢
  obtain ⟨outcome, after⟩ := ended
  rcases ends with ⟨named, confirms, rfl⟩ | ⟨fault, rejects, rfl⟩
  · obtain ⟨kept, same, asks, session⟩ := verify_granted hashed step
    cases same
    exact {
      goesBy := goesBy
      granted_iff := ⟨fun _ => ⟨named, confirms⟩, fun _ => ⟨_, rfl⟩⟩
      granted := by
        intro result isResult
        cases isResult
        exact ⟨named, rfl, confirms, asks, session⟩
      rejected := by
        intro fault isFault
        cases isFault }
  · obtain ⟨_, session⟩ := verify_rejected isUnauthenticated hashed step
    exact {
      goesBy := goesBy
      granted_iff := by
        constructor
        · rintro ⟨result, isResult⟩
          cases isResult
        · rintro ⟨profile, confirms⟩
          exact (confirms.not_rejects rejects).elim
      granted := by
        intro result isResult
        cases isResult
      rejected := by
        intro other isOther
        cases isOther
        refine ⟨rejects, session, ?_⟩
        rw [session]
        exact ⟨tokens, profile, serverHash⟩ }

/-- A client is let in under the spelling of the session server. -/
theorem verification_otherSpelling :
    let before := Situation.quiet [Reply.written
      "\x7b\"id\": \"069a79f444e94726a5befca90e38aaf5\", \"name\": \"Notch\"\x7d"]
    let call : SessionCall :=
      .verify (.text "nOTCH") (.text []) (.bytes []) (.bytes [1]) .null
    (before.call call).2.session.state = .verified ∧
      ∃ hash,
        Digest.ofServerValues Hasher.sha1 (.text []) (.bytes []) (.bytes [1]) = .ok hash ∧
          Verification before "nOTCH" hash .null (before.call call).1 (before.call call).2 := by
  refine ⟨by decide +kernel, Reached.verification (.begun (Situation.quiet_begins _)) rfl
    (.inl ⟨[], rfl⟩) ?_ ?_⟩
  · intro content same
    cases same
    rfl
  · intro status body rest replies
    cases replies
    exact ⟨_, rfl⟩

end Situation

end SessionHandshake
