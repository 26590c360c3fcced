import SessionHandshake.Proofs.Request
import SessionHandshake.Proofs.Session.Opening

namespace SessionHandshake

/-!
# The web and the direct transport

A session behaves over the web as it does over a transport that hands each request
over as it is: whatever the servers answer, both end with the same results, with
faults that differ at most in the wording of a failed request, and keep the same.
-/

/-- Two faults that differ at most in the wording of the failed request behind them. -/
inductive Fault.Corresponds : Fault → Fault → Prop where
  | same (fault : Fault) :
      Corresponds fault fault
  | transport
      (message otherMessage : Text) (status body : Value) (cause otherCause : Option Fault) :
      Corresponds (.transport message status body cause)
        (.transport otherMessage status body otherCause)
  | refused {one other : Fault} (refusal : Refusal) (reason : RefusalReason)
      (details : RefusalDetails) :
      Corresponds one other →
      Corresponds (.refused refusal reason details (some one))
        (.refused refusal reason details (some other))

/-- What servers may answer: any status with any bytes, or nothing at all. -/
def Reply.IsCarried : Reply → Prop
  | .answered _ body =>
      ∃ content, body = .bytes content
  | .failed fault =>
      ∃ message, fault = .unreachable message

/-- Outcomes of one request over both transports: the same body, or a failed request. -/
inductive Transport.Delivers : Except Fault Value → Except Fault Value → Prop where
  | body (body : Value) :
      Delivers (.ok body) (.ok body)
  | failed (message otherMessage : Text) (status body : Value) (cause otherCause : Option Fault) :
      Delivers (.error (.transport message status body cause))
        (.error (.transport otherMessage status body otherCause))

namespace Transport

theorem webOutcome_delivers (request : Request) {reply : Reply} (isCarried : reply.IsCarried) :
    Delivers (webOutcome request reply) (directOutcome reply) := by
  cases reply with
  | answered status body =>
      obtain ⟨content, rfl⟩ := isCarried
      have hasLength : (Value.bytes content).length?.isNone = false := rfl
      rw [webOutcome, directOutcome, hasLength]
      simp only [Bool.false_eq_true, if_false, isSuccess_iff]
      split
      · exact .body _
      · exact .failed _ _ _ _ _ _
  | failed fault =>
      obtain ⟨message, rfl⟩ := isCarried
      exact .failed _ _ _ _ _ _

end Transport

theorem Fault.corresponds_refusedOnAccountOf
    {one other : Fault}
    (causes : Corresponds one other)
    (refusal : Refusal)
    (reason : RefusalReason)
    (body : Value) :
    Corresponds (refusedOnAccountOf refusal reason body (some one))
      (refusedOnAccountOf refusal reason body (some other)) := by
  unfold refusedOnAccountOf
  cases RefusalDetails.ofBody body with
  | ok details =>
      exact .refused refusal reason details causes
  | error fault =>
      exact .same fault

/-! ## Reading what was delivered -/

/-- An endpoint reads alike whatever is delivered alike. -/
def Endpoint.ReadsAlike {Result : Type} (endpoint : Endpoint Result) : Prop :=
  ∀ {one other},
    Transport.Delivers one other →
    OutcomesAlike Fault.Corresponds Eq (endpoint.read one) (endpoint.read other)

namespace Endpoint

theorem readsAlike_authenticate (server username password clientToken requestUser : Value) :
    (authenticate server username password clientToken requestUser).ReadsAlike := by
  intro one other delivers
  cases delivers with
  | body body =>
      exact .refl .same _
  | failed message otherMessage status body cause otherCause =>
      exact .error (Fault.corresponds_refusedOnAccountOf (.transport _ _ _ _ _ _) _ _ body)

theorem readsAlike_refresh (server accessToken clientToken requestUser : Value) :
    (refresh server accessToken clientToken requestUser).ReadsAlike := by
  intro one other delivers
  cases delivers with
  | body body =>
      exact .refl .same _
  | failed message otherMessage status body cause otherCause =>
      exact .error (Fault.corresponds_refusedOnAccountOf (.transport _ _ _ _ _ _) _ _ body)

theorem readsAlike_validate (server accessToken clientToken : Value) :
    (validate server accessToken clientToken).ReadsAlike := by
  intro one other delivers
  cases delivers with
  | body body =>
      exact .refl .same _
  | failed message otherMessage status body cause otherCause =>
      simp only [validate]
      split
      · exact .ok rfl
      · exact .error (.transport _ _ _ _ _ _)

theorem readsAlike_signOut (server username password : Value) :
    (signOut server username password).ReadsAlike := by
  intro one other delivers
  cases delivers with
  | body body =>
      exact .refl .same _
  | failed message otherMessage status body cause otherCause =>
      exact .error (Fault.corresponds_refusedOnAccountOf (.transport _ _ _ _ _ _) _ _ body)

theorem readsAlike_invalidate (server accessToken clientToken : Value) :
    (invalidate server accessToken clientToken).ReadsAlike := by
  intro one other delivers
  cases delivers with
  | body body =>
      exact .refl .same _
  | failed message otherMessage status body cause otherCause =>
      exact .error (.transport _ _ _ _ _ _)

/-- The fault of a refused join depends on its cause in nothing but naming it. -/
theorem joinFault_corresponds
    {one other : Fault}
    (causes : Fault.Corresponds one other)
    (status body : Value) :
    OutcomesAlike Eq Fault.Corresponds (joinFault status body (some one))
      (joinFault status body (some other)) := by
  unfold joinFault
  refine .bind_self (fun _ => rfl) fun details => ?_
  refine .bind_self (fun _ => rfl) fun refusal => ?_
  cases refusal with
  | none =>
      exact .ok (.refused _ _ details causes)
  | some refusal =>
      exact .ok (.refused _ _ details causes)

theorem readsAlike_join (server accessToken profileId serverHash : Value) :
    (join server accessToken profileId serverHash).ReadsAlike := by
  intro one other delivers
  cases delivers with
  | body body =>
      exact .refl .same _
  | failed message otherMessage status body cause otherCause =>
      have faults :=
        joinFault_corresponds (.transport message otherMessage status body cause otherCause)
          status body
      simp only [join]
      revert faults
      cases joinFault status body (some (.transport message status body cause)) <;>
        cases joinFault status body (some (.transport otherMessage status body otherCause)) <;>
        intro faults <;> cases faults
      · next same =>
          rw [same]
          exact .error (.same _)
      · next corresponds =>
          exact .error corresponds

theorem readsAlike_hasJoined (server username serverHash address : Value) :
    (hasJoined server username serverHash address).ReadsAlike := by
  intro one other delivers
  cases delivers with
  | body body =>
      exact .refl .same _
  | failed message otherMessage status body cause otherCause =>
      exact .error (.transport _ _ _ _ _ _)

end Endpoint

/-! ## What the two sessions have in common -/

/-- Both servers of a configuration have addresses to which paths can be added. -/
structure Config.HasServers (config : Config) : Prop where
  auth : config.authServer.IsBase
  session : config.sessionServer.IsBase

/-- Both tokens are texts. -/
structure Tokens.AreTexts (tokens : Tokens) : Prop where
  accessToken : tokens.accessToken.isText
  clientToken : tokens.clientToken.isText

/-- One situation over the web, and one alike over the direct transport. -/
structure Situation.Carried (web direct : Situation) : Prop where
  isWeb : ∃ timeout userAgent, web.session.transport = .web timeout userAgent
  isDirect : direct.session.transport = .direct
  random : web.surroundings.random = direct.surroundings.random
  drawn : web.surroundings.drawn = direct.surroundings.drawn
  padding : web.surroundings.padding = direct.surroundings.padding
  replies : web.surroundings.replies = direct.surroundings.replies
  areCarried : ∀ reply ∈ web.surroundings.replies, reply.IsCarried
  isDebugging :
    web.surroundings.console.isDebugging = direct.surroundings.console.isDebugging
  printed :
    web.surroundings.console.isDebugging = false →
      web.surroundings.console.printed = direct.surroundings.console.printed

/-- Two sessions that differ in the transport alone. -/
def Likeness.carriers : Likeness where
  config one other := one = other ∧ one.HasServers
  tokens one other := one = other ∧ one.AreTexts
  issued one other := one = other ∧ one.AreTexts
  profile one other := one = other ∧ one.uuid.isText
  named one other := one = other ∧ one.uuid.isText
  clientToken one other := one = other ∧ one.isText
  secret := Eq
  hash one other := one = other ∧ one.IsScalar
  response := Eq
  fault := Fault.Corresponds
  unanswered := Fault.Corresponds
  outside := Situation.Carried

theorem Fault.Corresponds.rejected {one other : Fault} (corresponds : one.Corresponds other) :
    one.isUnanswered = other.isUnanswered ∧
      ∀ username,
        Corresponds (Situation.unansweredFault username one)
          (Situation.unansweredFault username other) := by
  have sameKind : one.isUnanswered = other.isUnanswered := by
    cases corresponds <;> rfl
  refine ⟨sameKind, fun username => ?_⟩
  unfold Situation.unansweredFault
  rw [sameKind]
  split
  · exact .refused _ _ _ corresponds
  · exact corresponds

theorem Console.report_printed_eq
    {one other : Console}
    (sameDebugging : one.isDebugging = other.isDebugging)
    (samePrinted : one.isDebugging = false → one.printed = other.printed)
    (level : LogLevel)
    (message : Text) :
    (one.report level message).isDebugging = (other.report level message).isDebugging ∧
      ((one.report level message).isDebugging = false →
        (one.report level message).printed = (other.report level message).printed) := by
  have sameShows : one.shows level = other.shows level := by
    rw [shows, shows, sameDebugging]
  unfold report
  rw [sameShows]
  split
  · exact ⟨sameDebugging, fun quiet => congrArg (· ++ line level message) (samePrinted quiet)⟩
  · exact ⟨sameDebugging, samePrinted⟩

/-- The steps of a session do not tell the two transports apart. -/
theorem Likeness.carriers_laws : Likeness.carriers.Laws where
  sameFault := .same
  unanswered := id
  rejected := Fault.Corresponds.rejected
  servers := by
    rintro one _ ⟨rfl, _⟩
    exact ⟨rfl, rfl⟩
  issued := id
  named := id
  masked := by
    rintro one _ ⟨rfl, _⟩
    rfl
  player := by
    rintro one _ ⟨rfl, _⟩
    exact ⟨rfl, rfl⟩
  drawnSecret := by
    intro one other outside
    rw [outside.random, outside.drawn]
    exact .self .same fun _ _ => rfl
  drawnToken := by
    intro one other outside
    rw [outside.random, outside.drawn]
    exact .self .same fun _ _ => ⟨rfl, rfl⟩
  drawing := fun length outside => { outside with
    drawn := congrArg (fun drawn : List Value => drawn ++ [.int length]) outside.drawn }
  padding := Situation.Carried.padding
  padded := fun padding outside => { outside with padding := rfl }
  encrypted := by
    rintro one _ padding publicKey verifyToken rfl
    exact .refl Fault.Corresponds.same _
  hashed := by
    rintro one _ serverId publicKey rfl
    exact .self .same fun hash hashed =>
      ⟨rfl, Digest.isScalar_of_ofServerValues hashed⟩
  withSession := by
    intro one other update otherUpdate keeps otherKeeps outside
    obtain ⟨timeout, userAgent, isWeb⟩ := outside.isWeb
    exact { outside with
      isWeb := ⟨timeout, userAgent, (keeps one.session).trans isWeb⟩
      isDirect := (otherKeeps other.session).trans outside.isDirect }
  reporting := by
    intro one other level message outside
    obtain ⟨sameDebugging, samePrinted⟩ :=
      Console.report_printed_eq outside.isDebugging outside.printed level message
    exact { outside with
      isDebugging := sameDebugging
      printed := samePrinted }
  hashReported := by
    rintro one other first _ before after outside ⟨rfl, _⟩
    obtain ⟨sameDebugging, samePrinted⟩ :=
      Console.report_printed_eq outside.isDebugging outside.printed .debug
        (before ++ first ++ after)
    exact { outside with
      isDebugging := sameDebugging
      printed := samePrinted }
  closing := fun _ _ outside => { outside with }

/-! ## What the servers are asked -/

/-- With debugging off, an exchange prints nothing. -/
theorem Transport.webExchange_console_of_quiet
    {console : Console}
    (quiet : console.isDebugging = false)
    (timeout : Value)
    (userAgent : Option Text)
    (request : Request)
    (replies : List Reply) :
    (webExchange timeout userAgent request replies console).console = console := by
  have replyHidden (reply : Reply) : replyReported console reply = console := by
    unfold replyReported
    split
    · split
      · exact Console.report_debug_of_quiet quiet _
      · rfl
    · rfl
  unfold webExchange
  rw [Console.report_debug_of_quiet quiet]
  split
  · rfl
  · split
    · rfl
    · exact replyHidden _

namespace Situation

/-- A situation over the web and one over the direct transport ask alike. -/
theorem Carried.asking
    {web direct : Situation}
    (carried : web.Carried direct)
    {request : Request}
    (isReady : WebRequest.IsReady request) :
    Transport.Delivers (web.exchange request).outcome (direct.exchange request).outcome ∧
      (web.asking request).Carried (direct.asking request) := by
  obtain ⟨timeout, userAgent, isWeb⟩ := carried.isWeb
  have webExchanged :
      web.exchange request =
        (Transport.web timeout userAgent).exchange request web.surroundings.replies
          web.surroundings.console := by
    rw [exchange, isWeb]
  have directExchanged :
      direct.exchange request =
        Transport.directExchange request direct.surroundings.replies
          direct.surroundings.console := by
    rw [exchange, carried.isDirect]
    rfl
  obtain ⟨prepared, sent⟩ :=
    Transport.webExchange_of_isReady isReady timeout userAgent web.surroundings.replies
      web.surroundings.console
  have webOutcome :
      (web.exchange request).outcome =
        Transport.webOutcome request (web.surroundings.replies.head?.getD Reply.nothing) := by
    rw [webExchanged, sent]
  have directOutcome :
      (direct.exchange request).outcome =
        Transport.directOutcome (web.surroundings.replies.head?.getD Reply.nothing) := by
    rw [directExchanged, carried.replies]
    rfl
  have webReplies : (web.exchange request).replies = web.surroundings.replies.drop 1 := by
    rw [webExchanged, sent]
  have directReplies : (direct.exchange request).replies = web.surroundings.replies.drop 1 := by
    rw [directExchanged, carried.replies]
    rfl
  have sameDebugging :
      (web.exchange request).console.isDebugging = web.surroundings.console.isDebugging :=
    Transport.exchange_isDebugging _ _ _ _
  have sameConsole : (direct.exchange request).console = direct.surroundings.console := by
    rw [directExchanged]
    rfl
  have nextIsCarried : (web.surroundings.replies.head?.getD Reply.nothing).IsCarried := by
    cases isNext : web.surroundings.replies with
    | nil =>
        exact ⟨_, rfl⟩
    | cons next rest =>
        exact carried.areCarried next (isNext ▸ List.mem_cons_self)
  constructor
  · rw [webOutcome, directOutcome]
    exact Transport.webOutcome_delivers request nextIsCarried
  · exact {
      isWeb := ⟨timeout, userAgent, isWeb⟩
      isDirect := carried.isDirect
      random := carried.random
      drawn := carried.drawn
      padding := carried.padding
      replies := webReplies.trans directReplies.symm
      areCarried := fun reply member => by
        have isLeft : reply ∈ web.surroundings.replies.drop 1 := webReplies.subst member
        exact carried.areCarried reply (List.mem_of_mem_drop isLeft)
      isDebugging :=
        (sameDebugging.trans carried.isDebugging).trans
          (congrArg Console.isDebugging sameConsole.symm)
      printed := fun quiet => by
        have wasQuiet := sameDebugging.symm.trans quiet
        have webPrinted : (web.exchange request).console = web.surroundings.console := by
          rw [webExchanged]
          exact Transport.webExchange_console_of_quiet wasQuiet _ _ _ _
        exact ((congrArg Console.printed webPrinted).trans (carried.printed wasQuiet)).trans
          (congrArg Console.printed sameConsole.symm) }

end Situation

namespace Likeness

/-- A request that is ready is answered by the next reply over both transports. -/
theorem carriers_asksAlike
    {Result : Type}
    {results : Result → Result → Prop}
    {server : Config → Value}
    {endpoint : Value → Endpoint Result}
    (isReady :
      ∀ {config : Config}, config.HasServers →
        WebRequest.IsReady (endpoint (server config)).request)
    (readsAlike : ∀ base, (endpoint base).ReadsAlike)
    (holds :
      ∀ {base outcome result}, (endpoint base).read outcome = .ok result → results result result) :
    carriers.AsksAlike Fault.Corresponds results server endpoint endpoint := by
  intro web direct situations
  obtain ⟨sameConfig, hasServers⟩ := situations.config
  have carried : web.Carried direct := situations.outside
  have asked := carried.asking (isReady hasServers)
  rw [← sameConfig]
  exact ⟨(readsAlike _ asked.1).of_eq fun _ => holds, asked.2⟩

end Likeness

theorem Tokens.AreIssued.areTexts {tokens : Tokens} (areIssued : tokens.AreIssued) :
    tokens.AreTexts := by
  obtain ⟨⟨access, isAccess, _⟩, client, isClient⟩ := areIssued
  exact ⟨by rw [isAccess]; rfl, by rw [isClient]; rfl⟩

theorem Profile.IsNamed.isText_uuid {profile : Profile} (isNamed : profile.IsNamed) :
    profile.uuid.isText := by
  obtain ⟨_, described⟩ := isNamed
  obtain ⟨_, _, _, _, isUuid⟩ := described.uuid
  rw [isUuid]
  rfl

/-- What a call asks about in the query of a request is made up of scalar values. -/
def SessionCall.AsksInScalars : SessionCall → Prop
  | .verify username _ _ _ address =>
      ∀ content, username = .text content ∨ address = .text content → content.IsScalar
  | _ =>
      True

namespace Likeness

/-- A call with arguments of their types is answered alike over both transports. -/
theorem carriers_callsAlike
    {call : SessionCall}
    (typed : call.IsTyped)
    (asksInScalars : call.AsksInScalars) :
    carriers.CallsAlike call call := by
  cases call with
  | authenticate username password clientToken requestUser =>
      obtain ⟨isUsername, isPassword, isToken, flag, rfl⟩ := typed
      refine .authenticate (fun notNull => ⟨rfl, ?_⟩) fun {token _} tokens => ?_
      · exact isToken.resolve_left fun isNull => nomatch notNull.symm.trans isNull
      · obtain ⟨rfl, isToken⟩ := tokens
        refine carriers_asksAlike
          (fun servers =>
            WebRequest.isReady_authenticate servers.auth isUsername isPassword isToken flag)
          (fun base => Endpoint.readsAlike_authenticate base _ _ _ _) ?_
        intro _ _ ⟨tokens, profile⟩ read
        obtain ⟨areIssued, isNamed⟩ := Endpoint.authenticate_read_brings read
        exact ⟨⟨rfl, areIssued.areTexts⟩, rfl, isNamed.isText_uuid⟩
  | createSharedSecret =>
      exact .createSharedSecret
  | encryptionResponse publicKey verifyToken =>
      exact .encryptionResponse publicKey verifyToken
  | join serverId secret publicKey =>
      refine .join rfl fun {tokens _ profile _ hash _} tokensAlike profilesAlike hashes => ?_
      obtain ⟨rfl, areTexts⟩ := tokensAlike
      obtain ⟨rfl, isText⟩ := profilesAlike
      obtain ⟨rfl, _⟩ := hashes
      exact carriers_asksAlike
        (fun servers => WebRequest.isReady_join servers.session areTexts.accessToken isText hash)
        (fun base => Endpoint.readsAlike_join base _ _ _) fun _ => trivial
  | refresh requestUser =>
      obtain ⟨flag, rfl⟩ := typed
      refine .refresh fun {tokens _} tokensAlike => ?_
      obtain ⟨rfl, areTexts⟩ := tokensAlike
      refine carriers_asksAlike
        (fun servers =>
          WebRequest.isReady_refresh servers.auth areTexts.accessToken areTexts.clientToken flag)
        (fun base => Endpoint.readsAlike_refresh base _ _ _) ?_
      intro _ _ ⟨tokens, renewed⟩ read
      obtain ⟨areIssued, areNamed⟩ := Endpoint.refresh_read_brings read
      refine ⟨⟨rfl, areIssued.areTexts⟩, ?_⟩
      cases renewed with
      | none =>
          exact .none
      | some profile =>
          exact .some ⟨rfl, (areNamed profile rfl).isText_uuid⟩
  | validate =>
      refine .validate fun {tokens _} tokensAlike => ?_
      obtain ⟨rfl, areTexts⟩ := tokensAlike
      exact carriers_asksAlike
        (fun servers =>
          WebRequest.isReady_validate servers.auth areTexts.accessToken areTexts.clientToken)
        (fun base => Endpoint.readsAlike_validate base _ _) fun _ => rfl
  | invalidate =>
      refine .invalidate fun {tokens _} tokensAlike => ?_
      obtain ⟨rfl, areTexts⟩ := tokensAlike
      exact carriers_asksAlike
        (fun servers =>
          WebRequest.isReady_invalidate servers.auth areTexts.accessToken areTexts.clientToken)
        (fun base => Endpoint.readsAlike_invalidate base _ _) fun _ => trivial
  | signOut username password =>
      obtain ⟨isUsername, isPassword⟩ := typed
      exact .signOut (carriers_asksAlike
        (fun servers => WebRequest.isReady_signOut servers.auth isUsername isPassword)
        (fun base => Endpoint.readsAlike_signOut base _ _) fun _ => trivial)
  | verify username serverId secret publicKey address =>
      obtain ⟨isUsername, _, _, _, isAddress⟩ := typed
      obtain ⟨name, rfl⟩ := Value.isText_iff.mp isUsername
      obtain ⟨given, rfl⟩ := Value.exists_ofText? isAddress
      refine .verify rfl fun {hash _} hashes => ?_
      obtain ⟨rfl, isScalar⟩ := hashes
      have areScalar : ∀ content ∈ name :: hash :: given.toList, content.IsScalar := by
        intro content member
        simp only [List.mem_cons, Option.mem_toList] at member
        rcases member with rfl | rfl | rfl
        · exact asksInScalars _ (.inl rfl)
        · exact isScalar
        · exact asksInScalars _ (.inr rfl)
      refine carriers_asksAlike
        (fun servers => WebRequest.isReady_hasJoined servers.session areScalar)
        (fun base => Endpoint.readsAlike_hasJoined base _ _ _) ?_
      intro _ _ answered read
      cases answered with
      | none =>
          exact .none
      | some profile =>
          exact .some ⟨rfl, (Endpoint.hasJoined_read_brings read).isText_uuid⟩
  | close =>
      exact .close

end Likeness

/-! ## Runs over both transports -/

/-- All that a session holds but its transport. -/
def Session.withoutTransport (session : Session) : Session :=
  { session with transport := .direct, ownsTransport := false }

/-- Two situations with the same session but for its transport, and the same printed text. -/
structure Situation.Matches (web direct : Situation) : Prop where
  session : web.session.withoutTransport = direct.session.withoutTransport
  printed :
    web.surroundings.console.isDebugging = false →
      web.surroundings.console.printed = direct.surroundings.console.printed

/-- Two turns that end with the same result, or with faults that correspond, and match after. -/
structure SessionTurn.Matches (web direct : SessionTurn) : Prop where
  outcome : OutcomesAlike Fault.Corresponds Eq web.outcome direct.outcome
  after : web.after.Matches direct.after

theorem Option.eq_of_rel
    {Part : Type}
    {alike : Part → Part → Prop}
    (same : ∀ {first second}, alike first second → first = second)
    {one other : Option Part}
    (rel : Option.Rel alike one other) :
    one = other := by
  cases rel with
  | some alike =>
      rw [same alike]
  | none =>
      rfl

namespace Likeness

theorem carriers_matches {web direct : Situation} (alike : carriers.Alike web direct) :
    web.Matches direct where
  session := by
    have config : web.session.config = direct.session.config := alike.config.1
    have tokens := Option.eq_of_rel And.left alike.tokens
    have profile := Option.eq_of_rel And.left alike.profile
    have secret := Option.eq_of_rel id alike.sharedSecret
    have hash := Option.eq_of_rel And.left alike.serverHash
    rw [Session.withoutTransport, Session.withoutTransport, config, alike.state, tokens, profile,
      secret, hash]
  printed := Situation.Carried.printed alike.outside

theorem carriers_turns_match {web direct : SessionTurn} (alike : carriers.TurnsAlike web direct) :
    web.Matches direct where
  outcome := alike.outcome.mono id fun results => results.eq And.left And.left id And.left id
  after := carriers_matches alike.after

end Likeness

theorem Session.savedIdentity_profile
    {config : Config}
    {identity : Tokens × Profile}
    (isSaved : savedIdentity config = .ok identity) :
    identity.2.uuid.isText := by
  simp only [savedIdentity, bind_eq_ok_iff, pure_eq_ok_iff] at isSaved
  obtain ⟨_, _, _, _, _, _, _, _, _, _, same⟩ := isSaved
  rw [← same]
  rfl

/--
A session behaves over the web as over the direct transport: however it begins, with
servers that have addresses, and whatever statuses and bodies come back, each of its
calls ends with the same result, or with a fault that differs at most in the wording
of a failed request, and leaves the same session and the same printed text behind.
-/
theorem web_matches_direct
    {opening : SessionOpening}
    {config : Config}
    {transport : Option Transport}
    {surroundings : Surroundings}
    {calls : List SessionCall}
    (isWeb : ∀ given ∈ transport, ∃ timeout userAgent, given = .web timeout userAgent)
    (hasServers : config.HasServers)
    (savesTexts :
      opening = .restored →
        ∀ identity, Session.savedIdentity config = .ok identity → identity.1.AreTexts)
    (areCarried : ∀ reply ∈ surroundings.replies, reply.IsCarried)
    (typed : ∀ call ∈ calls, call.IsTyped ∧ call.AsksInScalars) :
    OutcomesAlike Fault.Corresponds
      (fun web direct =>
        web.Matches direct ∧
          List.Forall₂ SessionTurn.Matches (web.turns calls) (direct.turns calls))
      (opening.begin config transport surroundings)
      (opening.begin config (some .direct) surroundings) := by
  have outside :
      Likeness.carriers.outside
        { session := Session.create config transport, surroundings := surroundings }
        { session := Session.create config (some .direct), surroundings := surroundings } := {
    isWeb := by
      cases transport with
      | none =>
          exact ⟨_, _, rfl⟩
      | some given =>
          exact isWeb given rfl
    isDirect := rfl
    random := rfl
    drawn := rfl
    padding := rfl
    replies := rfl
    areCarried := areCarried
    isDebugging := rfl
    printed := fun _ => rfl }
  have begun :=
    Likeness.carriers_laws.begin_alike opening ⟨rfl, hasServers⟩
      (fun isRestored =>
        .self .same fun identity isSaved =>
          ⟨⟨rfl, savesTexts isRestored identity isSaved⟩, rfl,
            Session.savedIdentity_profile isSaved⟩)
      outside
  refine begun.mono id fun alike => ⟨Likeness.carriers_matches alike, ?_⟩
  have callsAlike : List.Forall₂ Likeness.carriers.CallsAlike calls calls :=
    List.forall₂_same.mpr fun call member =>
      Likeness.carriers_callsAlike (typed call member).1 (typed call member).2
  exact (Likeness.carriers_laws.turns_alike alike callsAlike).imp fun _ _ =>
    Likeness.carriers_turns_match

/--
A restored session asks for a check, which succeeds at the highest status, and for new
tokens in vain.
-/
theorem web_matches_direct_restored :
    let config := Config.remembering "access"
    let surroundings :=
      Surroundings.quiet [.answered 299 (.bytes []), .failed (.unreachable "refused")]
    let calls := [SessionCall.validate, .refresh (.bool true)]
    (SessionOpening.restored.begin config none surroundings).toOption.isSome = true ∧
      OutcomesAlike Fault.Corresponds
        (fun web direct =>
          web.Matches direct ∧
            List.Forall₂ SessionTurn.Matches (web.turns calls) (direct.turns calls))
        (SessionOpening.restored.begin config none surroundings)
        (SessionOpening.restored.begin config (some .direct) surroundings) := by
  intro config surroundings calls
  refine ⟨by decide +kernel, ?_⟩
  have hasServers : config.HasServers := by
    obtain ⟨isAuth, isSession⟩ := Config.remembering_servers "access"
    exact ⟨isAuth ▸ Endpoint.isBase_defaultServers.1, isSession ▸ Endpoint.isBase_defaultServers.2⟩
  refine web_matches_direct (fun _ isGiven => nomatch isGiven) hasServers ?_ ?_ ?_
  · intro _ identity isSaved
    have tokensSaved :
        (Session.savedIdentity config).toOption.map (fun identity =>
          (identity.1.accessToken.isText, identity.1.clientToken.isText)) = some (true, true) := by
      decide +kernel
    rw [isSaved] at tokensSaved
    have areTexts := Option.some.inj tokensSaved
    exact ⟨congrArg Prod.fst areTexts, congrArg Prod.snd areTexts⟩
  · intro reply member
    simp only [surroundings, Surroundings.quiet, List.mem_cons, List.not_mem_nil, or_false]
      at member
    rcases member with rfl | rfl
    · exact ⟨_, rfl⟩
    · exact ⟨_, rfl⟩
  · intro call member
    simp only [calls, List.mem_cons, List.not_mem_nil, or_false] at member
    rcases member with rfl | rfl
    · exact ⟨trivial, trivial⟩
    · exact ⟨⟨true, rfl⟩, trivial⟩

end SessionHandshake
