import SessionHandshake.Proofs.Received
import SessionHandshake.Proofs.Session.History

namespace SessionHandshake

/-!
# Sessions at rest

Between two calls a session has exactly what belongs to its state, and its
server hash is the one that the last request about it has carried.  The history
is part of the invariant: after a join the session remembers only the hash and
the secret, and what these have to do with the request is a fact about an
earlier call.
-/

/-- An event is the last one of a history that has sent a request in some state. -/
structure LastAsked
    (history : List SessionEvent)
    (state : SessionState)
    (event : SessionEvent)
    (handed : SentRequest)
    (later : List SessionEvent) : Prop where
  splits : ∃ earlier, history = earlier ++ event :: later
  sent : event.sent = [{ state := state, request := handed }]
  unrepeated : ∀ other ∈ later, ∀ request ∈ other.sent, request.state ≠ state

/-- The last join request of a history says the hash that the join gave back. -/
def LastJoined
    (history : List SessionEvent)
    (session : Session)
    (tokens : Tokens)
    (profile : Profile)
    (hash : Text)
    (secret : Value)
    (later : List SessionEvent) : Prop :=
  ∃ event handed serverId publicKey,
    LastAsked history .joining event handed later ∧
    event.call = .join serverId secret publicKey ∧
    event.outcome = .ok (.hash hash) ∧
    Digest.ofServerValues Hasher.sha1 serverId secret publicKey = .ok hash ∧
    handed.TellsOfJoin session.sessionServer tokens.accessToken profile.uuid (.text hash)

/-- The last question of a history about a join names the hash that it was about. -/
def LastVerified
    (history : List SessionEvent)
    (session : Session)
    (profile : Profile)
    (hash : Text) : Prop :=
  ∃ event handed later username serverId secret publicKey address,
    LastAsked history .verifying event handed later ∧
    event.call = .verify username serverId secret publicKey address ∧
    event.outcome = .ok (.profile profile) ∧
    Digest.ofServerValues Hasher.sha1 serverId secret publicKey = .ok hash ∧
    handed.AsksAboutJoin session.sessionServer username (.text hash) address

/-- An event is the successful creation of a new secret. -/
def SessionEvent.CreatesSecret (event : SessionEvent) : Prop :=
  event.call = .createSharedSecret ∧ ∃ result, event.outcome = .ok result

/-- What a session has after a history, state by state. -/
inductive AtRest (history : List SessionEvent) (session : Session) : Prop where
  | unauthenticated :
      session.state = .unauthenticated →
      session.tokens = none →
      session.profile = none →
      session.serverHash = none →
      AtRest history session
  | authenticated {tokens : Tokens} {profile : Profile} :
      session.state = .authenticated →
      session.tokens = some tokens →
      session.profile = some profile →
      session.serverHash = none →
      AtRest history session
  | joined
      {tokens : Tokens} {profile : Profile} {hash : Text} {secret kept : Value}
      {later : List SessionEvent} :
      session.state = .joined →
      session.tokens = some tokens →
      session.profile = some profile →
      session.serverHash = some hash →
      session.sharedSecret = some kept →
      LastJoined history session tokens profile hash secret later →
      ((∀ event ∈ later, ¬ event.CreatesSecret) → kept = secret) →
      AtRest history session
  | verified {profile : Profile} {hash : Text} :
      session.state = .verified →
      session.tokens = none →
      session.profile = some profile →
      session.serverHash = some hash →
      LastVerified history session profile hash →
      AtRest history session
  | rejected :
      session.state = .rejected →
      session.tokens = none →
      session.profile = none →
      session.serverHash = none →
      AtRest history session

/-! ## Events that leave the state as it is -/

theorem LastAsked.extend
    {history later : List SessionEvent}
    {state : SessionState}
    {event next : SessionEvent}
    {handed : SentRequest}
    (asked : LastAsked history state event handed later)
    (quiet : ∀ request ∈ next.sent, request.state ≠ state) :
    LastAsked (history ++ [next]) state event handed (later ++ [next]) where
  splits := by
    obtain ⟨earlier, rfl⟩ := asked.splits
    exact ⟨earlier, by simp⟩
  sent := asked.sent
  unrepeated := by
    intro other member
    rcases List.mem_append.mp member with isLater | isNext
    · exact asked.unrepeated other isLater
    · rw [List.mem_singleton.mp isNext]
      exact quiet

/-- The last event of a history is the last one that has sent the request it has sent. -/
theorem lastAsked_concat
    (history : List SessionEvent)
    {state : SessionState}
    {event : SessionEvent}
    {handed : SentRequest}
    (sent : event.sent = [{ state := state, request := handed }]) :
    LastAsked (history ++ [event]) state event handed [] where
  splits := ⟨history, rfl⟩
  sent := sent
  unrepeated := by
    intro other member
    cases member

/-- The requests of a call are all sent in one state. -/
theorem SessionCall.Sends.state_eq
    {session : Session}
    {call : SessionCall}
    {sent : List SessionRequest}
    (sends : call.Sends session sent) :
    ∀ request ∈ sent, request.state = call.askingState session.state := by
  intro request member
  cases sends with
  | nothing =>
      cases member
  | one _ _ =>
      rw [List.mem_singleton.mp member]

/--
An event in the state of the session changes nothing about the session but the
secret, which is replaced only by the creation of a new one.
-/
theorem AtRest.extend
    {history : List SessionEvent}
    {session next : Session}
    {event : SessionEvent}
    (atRest : AtRest history session)
    (quiet : ∀ request ∈ event.sent, request.state = session.state)
    (same : next = { session with sharedSecret := next.sharedSecret })
    (keeps :
      ∀ kept,
        session.sharedSecret = some kept →
        ∃ held, next.sharedSecret = some held ∧ (event.CreatesSecret ∨ held = kept)) :
    AtRest (history ++ [event]) next := by
  rw [same]
  cases atRest with
  | unauthenticated state tokens profile serverHash =>
      exact .unauthenticated state tokens profile serverHash
  | authenticated state tokens profile serverHash =>
      exact .authenticated state tokens profile serverHash
  | rejected state tokens profile serverHash =>
      exact .rejected state tokens profile serverHash
  | verified state tokens profile serverHash verified =>
      obtain ⟨asking, handed, later, username, serverId, secret, publicKey, address, asked,
        isVerify, ends, hashed, asks⟩ := verified
      have staysLast : ∀ request ∈ event.sent, request.state ≠ .verifying := by
        intro request member isVerifying
        rw [quiet request member, state] at isVerifying
        cases isVerifying
      exact .verified state tokens profile serverHash
        ⟨asking, handed, later ++ [event], username, serverId, secret, publicKey, address,
          asked.extend staysLast, isVerify, ends, hashed, asks⟩
  | @joined _ _ _ secret kept later state tokens profile serverHash sharedSecret joined isJoined =>
      obtain ⟨asking, handed, serverId, publicKey, asked, isJoin, ends, hashed, tells⟩ := joined
      have staysLast : ∀ request ∈ event.sent, request.state ≠ .joining := by
        intro request member isJoining
        rw [quiet request member, state] at isJoining
        cases isJoining
      obtain ⟨held, holds, createdOrKept⟩ := keeps kept sharedSecret
      refine .joined state tokens profile serverHash holds
        ⟨asking, handed, serverId, publicKey, asked.extend staysLast, isJoin, ends, hashed,
          tells⟩ ?_
      intro uncreated
      have isKept : held = kept :=
        createdOrKept.resolve_left (uncreated event (by simp))
      rw [isKept]
      exact isJoined fun other member => uncreated other (List.mem_append_left [event] member)

/-! ## What a state says -/

/-- Without a log-in there are no tokens, no profile and no server hash. -/
theorem AtRest.of_unauthenticated
    {history : List SessionEvent}
    {session : Session}
    (atRest : AtRest history session)
    (isUnauthenticated : session.state = .unauthenticated) :
    session.tokens = none ∧ session.profile = none ∧ session.serverHash = none := by
  cases atRest with
  | unauthenticated _ tokens profile serverHash =>
      exact ⟨tokens, profile, serverHash⟩
  | authenticated state =>
      cases state.symm.trans isUnauthenticated
  | joined state =>
      cases state.symm.trans isUnauthenticated
  | verified state =>
      cases state.symm.trans isUnauthenticated
  | rejected state =>
      cases state.symm.trans isUnauthenticated

/-- A client that can use its tokens has some, and knows its profile. -/
theorem AtRest.of_withTokens
    {history : List SessionEvent}
    {session : Session}
    (atRest : AtRest history session)
    (possible : session.state ∈ SessionAction.withTokens) :
    (∃ tokens, session.tokens = some tokens) ∧ ∃ profile, session.profile = some profile := by
  cases atRest with
  | @authenticated heldTokens heldProfile _ tokens profile =>
      exact ⟨⟨heldTokens, tokens⟩, heldProfile, profile⟩
  | @joined heldTokens heldProfile _ _ _ _ _ tokens profile =>
      exact ⟨⟨heldTokens, tokens⟩, heldProfile, profile⟩
  | unauthenticated state =>
      rw [state] at possible
      exact absurd possible (by decide)
  | verified state =>
      rw [state] at possible
      exact absurd possible (by decide)
  | rejected state =>
      rw [state] at possible
      exact absurd possible (by decide)

/-- A client that has not joined a server has no server hash. -/
theorem AtRest.of_authenticated
    {history : List SessionEvent}
    {session : Session}
    (atRest : AtRest history session)
    (isAuthenticated : session.state = .authenticated) :
    session.serverHash = none := by
  cases atRest with
  | authenticated _ _ _ serverHash =>
      exact serverHash
  | unauthenticated state =>
      cases state.symm.trans isAuthenticated
  | joined state =>
      cases state.symm.trans isAuthenticated
  | verified state =>
      cases state.symm.trans isAuthenticated
  | rejected state =>
      cases state.symm.trans isAuthenticated

/-! ## Every call restores the invariant -/

section Step

variable
  {history : List SessionEvent} {before after : Situation} {call : SessionCall}
  {event : SessionEvent}

/-- The requests of an event are those that its call has been found to send. -/
theorem SessionEvent.sent_eq
    {sent : List SessionRequest}
    {session : Session}
    (added : after.surroundings.requests = before.surroundings.requests ++ event.sent)
    (leads : before.Leads call sent session after) :
    event.sent = sent :=
  List.append_cancel_left (added.symm.trans leads.grows.requests)

/-- A call that asks in the state of the session may at most have replaced the secret. -/
theorem AtRest.leads
    {sent : List SessionRequest}
    {session : Session}
    (atRest : AtRest history before.session)
    (added : after.surroundings.requests = before.surroundings.requests ++ event.sent)
    (leads : before.Leads call sent session after)
    (asksHere : call.askingState before.session.state = before.session.state)
    (same : session = { before.session with sharedSecret := session.sharedSecret })
    (keeps :
      ∀ kept,
        before.session.sharedSecret = some kept →
        ∃ held, session.sharedSecret = some held ∧ (event.CreatesSecret ∨ held = kept)) :
    AtRest (history ++ [event]) after.session := by
  rw [leads.session_eq]
  refine atRest.extend ?_ same keeps
  intro request member
  rw [SessionEvent.sent_eq added leads] at member
  rw [leads.sends.state_eq request member, asksHere]

/-- A secret that has been offered is the one that is held, if one is. -/
theorem Situation.OffersSecret.eq_of_some
    {secret kept : Value}
    (offers : before.OffersSecret secret)
    (held : before.session.sharedSecret = some kept) :
    secret = kept := by
  rcases offers with offered | ⟨missing, _⟩
  · exact Option.some.inj (offered.symm.trans held)
  · cases missing.symm.trans held

/-- Whatever a call ends with, it leaves the session at rest. -/
theorem AtRest.step
    {outcome : Except Fault SessionResult}
    (atRest : AtRest history before.session)
    (typed : call.IsTyped)
    (isCall : event.call = call)
    (ends : event.outcome = outcome)
    (added : after.surroundings.requests = before.surroundings.requests ++ event.sent)
    (step : SessionStep before call outcome after) :
    AtRest (history ++ [event]) after.session := by
  have unchanged :
      ∀ kept,
        before.session.sharedSecret = some kept →
        ∃ held, before.session.sharedSecret = some held ∧ (event.CreatesSecret ∨ held = kept) :=
    fun kept held => ⟨kept, held, .inr rfl⟩
  cases step with
  | refused gated impossible =>
      refine atRest.extend ?_ rfl unchanged
      intro request member
      rw [List.self_eq_append_right.mp added] at member
      cases member
  | loginFailed _ leads =>
      exact atRest.leads added leads rfl rfl unchanged
  | loggedIn isUnauthenticated _ leads =>
      rw [leads.session_eq]
      obtain ⟨_, _, serverHash⟩ := atRest.of_unauthenticated isUnauthenticated
      exact .authenticated rfl rfl rfl serverHash
  | secretUndrawn _ leads =>
      exact atRest.leads added leads rfl rfl unchanged
  | secretDrawn _ leads =>
      refine atRest.leads added leads rfl rfl ?_
      intro kept _
      exact ⟨_, rfl, .inl ⟨isCall, _, ends⟩⟩
  | responseUndrawn _ _ leads =>
      exact atRest.leads added leads rfl rfl unchanged
  | responseFailed offers leads =>
      refine atRest.leads added leads rfl rfl ?_
      intro kept held
      exact ⟨_, rfl, .inr (offers.eq_of_some held)⟩
  | responded offers _ leads =>
      refine atRest.leads added leads rfl rfl ?_
      intro kept held
      exact ⟨_, rfl, .inr (offers.eq_of_some held)⟩
  | joinFailed isAuthenticated leads =>
      rw [leads.session_eq]
      have possible : before.session.state ∈ SessionAction.withTokens := by
        rw [isAuthenticated]
        exact List.mem_cons_self
      obtain ⟨⟨tokens, heldTokens⟩, profile, heldProfile⟩ := atRest.of_withTokens possible
      exact .authenticated isAuthenticated heldTokens heldProfile
        (atRest.of_authenticated isAuthenticated)
  | joined _ heldTokens heldProfile hashed given leads =>
      have sent := SessionEvent.sent_eq added leads
      rw [leads.session_eq]
      exact .joined rfl heldTokens heldProfile rfl rfl
        ⟨event, _, _, _, lastAsked_concat history sent, isCall, ends, hashed,
          SentRequest.tellsOfJoin_of_handedOver given⟩
        fun _ => rfl
  | renewalFailed _ leads =>
      rw [leads.session_eq]
      exact .unauthenticated rfl rfl rfl rfl
  | @renewed _ _ _ _ _ answered _ possible _ _ leads =>
      rw [leads.session_eq]
      obtain ⟨_, profile, heldProfile⟩ := atRest.of_withTokens possible
      cases answered with
      | none =>
          exact .authenticated rfl rfl heldProfile rfl
      | some _ =>
          exact .authenticated rfl rfl rfl rfl
  | checkFailed _ leads =>
      exact atRest.leads added leads rfl rfl unchanged
  | checked _ leads =>
      exact atRest.leads added leads rfl rfl unchanged
  | invalidationFailed _ leads =>
      exact atRest.leads added leads rfl rfl unchanged
  | invalidated _ leads =>
      rw [leads.session_eq]
      exact .unauthenticated rfl rfl rfl rfl
  | signOutFailed leads =>
      exact atRest.leads added leads rfl rfl unchanged
  | signedOut _ _ leads =>
      rw [leads.session_eq]
      exact .unauthenticated rfl rfl rfl rfl
  | rejected isUnauthenticated leads =>
      rw [leads.session_eq]
      obtain ⟨tokens, profile, serverHash⟩ := atRest.of_unauthenticated isUnauthenticated
      exact .rejected rfl tokens profile serverHash
  | unjudged _ uncomparable _ =>
      exact (Value.isText_loweredName typed.1 _ uncomparable).elim
  | verified isUnauthenticated hashed given _ leads =>
      have sent := SessionEvent.sent_eq added leads
      rw [leads.session_eq]
      obtain ⟨tokens, _, _⟩ := atRest.of_unauthenticated isUnauthenticated
      exact .verified rfl tokens rfl rfl
        ⟨event, _, _, _, _, _, _, _, lastAsked_concat history sent, isCall, ends, hashed,
          SentRequest.asksAboutJoin_of_handedOver given⟩
  | closed leads =>
      exact atRest.leads added leads rfl rfl unchanged

end Step

/-! ## Runs -/

/-- A session that has just been made is at rest. -/
theorem Situation.Begins.atRest {start : Situation} (begins : start.Begins) :
    AtRest [] start.session := by
  cases begins with
  | created config transport surroundings =>
      exact .unauthenticated rfl rfl rfl rfl
  | restored surroundings restored =>
      simp only [Session.restore, bind_eq_ok_iff, pure_eq_ok_iff] at restored
      obtain ⟨⟨tokens, profile⟩, _, line, _, same⟩ := restored
      cases same
      exact .authenticated rfl rfl rfl rfl

/--
After every run of a session that has just been made, whatever its calls have
ended with, the session is at rest.
-/
theorem Situation.Begins.atRest_ending
    {start : Situation}
    {calls : List SessionCall}
    (begins : start.Begins)
    (typed : ∀ call ∈ calls, call.IsTyped) :
    AtRest (start.history calls) (start.ending calls).session := by
  induction calls using List.reverseRecOn with
  | nil =>
      exact begins.atRest
  | append_singleton earlier last inductionHypothesis =>
      have atRest :=
        inductionHypothesis fun call member => typed call (List.mem_append_left [last] member)
      rw [history_concat, ending_concat]
      exact atRest.step (typed last (by simp)) rfl rfl (call_requests _ last)
        ((start.ending earlier).call_step last)

/-- A client that has logged in and joined a server, whose secret was drawn before. -/
theorem Situation.atRest_ending_joined :
    let login := Reply.written ("\x7b\"accessToken\": \"access\", \"clientToken\": \"client\", " ++
      "\"selectedProfile\": \x7b\"id\": \"069a79f444e94726a5befca90e38aaf5\", " ++
      "\"name\": \"Notch\"\x7d\x7d")
    let start := Situation.quiet [login, Reply.silent]
    let calls : List SessionCall := [
      .authenticate (Value.ofString "user") (Value.ofString "password") .null (.bool false),
      .createSharedSecret,
      .join (Value.ofString "") (.bytes (List.replicate sharedSecretLength 7)) (.bytes [1])]
    (start.ending calls).session.state = .joined ∧
      AtRest (start.history calls) (start.ending calls).session := by
  refine ⟨by decide +kernel, Begins.atRest_ending (Situation.quiet_begins _) ?_⟩
  intro call member
  simp only [List.mem_cons, List.not_mem_nil, or_false] at member
  rcases member with rfl | rfl | rfl
  · exact ⟨rfl, rfl, .inl rfl, false, rfl⟩
  · trivial
  · exact ⟨.inl ⟨_, rfl⟩, ⟨_, rfl⟩, _, rfl⟩

/-- Wherever a session can be reached, it is at rest after some history. -/
theorem Situation.Reached.atRest {situation : Situation} (reached : situation.Reached) :
    ∃ history, AtRest history situation.session := by
  induction reached with
  | begun begins =>
      exact ⟨[], begins.atRest⟩
  | @called situation call _ typed inductionHypothesis =>
      obtain ⟨history, atRest⟩ := inductionHypothesis
      exact ⟨history ++ [situation.event call],
        atRest.step typed rfl rfl (call_requests situation call) (situation.call_step call)⟩

/-- A session that can be reached and is not logged in has nothing of a log-in. -/
theorem Situation.Reached.of_unauthenticated
    {situation : Situation}
    (reached : situation.Reached)
    (isUnauthenticated : situation.session.state = .unauthenticated) :
    situation.session.tokens = none ∧
      situation.session.profile = none ∧
      situation.session.serverHash = none := by
  obtain ⟨history, atRest⟩ := reached.atRest
  exact atRest.of_unauthenticated isUnauthenticated

end SessionHandshake
