import SessionHandshake.Proofs.Session.History

namespace SessionHandshake

/-!
# The state machine of a session

The state after a call is a function of the state before it, of the operation
and of whether the call has succeeded.  A call that is not possible in a state
leaves no trace, and one that is possible asks the servers at most once.
-/

/-- The state in which a session is after a call that it was in some state before. -/
def SessionCall.stateAfter (state : SessionState) (succeeded : Bool) :
    SessionCall → SessionState
  | .authenticate .. =>
      if succeeded then .authenticated else state
  | .join .. =>
      if succeeded then .joined else state
  | .refresh _ =>
      if state ∈ SessionAction.withTokens then
        if succeeded then .authenticated else .unauthenticated
      else
        state
  | .invalidate =>
      if succeeded then .unauthenticated else state
  | .signOut .. =>
      if succeeded then .unauthenticated else state
  | .verify .. =>
      if state = .unauthenticated then
        if succeeded then .verified else .rejected
      else
        state
  | _ =>
      state

/-- The states of a server that has decided about its client. -/
def SessionState.isDecided : SessionState → Bool
  | .verified =>
      true
  | .rejected =>
      true
  | _ =>
      false

/-- What a call has made of a situation follows the rules of the state machine. -/
structure SessionTransition
    (before : Situation)
    (call : SessionCall)
    (outcome : Except Fault SessionResult)
    (after : Situation) : Prop where
  /-- In a state in which the operation is not possible, the call changes nothing at all. -/
  gate :
    ∀ operation states,
      call.gate? = some (operation, states) →
      before.session.state ∉ states →
      outcome = .error (.wrongState operation before.session.state states) ∧ after = before
  state : after.session.state = call.stateAfter before.session.state outcome.isOk
  /-- At most one request is sent, in the state of the operation, and uses up one reply. -/
  requests :
    ∃ sent,
      call.Sends before.session sent ∧
      after.surroundings.requests = before.surroundings.requests ++ sent ∧
      after.surroundings.replies = before.surroundings.replies.drop sent.length
  draws :
    ∃ drawn,
      (drawn = [] ∨ drawn = call.draws before.session) ∧
      after.surroundings.drawn = before.surroundings.drawn ++ drawn
  /-- A decision about a client is given up only by a sign-out that was answered. -/
  decided :
    before.session.state.isDecided = true →
    after.session.state ≠ before.session.state →
    ∃ username password handed status body rest,
      call = .signOut username password ∧
      outcome = .ok .nothing ∧
      before.session.transport.handedOver?
        (Endpoint.signOut before.session.authServer username password).request = some handed ∧
      after.surroundings.requests =
        before.surroundings.requests ++
          [{ state := before.session.state, request := handed }] ∧
      before.surroundings.replies = .answered status body :: rest ∧
      isSuccess status = true

namespace SessionStep

variable
  {before after : Situation} {call : SessionCall} {outcome : Except Fault SessionResult}

/-- What a call asks of the surroundings, whether it was possible or not. -/
theorem grows (step : SessionStep before call outcome after) :
    ∃ drawn sent,
      before.Grows drawn sent after ∧
      (drawn = [] ∨ drawn = call.draws before.session) ∧
      call.Sends before.session sent := by
  rcases step.refused_or_leads with
    ⟨operation, states, _, _, _, same⟩ | ⟨sent, session, leads⟩
  · rw [same]
    exact ⟨[], [], .refl before, .inl rfl, .nothing⟩
  · exact ⟨call.draws before.session, sent, leads.grows, .inr rfl, leads.sends⟩

/-- A call that was refused stays in its state, as the state machine has it. -/
theorem stateAfter_refused
    {operation : Text}
    {states : List SessionState}
    {state : SessionState}
    (gated : call.gate? = some (operation, states))
    (impossible : state ∉ states) :
    call.stateAfter state false = state := by
  cases call <;> cases gated <;> simp_all [SessionCall.stateAfter, SessionAction.withTokens]

/-- The state after a call is the one that the state machine leads to. -/
theorem state_eq
    (typed : call.IsTyped)
    (step : SessionStep before call outcome after) :
    after.session.state = call.stateAfter before.session.state outcome.isOk := by
  cases step with
  | refused gated impossible =>
      exact (stateAfter_refused gated impossible).symm
  | renewalFailed possible leads =>
      rw [leads.session_eq]
      simp only [SessionCall.stateAfter, if_pos possible]
      rfl
  | renewed possible _ _ leads =>
      rw [leads.session_eq]
      simp only [SessionCall.stateAfter, if_pos possible]
      rfl
  | rejected isUnauthenticated leads =>
      rw [leads.session_eq]
      simp only [SessionCall.stateAfter, if_pos isUnauthenticated]
      rfl
  | unjudged _ uncomparable _ =>
      exact (Value.isText_loweredName typed.1 _ uncomparable).elim
  | verified isUnauthenticated _ _ _ leads =>
      rw [leads.session_eq]
      simp only [SessionCall.stateAfter, if_pos isUnauthenticated]
      rfl
  | _ =>
      next leads =>
        rw [leads.session_eq]
        rfl

/-- A sign-out that has ended well was sent and answered. -/
theorem signOut_answered
    {username password : Value}
    {result : SessionResult}
    (step : SessionStep before (.signOut username password) (.ok result) after) :
    ∃ handed status body rest,
      result = .nothing ∧
      before.session.transport.handedOver?
        (Endpoint.signOut before.session.authServer username password).request = some handed ∧
      after.surroundings.requests =
        before.surroundings.requests ++
          [{ state := before.session.state, request := handed }] ∧
      before.surroundings.replies = .answered status body :: rest ∧
      isSuccess status = true := by
  cases step with
  | signedOut replies succeeded leads =>
      cases leads.sends with
      | one posed given =>
          rw [posed] at given
          exact ⟨_, _, _, _, rfl, given, leads.grows.requests, replies, succeeded⟩

end SessionStep

/-- Only a sign-out that has succeeded takes a session out of a decided state. -/
theorem SessionCall.isSignOut_of_stateAfter_ne
    {call : SessionCall}
    {state : SessionState}
    {succeeded : Bool}
    (isDecided : state.isDecided = true)
    (possible :
      ∀ operation states, call.gate? = some (operation, states) → succeeded = true → state ∈ states)
    (leaves : call.stateAfter state succeeded ≠ state) :
    succeeded = true ∧ ∃ username password, call = .signOut username password := by
  cases succeeded with
  | false =>
      cases state <;> cases isDecided <;> cases call <;> cases leaves rfl
  | true =>
      cases call with
      | signOut username password =>
          exact ⟨rfl, username, password, rfl⟩
      | createSharedSecret =>
          cases leaves rfl
      | encryptionResponse publicKey verifyToken =>
          cases leaves rfl
      | validate =>
          cases leaves rfl
      | close =>
          cases leaves rfl
      | _ =>
          have member := possible _ _ rfl rfl
          cases state <;> cases isDecided <;> exact absurd member (by decide)

namespace Situation

/-- A call that has succeeded was possible. -/
theorem possible_of_isOk
    {before : Situation}
    {call : SessionCall}
    {operation : Text}
    {states : List SessionState}
    (gated : call.gate? = some (operation, states))
    (succeeded : (before.call call).1.isOk = true) :
    before.session.state ∈ states := by
  by_contra impossible
  rw [call_refused gated impossible] at succeeded
  cases succeeded

/-- A decision about a client is given up only by a sign-out that was answered. -/
theorem signOut_of_leaves_decided
    {before : Situation}
    {call : SessionCall}
    (typed : call.IsTyped)
    (isDecided : before.session.state.isDecided = true)
    (leaves : (before.call call).2.session.state ≠ before.session.state) :
    ∃ username password handed status body rest,
      call = .signOut username password ∧
      (before.call call).1 = .ok .nothing ∧
      before.session.transport.handedOver?
        (Endpoint.signOut before.session.authServer username password).request = some handed ∧
      (before.call call).2.surroundings.requests =
        before.surroundings.requests ++
          [{ state := before.session.state, request := handed }] ∧
      before.surroundings.replies = .answered status body :: rest ∧
      isSuccess status = true := by
  have step := before.call_step call
  rw [step.state_eq typed] at leaves
  obtain ⟨succeeded, username, password, rfl⟩ :=
    SessionCall.isSignOut_of_stateAfter_ne isDecided
      (fun _ _ gated succeeded => possible_of_isOk gated succeeded) leaves
  generalize before.call (.signOut username password) = ended at step succeeded ⊢
  obtain ⟨outcome, after⟩ := ended
  cases outcome with
  | error fault =>
      cases succeeded
  | ok result =>
      obtain ⟨handed, status, body, rest, rfl, given, requests, replies, answered⟩ :=
        step.signOut_answered
      exact ⟨username, password, handed, status, body, rest, rfl, rfl, given, requests, replies,
        answered⟩

/-- Every call follows the rules of the state machine. -/
theorem call_transition
    (before : Situation)
    {call : SessionCall}
    (typed : call.IsTyped) :
    SessionTransition before call (before.call call).1 (before.call call).2 := by
  have step := before.call_step call
  obtain ⟨drawn, sent, grows, isDrawn, sends⟩ := step.grows
  exact {
    gate := by
      intro operation states gated impossible
      rw [call_refused gated impossible]
      exact ⟨rfl, rfl⟩
    state := step.state_eq typed
    requests := ⟨sent, sends, grows.requests, grows.replies⟩
    draws := ⟨drawn, isDrawn, grows.drawn⟩
    decided := signOut_of_leaves_decided typed }

/-- A sign-out in the state in which every session starts, which is answered. -/
theorem call_transition_signOut :
    let before := Situation.quiet [Reply.silent]
    let call : SessionCall := .signOut (Value.ofString "user") (Value.ofString "password")
    SessionTransition before call (before.call call).1 (before.call call).2 :=
  call_transition _ ⟨rfl, rfl⟩

/-! ## Runs -/

/--
However a run goes on, a session that has decided about its client stays in its
state as long as no sign-out succeeds.
-/
theorem ending_state_of_isDecided
    (start : Situation)
    {calls : List SessionCall}
    (typed : ∀ call ∈ calls, call.IsTyped)
    (isDecided : start.session.state.isDecided = true)
    (stays :
      ∀ event ∈ start.history calls,
        ∀ username password,
          event.call = .signOut username password → event.outcome ≠ .ok .nothing) :
    (start.ending calls).session.state = start.session.state := by
  induction calls using List.reverseRecOn with
  | nil =>
      rfl
  | append_singleton earlier last inductionHypothesis =>
      rw [history_concat] at stays
      rw [ending_concat]
      have unchanged :=
        inductionHypothesis
          (fun call member => typed call (List.mem_append_left [last] member))
          (fun event member => stays event (List.mem_append_left _ member))
      by_contra leaves
      rw [← unchanged] at leaves isDecided
      obtain ⟨username, password, _, _, _, _, isSignOut, succeeded, _⟩ :=
        signOut_of_leaves_decided (typed last (by simp)) isDecided leaves
      exact stays ((start.ending earlier).event last) (by simp) username password isSignOut
        succeeded

end Situation

end SessionHandshake
