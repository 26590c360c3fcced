import SessionHandshake.Proofs.Session.Rest
import SessionHandshake.Proofs.Session.Turn

namespace SessionHandshake

/-!
# Rejected sessions

A rejected session stays rejected, and asks the session server nothing more,
until a sign-out succeeds.  What a sign-out is worth is counted: a run has at most
one question about a join more than it has successful sign-outs.
-/

/-- The method by which a request has been handed over. -/
def SentRequest.method : SentRequest → Text
  | .direct request =>
      request.method
  | .web request =>
      request.method

theorem Transport.handedOver?_method
    {transport : Transport}
    {request : Request}
    {handed : SentRequest}
    (given : transport.handedOver? request = some handed) :
    handed.method = request.method := by
  cases transport with
  | direct =>
      cases given
      rfl
  | web timeout userAgent =>
      simp only [Transport.handedOver?] at given
      split at given
      · cases given
      · next body written =>
          split at given
          · cases given
          · next prepared made =>
              cases given
              simp only [WebRequest.ofRequest, bind_eq_ok_iff, pure_eq_ok_iff] at made
              obtain ⟨_, _, _, _, _, _, _, _, rfl⟩ := made
              rfl

/-- A question about a join is the only request that is not posted. -/
def SessionRequest.isJoinQuestion (request : SessionRequest) : Bool :=
  request.request.method = "GET"

/-- Only a verification asks about a join. -/
def SessionCall.isVerification : SessionCall → Bool
  | .verify .. =>
      true
  | _ =>
      false

theorem Session.CanPose.method_eq
    {session : Session}
    {call : SessionCall}
    {request : Request}
    (posed : session.CanPose call request) :
    request.method = if call.isVerification then "GET" else "POST" := by
  cases call with
  | authenticate username password clientToken requestUser =>
      obtain ⟨token, _, rfl⟩ := posed
      rfl
  | join serverId secret publicKey =>
      obtain ⟨tokens, profile, hash, _, _, _, rfl⟩ := posed
      rfl
  | refresh requestUser =>
      obtain ⟨tokens, _, rfl⟩ := posed
      rfl
  | validate =>
      obtain ⟨tokens, _, rfl⟩ := posed
      rfl
  | invalidate =>
      obtain ⟨tokens, _, rfl⟩ := posed
      rfl
  | signOut username password =>
      rw [show request = _ from posed]
      rfl
  | verify username serverId secret publicKey address =>
      obtain ⟨hash, _, rfl⟩ := posed
      rfl
  | createSharedSecret =>
      cases posed
  | encryptionResponse publicKey verifyToken =>
      cases posed
  | close =>
      cases posed

/-- The requests of a verification are questions about a join, and no others are. -/
theorem SessionCall.Sends.isJoinQuestion_eq
    {session : Session}
    {call : SessionCall}
    {sent : List SessionRequest}
    (sends : call.Sends session sent) :
    ∀ request ∈ sent, request.isJoinQuestion = call.isVerification := by
  intro request member
  cases sends with
  | nothing =>
      cases member
  | one posed given =>
      rw [List.mem_singleton.mp member]
      simp only [SessionRequest.isJoinQuestion, Transport.handedOver?_method given,
        posed.method_eq]
      cases call.isVerification <;> rfl

theorem SessionCall.Sends.length_le
    {session : Session}
    {call : SessionCall}
    {sent : List SessionRequest}
    (sends : call.Sends session sent) :
    sent.length ≤ 1 := by
  cases sends with
  | nothing =>
      exact Nat.zero_le 1
  | one _ _ =>
      exact Nat.le_refl 1

namespace SessionTurn

/-- How many questions about a join the turn sends. -/
def questions (turn : SessionTurn) : Nat :=
  turn.sent.countP SessionRequest.isJoinQuestion

/-- The turn is a sign-out that succeeds. -/
def signsOut (turn : SessionTurn) : Bool :=
  match turn.call with
  | .signOut .. =>
      turn.outcome.isOk
  | _ =>
      false

theorem questions_eq_zero
    {turn : SessionTurn}
    (notVerification : turn.call.isVerification = false) :
    turn.questions = 0 := by
  refine List.countP_eq_zero.mpr ?_
  intro request member isQuestion
  rw [turn.sends.isJoinQuestion_eq request member, notVerification] at isQuestion
  cases isQuestion

theorem questions_le_one (turn : SessionTurn) : turn.questions ≤ 1 :=
  Nat.le_trans List.countP_le_length turn.sends.length_le

end SessionTurn

namespace Situation

/-- How many questions about a join calls send. -/
def joinQuestions (start : Situation) (calls : List SessionCall) : Nat :=
  ((start.turns calls).map SessionTurn.questions).sum

/-- How many calls are sign-outs that succeed. -/
def signOuts (start : Situation) (calls : List SessionCall) : Nat :=
  (start.turns calls).countP SessionTurn.signsOut

end Situation

/-- The states of a server that has asked about its client. -/
def SessionState.hasAsked : SessionState → Bool
  | .verifying =>
      true
  | .verified =>
      true
  | .rejected =>
      true
  | _ =>
      false

/-! ## One turn -/

/--
A call has done nothing, has been a first verification, has been a successful
sign-out, or is none of these and leaves a server where it stands.
-/
theorem SessionStep.verification_cases
    {before after : Situation}
    {call : SessionCall}
    {outcome : Except Fault SessionResult}
    (step : SessionStep before call outcome after) :
    after = before ∨
      before.session.state.hasAsked = false ∧ after.session.state.hasAsked = true ∨
      (∃ username password, call = .signOut username password) ∧ outcome.isOk = true ∨
      call.isVerification = false ∧
        after.session.state.hasAsked = before.session.state.hasAsked ∧
        (before.session.state = .rejected →
          after.session.state = .rejected ∧ call.askingState .rejected = .rejected) := by
  have stays :
      ∀ {sent : List SessionRequest} {session : Session},
        before.Leads call sent session after →
        session.state = before.session.state →
        call.isVerification = false →
        call.askingState .rejected = .rejected →
        call.isVerification = false ∧
          after.session.state.hasAsked = before.session.state.hasAsked ∧
          (before.session.state = .rejected →
            after.session.state = .rejected ∧ call.askingState .rejected = .rejected) := by
    intro sent session leads sameState notVerification asksRejected
    rw [leads.session_eq, sameState]
    exact ⟨notVerification, rfl, fun isRejected => ⟨isRejected, asksRejected⟩⟩
  have staysClient :
      ∀ {sent : List SessionRequest} {session : Session},
        before.Leads call sent session after →
        before.session.state.hasAsked = false →
        session.state.hasAsked = false →
        call.isVerification = false →
        call.isVerification = false ∧
          after.session.state.hasAsked = before.session.state.hasAsked ∧
          (before.session.state = .rejected →
            after.session.state = .rejected ∧ call.askingState .rejected = .rejected) := by
    intro sent session leads clientBefore clientAfter notVerification
    rw [leads.session_eq, clientBefore, clientAfter]
    refine ⟨notVerification, rfl, ?_⟩
    intro isRejected
    rw [isRejected] at clientBefore
    cases clientBefore
  have ofWithTokens :
      before.session.state ∈ SessionAction.withTokens → before.session.state.hasAsked = false := by
    intro possible
    simp only [SessionAction.withTokens, List.mem_cons, List.not_mem_nil, or_false] at possible
    rcases possible with state | state <;> rw [state] <;> rfl
  cases step with
  | refused gated impossible =>
      exact .inl rfl
  | loggedIn isUnauthenticated _ leads =>
      exact .inr (.inr (.inr (staysClient leads (by rw [isUnauthenticated]; rfl) rfl rfl)))
  | joinFailed isAuthenticated leads =>
      have client : before.session.state.hasAsked = false := by
        rw [isAuthenticated]
        rfl
      exact .inr (.inr (.inr (staysClient leads client client rfl)))
  | joined isAuthenticated _ _ _ _ leads =>
      exact .inr (.inr (.inr (staysClient leads (by rw [isAuthenticated]; rfl) rfl rfl)))
  | renewalFailed possible leads =>
      exact .inr (.inr (.inr (staysClient leads (ofWithTokens possible) rfl rfl)))
  | renewed possible _ _ leads =>
      exact .inr (.inr (.inr (staysClient leads (ofWithTokens possible) rfl rfl)))
  | invalidated possible leads =>
      exact .inr (.inr (.inr (staysClient leads (ofWithTokens possible) rfl rfl)))
  | signedOut _ _ _ =>
      exact .inr (.inr (.inl ⟨⟨_, _, rfl⟩, rfl⟩))
  | rejected isUnauthenticated leads =>
      rw [leads.session_eq, isUnauthenticated]
      exact .inr (.inl ⟨rfl, rfl⟩)
  | unjudged isUnauthenticated _ leads =>
      rw [leads.session_eq, isUnauthenticated]
      exact .inr (.inl ⟨rfl, rfl⟩)
  | verified isUnauthenticated _ _ _ leads =>
      rw [leads.session_eq, isUnauthenticated]
      exact .inr (.inl ⟨rfl, rfl⟩)
  | _ =>
      -- What is left keeps the state, whichever it is.
      next leads =>
        exact .inr (.inr (.inr (stays leads rfl rfl rfl)))

namespace SessionTurn

theorem signsOut_eq_true
    {turn : SessionTurn}
    (isSignOut : ∃ username password, turn.call = .signOut username password)
    (succeeded : turn.outcome.isOk = true) :
    turn.signsOut = true := by
  obtain ⟨username, password, isSignOut⟩ := isSignOut
  simp only [signsOut, isSignOut, succeeded]

/-- A turn of a rejected session that is no successful sign-out changes and asks nothing. -/
theorem rejected_after
    (turn : SessionTurn)
    (isRejected : turn.before.session.state = .rejected)
    (noSignOut : turn.signsOut = false) :
    turn.after.session.state = .rejected ∧
      ∀ request ∈ turn.sent, request.state = .rejected ∧ request.isJoinQuestion = false := by
  rcases turn.step.verification_cases with
    same | ⟨unasked, _⟩ | ⟨isSignOut, succeeded⟩ | ⟨notVerification, _, stays⟩
  · refine ⟨by rw [same, isRejected], ?_⟩
    intro request member
    rw [sent_eq_nil same] at member
    cases member
  · rw [isRejected] at unasked
    cases unasked
  · rw [signsOut_eq_true isSignOut succeeded] at noSignOut
    cases noSignOut
  · obtain ⟨staysRejected, asksRejected⟩ := stays isRejected
    refine ⟨staysRejected, ?_⟩
    intro request member
    rw [turn.sends.state_eq request member, turn.sends.isJoinQuestion_eq request member,
      isRejected]
    exact ⟨asksRejected, notVerification⟩

/-- A question makes a server one that has asked, and only a sign-out makes up for that. -/
theorem questions_add_le (turn : SessionTurn) :
    turn.questions + turn.before.session.state.hasAsked.toNat ≤
      turn.signsOut.toNat + turn.after.session.state.hasAsked.toNat := by
  rcases turn.step.verification_cases with
    same | ⟨unasked, hasAsked⟩ | ⟨isSignOut, succeeded⟩ | ⟨notVerification, stays, _⟩
  · have noQuestions : turn.questions = 0 := by
      rw [questions, sent_eq_nil same]
      rfl
    rw [noQuestions, same]
    omega
  · have questions := turn.questions_le_one
    rw [unasked, hasAsked]
    simp only [Bool.toNat_false, Bool.toNat_true]
    omega
  · have noQuestions : turn.questions = 0 := by
      refine questions_eq_zero ?_
      obtain ⟨username, password, isSignOut⟩ := isSignOut
      rw [isSignOut]
      rfl
    have atMostOne := turn.before.session.state.hasAsked.toNat_le
    rw [noQuestions, signsOut_eq_true isSignOut succeeded, Bool.toNat_true]
    omega
  · rw [questions_eq_zero notVerification, stays]
    omega

end SessionTurn

/-! ## Runs -/

namespace Situation

/-- Every question of a run is made up for by a sign-out, unless it was the last one. -/
theorem joinQuestions_add_le (start : Situation) (calls : List SessionCall) :
    start.joinQuestions calls + start.session.state.hasAsked.toNat ≤
      start.signOuts calls + (start.ending calls).session.state.hasAsked.toNat := by
  induction calls using List.reverseRecOn with
  | nil =>
      exact Nat.le_refl _
  | append_singleton earlier last inductionHypothesis =>
      have lastTurn :=
        SessionTurn.questions_add_le { before := start.ending earlier, call := last }
      simp only at lastTurn
      have questions :
          start.joinQuestions (earlier ++ [last]) =
            start.joinQuestions earlier +
              SessionTurn.questions { before := start.ending earlier, call := last } := by
        simp [joinQuestions, turns_concat]
      have signOuts :
          start.signOuts (earlier ++ [last]) =
            start.signOuts earlier +
              (SessionTurn.signsOut { before := start.ending earlier, call := last }).toNat := by
        simp only [Situation.signOuts, turns_concat, List.countP_append, List.countP_singleton]
        cases SessionTurn.signsOut { before := start.ending earlier, call := last } <;> rfl
      have ends :
          (start.ending (earlier ++ [last])).session =
            (SessionTurn.after { before := start.ending earlier, call := last }).session := by
        rw [ending_concat]
        rfl
      rw [questions, signOuts, ends]
      omega

/-- A rejected session stays rejected and asks nothing, whatever it is asked to do. -/
theorem rejected_ending
    {start : Situation}
    {calls : List SessionCall}
    (isRejected : start.session.state = .rejected)
    (noSignOut : ∀ turn ∈ start.turns calls, turn.signsOut = false) :
    (start.ending calls).session.state = .rejected ∧
      ∀ turn ∈ start.turns calls,
        ∀ request ∈ turn.sent, request.state = .rejected ∧ request.isJoinQuestion = false := by
  induction calls using List.reverseRecOn with
  | nil =>
      exact ⟨isRejected, fun turn member => nomatch member⟩
  | append_singleton earlier last inductionHypothesis =>
      rw [turns_concat] at noSignOut ⊢
      rw [ending_concat]
      obtain ⟨stillRejected, quiet⟩ :=
        inductionHypothesis fun turn member => noSignOut turn (List.mem_append_left _ member)
      obtain ⟨staysRejected, lastQuiet⟩ :=
        SessionTurn.rejected_after { before := start.ending earlier, call := last } stillRejected
          (noSignOut _ (by simp))
      refine ⟨staysRejected, ?_⟩
      intro turn member
      rcases List.mem_append.mp member with isEarlier | isLast
      · exact quiet turn isEarlier
      · rw [List.mem_singleton.mp isLast]
        exact lastQuiet

/--
Once a session is rejected, it stays so and asks nothing more about joins, as long
as no sign-out succeeds, and no run asks twice without such a sign-out.
-/
theorem one_question_per_signOut (start : Situation) :
    (∀ earlier later,
        (start.ending earlier).session.state = .rejected →
        (∀ turn ∈ (start.ending earlier).turns later, turn.signsOut = false) →
        (start.ending (earlier ++ later)).session.state = .rejected ∧
          ∀ turn ∈ (start.ending earlier).turns later,
            ∀ request ∈ turn.sent, request.state = .rejected ∧ request.isJoinQuestion = false) ∧
      ∀ calls, start.joinQuestions calls ≤ start.signOuts calls + 1 := by
  constructor
  · intro earlier later isRejected noSignOut
    rw [ending_append]
    exact rejected_ending isRejected noSignOut
  · intro calls
    have counted := start.joinQuestions_add_le calls
    have atMostOne := (start.ending calls).session.state.hasAsked.toNat_le
    omega

/-! ## A rejected client -/

/-- A verification of a player of the name `Notch`. -/
def verifyNotch : SessionCall :=
  .verify (.text "Notch") (.text []) (.bytes []) (.bytes [1]) .null

def signOutUser : SessionCall :=
  .signOut (Value.ofString "user") (Value.ofString "password")

/-- A rejected server whose sign-out is refused stays rejected, and verifies nobody. -/
theorem one_question_per_signOut_refused :
    let start := Situation.quiet [Reply.silent, .answered 500 (.bytes [])]
    let rejected := start.ending [verifyNotch]
    rejected.session.state = .rejected ∧
      (∀ turn ∈ rejected.turns [signOutUser, verifyNotch], turn.signsOut = false) ∧
      (start.ending ([verifyNotch] ++ [signOutUser, verifyNotch])).session.state = .rejected ∧
      (∀ turn ∈ rejected.turns [signOutUser, verifyNotch],
        ∀ request ∈ turn.sent, request.state = .rejected ∧ request.isJoinQuestion = false) ∧
      start.joinQuestions [verifyNotch, signOutUser, verifyNotch] ≤
        start.signOuts [verifyNotch, signOutUser, verifyNotch] + 1 := by
  intro start rejected
  have isRejected : rejected.session.state = .rejected := by
    decide +kernel
  have noSignOut :
      ∀ turn ∈ rejected.turns [signOutUser, verifyNotch], turn.signsOut = false := by
    decide +kernel
  obtain ⟨staysRejected, bounded⟩ := one_question_per_signOut start
  obtain ⟨stillRejected, quiet⟩ := staysRejected _ _ isRejected noSignOut
  exact ⟨isRejected, noSignOut, stillRejected, quiet, bounded _⟩

/-- A sign-out makes a rejected session one that can verify again, and let its client in. -/
theorem signOut_reopens_verification :
    let start := Situation.quiet [Reply.silent, Reply.silent, Reply.written
      "\x7b\"id\": \"069a79f444e94726a5befca90e38aaf5\", \"name\": \"Notch\"\x7d"]
    start.Begins ∧
      (start.ending [verifyNotch]).session.state = .rejected ∧
      (start.ending [verifyNotch, signOutUser, verifyNotch]).session.state = .verified ∧
      start.joinQuestions [verifyNotch, signOutUser, verifyNotch] = 2 :=
  ⟨quiet_begins _, by decide +kernel, by decide +kernel, by decide +kernel⟩

end Situation

end SessionHandshake
