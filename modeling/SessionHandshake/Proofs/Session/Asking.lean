import SessionHandshake.Proofs.Endpoint
import SessionHandshake.Proofs.Session.Step

namespace SessionHandshake

/-!
# What the steps of an operation ask for

Each primitive step changes either the session or the surroundings, and only a
request and a draw are remembered there.  `Situation.Asks` puts this together
for the part of an operation that talks to a server: it leaves the session as
it is and sends at most one request.
-/

namespace Situation

variable {Result : Type}

/-- The requests that are sent, in the present state, when one is made. -/
def sending (situation : Situation) (request : Request) : List SessionRequest :=
  (situation.session.transport.handedOver? request).toList.map fun handed =>
    { state := situation.session.state, request := handed }

/-! ## The session after a step -/

@[simp] theorem withSession_session (situation : Situation) (update : Session → Session) :
    (situation.withSession update).session = update situation.session :=
  rfl

@[simp] theorem entering_session (situation : Situation) (state : SessionState) :
    (situation.entering state).session = { situation.session with state := state } :=
  rfl

@[simp] theorem reporting_session
    (situation : Situation) (level : LogLevel) (message : Text) :
    (situation.reporting level message).session = situation.session :=
  rfl

/-! ## What a step asks of the surroundings -/

theorem Grows.refl (situation : Situation) : situation.Grows [] [] situation where
  random := rfl
  drawn := (List.append_nil _).symm
  requests := (List.append_nil _).symm
  replies := rfl
  isDebugging := rfl

theorem Grows.trans
    {first second third : Situation}
    {drawn moreDrawn : List Value}
    {sent moreSent : List SessionRequest}
    (before : first.Grows drawn sent second)
    (after : second.Grows moreDrawn moreSent third) :
    first.Grows (drawn ++ moreDrawn) (sent ++ moreSent) third where
  random := after.random.trans before.random
  drawn := by rw [after.drawn, before.drawn, List.append_assoc]
  requests := by rw [after.requests, before.requests, List.append_assoc]
  replies := by
    rw [after.replies, before.replies, List.drop_drop, List.length_append]
  isDebugging := after.isDebugging.trans before.isDebugging

theorem grows_withSession (situation : Situation) (update : Session → Session) :
    situation.Grows [] [] (situation.withSession update) where
  random := rfl
  drawn := (List.append_nil _).symm
  requests := (List.append_nil _).symm
  replies := rfl
  isDebugging := rfl

theorem grows_reporting (situation : Situation) (level : LogLevel) (message : Text) :
    situation.Grows [] [] (situation.reporting level message) where
  random := rfl
  drawn := (List.append_nil _).symm
  requests := (List.append_nil _).symm
  replies := rfl
  isDebugging := by
    simp only [reporting, Console.report]
    split <;> rfl

theorem grows_drawing (situation : Situation) (length : Nat) :
    situation.Grows [.int length] [] (situation.drawing length) where
  random := rfl
  drawn := rfl
  requests := (List.append_nil _).symm
  replies := rfl
  isDebugging := rfl

theorem grows_asking (situation : Situation) (request : Request) :
    situation.Grows [] (situation.sending request) (situation.asking request) where
  random := rfl
  drawn := (List.append_nil _).symm
  requests := by
    simp only [asking, SessionAction.afterExchange, exchange, sending, Transport.exchange_sent]
  replies := by
    simp only [asking, SessionAction.afterExchange, exchange, sending,
      Transport.exchange_replies, List.length_map]
  isDebugging := Transport.exchange_isDebugging _ _ _ _

/-! ## Talking to a server -/

/-- The session is as before, and at most one request of a kind has been sent. -/
structure Asks
    (before : Situation)
    (isSuch : Request → Prop)
    (sent : List SessionRequest)
    (after : Situation) : Prop where
  session_eq : after.session = before.session
  grows : before.Grows [] sent after
  sent_eq :
    sent = [] ∨
      ∃ request handed,
        isSuch request ∧
        before.session.transport.handedOver? request = some handed ∧
        sent = [{ state := before.session.state, request := handed }]

theorem Asks.refl (situation : Situation) (isSuch : Request → Prop) :
    situation.Asks isSuch [] situation where
  session_eq := rfl
  grows := .refl situation
  sent_eq := .inl rfl

theorem Grows.report
    {before after : Situation}
    {drawn : List Value}
    {sent : List SessionRequest}
    (grows : before.Grows drawn sent after)
    (level : LogLevel)
    (message : Text) :
    before.Grows drawn sent (after.reporting level message) := by
  simpa only [List.append_nil] using grows.trans (grows_reporting after level message)

/-- A line has been printed, or none could be. -/
inductive MayReport (situation : Situation) : Situation → Prop where
  | nothing : MayReport situation situation
  | line (level : LogLevel) (message : Text) :
      MayReport situation (situation.reporting level message)

theorem MayReport.session_eq
    {situation after : Situation}
    (reports : situation.MayReport after) :
    after.session = situation.session := by
  cases reports <;> rfl

theorem MayReport.requests_eq
    {situation after : Situation}
    (reports : situation.MayReport after) :
    after.surroundings.requests = situation.surroundings.requests := by
  cases reports <;> rfl

theorem Grows.mayReport
    {before after last : Situation}
    {drawn : List Value}
    {sent : List SessionRequest}
    (grows : before.Grows drawn sent after)
    (reports : after.MayReport last) :
    before.Grows drawn sent last := by
  cases reports with
  | nothing =>
      exact grows
  | line level message =>
      exact grows.report level message

theorem Grows.change
    {before after : Situation}
    {drawn : List Value}
    {sent : List SessionRequest}
    (grows : before.Grows drawn sent after)
    (update : Session → Session) :
    before.Grows drawn sent (after.withSession update) := by
  simpa only [List.append_nil] using grows.trans (grows_withSession after update)

theorem Grows.ask
    {before between after : Situation}
    {drawn : List Value}
    {isSuch : Request → Prop}
    {sent : List SessionRequest}
    (grows : before.Grows drawn [] between)
    (asks : between.Asks isSuch sent after) :
    before.Grows drawn sent after := by
  simpa only [List.append_nil, List.nil_append] using grows.trans asks.grows

/-- A message before the request changes nothing about it. -/
theorem Asks.of_reporting
    {situation after : Situation}
    {isSuch : Request → Prop}
    {sent : List SessionRequest}
    {level : LogLevel}
    {message : Text}
    (asks : (situation.reporting level message).Asks isSuch sent after) :
    situation.Asks isSuch sent after where
  session_eq := asks.session_eq
  grows := (grows_reporting situation level message).trans asks.grows
  sent_eq := asks.sent_eq

/-- A narrower kind of request is also one of a wider kind. -/
theorem Asks.mono
    {situation after : Situation}
    {isSuch isWider : Request → Prop}
    {sent : List SessionRequest}
    (asks : situation.Asks isSuch sent after)
    (widens : ∀ request, isSuch request → isWider request) :
    situation.Asks isWider sent after where
  session_eq := asks.session_eq
  grows := asks.grows
  sent_eq := by
    rcases asks.sent_eq with nothing | ⟨request, handed, such, given, sentOne⟩
    · exact .inl nothing
    · exact .inr ⟨request, handed, widens request such, given, sentOne⟩

theorem asks_asking (situation : Situation) (request : Request) :
    situation.Asks (· = request) (situation.sending request) (situation.asking request) where
  session_eq := rfl
  grows := grows_asking situation request
  sent_eq := by
    unfold sending
    cases given : situation.session.transport.handedOver? request with
    | none =>
        exact .inl rfl
    | some handed =>
        exact .inr ⟨request, handed, rfl, given, rfl⟩

/-- The requests of an operation in a situation are those of the call it belongs to. -/
theorem Asks.sends
    (before : Situation)
    {situation after : Situation}
    {call : SessionCall}
    {sent : List SessionRequest}
    (asks : situation.Asks (before.session.CanPose call) sent after)
    (sameTransport : situation.session.transport = before.session.transport)
    (asksIn : situation.session.state = call.askingState before.session.state) :
    call.Sends before.session sent := by
  rcases asks.sent_eq with nothing | ⟨request, handed, such, given, sentOne⟩
  · rw [nothing]
    exact .nothing
  · rw [sentOne, asksIn]
    exact .one such (sameTransport ▸ given)

/-- The result of an endpoint that needs a body comes from a request that was answered. -/
theorem read_eq_ok
    {situation : Situation}
    {endpoint : Endpoint Result}
    {result : Result}
    (needsBody : endpoint.NeedsBody)
    (read : endpoint.read (situation.exchange endpoint.request).outcome = .ok result) :
    ∃ body handed status rest,
      endpoint.read (.ok body) = .ok result ∧
      situation.session.transport.handedOver? endpoint.request = some handed ∧
      situation.sending endpoint.request =
        [{ state := situation.session.state, request := handed }] ∧
      situation.surroundings.replies = .answered status body :: rest ∧
      isSuccess status = true := by
  unfold exchange at read
  rw [Transport.exchange_outcome] at read
  cases answered : situation.session.transport.outcome endpoint.request
      situation.surroundings.replies with
  | error fault =>
      rw [answered] at read
      exact (needsBody fault result read).elim
  | ok body =>
      rw [answered] at read
      obtain ⟨⟨handed, given⟩, status, rest, replies, succeeded⟩ :=
        Transport.outcome_eq_ok answered
      refine ⟨body, handed, status, rest, read, given, ?_, replies, succeeded⟩
      unfold sending
      rw [given]
      rfl

end Situation

end SessionHandshake
