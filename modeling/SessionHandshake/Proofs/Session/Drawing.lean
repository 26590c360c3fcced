import SessionHandshake.Proofs.Drawing
import SessionHandshake.Proofs.Session.History
import SessionHandshake.Proofs.Session.Overlooking
import SessionHandshake.Proofs.Session.Result

namespace SessionHandshake

/-!
# What sessions draw

A session asks its random source for a client token when it logs in without one, and for a
secret when it is told to make one or needs one for a response.  It asks for nothing else,
and for nothing at all where an operation is not possible.  Every source that gives the
same answers to these questions serves the session as well, over a whole run.
-/

namespace RandomSource

/-- Two sources answer questions the same that are put one after the other. -/
def AgreesOn (one other : RandomSource) : List Value → List Value → Prop
  | _, [] =>
      True
  | before, first :: rest =>
      one before first = other before first ∧ AgreesOn one other (before ++ [first]) rest

theorem agreesOn_append
    {one other : RandomSource}
    {before first rest : List Value} :
    AgreesOn one other before (first ++ rest) ↔
      AgreesOn one other before first ∧ AgreesOn one other (before ++ first) rest := by
  induction first generalizing before with
  | nil =>
      simp only [List.nil_append, List.append_nil, AgreesOn, true_and]
  | cons question others inductionHypothesis =>
      rw [List.cons_append, AgreesOn, inductionHypothesis, AgreesOn, and_assoc,
        List.append_assoc, List.singleton_append]

end RandomSource

namespace SessionCall

/-- A call puts one question at most. -/
theorem questions_cases (session : Session) (call : SessionCall) :
    call.questions session = [] ∨ call.questions session = [.int 16] := by
  cases call with
  | authenticate username password clientToken requestUser =>
      exact (ite_eq_or_eq _ _ _).symm
  | createSharedSecret =>
      exact .inr rfl
  | encryptionResponse publicKey verifyToken =>
      exact (ite_eq_or_eq _ _ _).symm
  | _ =>
      exact .inl rfl

/-- An operation that is not possible puts no question. -/
theorem questions_of_impossible
    {session : Session}
    {call : SessionCall}
    {operation : Text}
    {states : List SessionState}
    (gated : call.gate? = some (operation, states))
    (impossible : session.state ∉ states) :
    call.questions session = [] := by
  cases call with
  | authenticate username password clientToken requestUser =>
      cases gated
      exact if_neg fun draws => impossible (List.mem_singleton.mpr draws.1)
  | createSharedSecret =>
      cases gated
  | encryptionResponse publicKey verifyToken =>
      cases gated
  | _ =>
      rfl

/-- An operation that is possible asks for all that it draws. -/
theorem questions_of_possible
    {session : Session}
    {call : SessionCall}
    (possible :
      ∀ operation states, call.gate? = some (operation, states) → session.state ∈ states) :
    call.questions session = call.draws session := by
  cases call with
  | authenticate username password clientToken requestUser =>
      have isUnauthenticated := List.mem_singleton.mp (possible _ _ rfl)
      simp only [questions, draws, isUnauthenticated, true_and]
      rfl
  | _ =>
      rfl

end SessionCall

namespace Situation

/-- The situation over another random source. -/
def drawingFrom (situation : Situation) (source : RandomSource) : Situation :=
  { situation with surroundings := { situation.surroundings with random := source } }

theorem isAside_drawingFrom (source : RandomSource) :
    IsAside fun situation => situation.drawingFrom source where
  session := fun _ => rfl
  withSession := fun _ _ => rfl
  reporting := fun _ _ _ => rfl
  outcome := fun _ _ => rfl
  asking := fun _ _ => rfl
  drawing := fun _ _ => rfl
  padding := fun _ => rfl
  padded := fun _ _ => rfl
  closing := fun _ => rfl

/-- The questions that calls put to the random source, one after the other. -/
def questions (situation : Situation) : List SessionCall → List Value
  | [] =>
      []
  | first :: rest =>
      first.questions situation.session ++ questions (situation.call first).2 rest

/--
A call puts questions to the random source, and takes nothing else from it.

None of them is idle: where the answer to one is not accepted, that is the fault of the call.
-/
structure Draws (situation : Situation) (call : SessionCall) (questions : List Value) : Prop where
  drawn :
    (situation.call call).2.surroundings.drawn = situation.surroundings.drawn ++ questions
  random : (situation.call call).2.surroundings.random = situation.surroundings.random
  needed :
    ∀ question ∈ questions, ∀ fault,
      situation.surroundings.random.bytes situation.surroundings.drawn question = .error fault →
      (situation.call call).1 = .error fault
  suffice :
    ∀ source : RandomSource,
      situation.surroundings.random.AgreesOn source situation.surroundings.drawn questions →
      (situation.drawingFrom source).call call =
        ((situation.call call).1, (situation.call call).2.drawingFrom source)

/-- Calls put questions to the random source, and take nothing else from it. -/
structure RunDraws
    (situation : Situation)
    (calls : List SessionCall)
    (questions : List Value) : Prop where
  drawn :
    (situation.run calls).2.surroundings.drawn = situation.surroundings.drawn ++ questions
  random : (situation.run calls).2.surroundings.random = situation.surroundings.random
  suffice :
    ∀ source : RandomSource,
      situation.surroundings.random.AgreesOn source situation.surroundings.drawn questions →
      (situation.drawingFrom source).run calls =
        ((situation.run calls).1, (situation.run calls).2.drawingFrom source)

/-! ## One call -/

variable (situation : Situation) (call : SessionCall)

theorem call_drawn :
    (situation.call call).2.surroundings.drawn =
        situation.surroundings.drawn ++ call.questions situation.session ∧
      (situation.call call).2.surroundings.random = situation.surroundings.random := by
  by_cases refused :
    ∃ operation states,
      call.gate? = some (operation, states) ∧ situation.session.state ∉ states
  · obtain ⟨operation, states, gated, impossible⟩ := refused
    rw [SessionCall.questions_of_impossible gated impossible, call_refused gated impossible,
      List.append_nil]
    exact ⟨rfl, rfl⟩
  · push Not at refused
    rw [SessionCall.questions_of_possible refused]
    rcases (situation.call_step call).refused_or_leads with
      ⟨operation, states, gated, impossible, _, _⟩ | ⟨_, _, leads⟩
    · exact absurd (refused operation states gated) impossible
    · exact ⟨leads.grows.drawn, leads.grows.random⟩

/-- A draw that fails ends its call. -/
theorem call_undrawn
    {question : Value}
    {fault : Fault}
    (asked : question ∈ call.questions situation.session)
    (failed :
      situation.surroundings.random.bytes situation.surroundings.drawn question = .error fault) :
    (situation.call call).1 = .error fault := by
  cases call with
  | authenticate username password clientToken requestUser =>
      obtain ⟨draws, rfl⟩ := SessionCall.mem_questions_authenticate.mp asked
      have undrawn :
          situation.surroundings.random.fixedBytes situation.surroundings.drawn
            clientTokenLength = .error fault :=
        failed
      rw [authenticate_outcome _ _ _ _ draws.1, login, clientTokenFor, if_pos draws.2,
        RandomSource.clientToken, undrawn]
      rfl
  | createSharedSecret =>
      cases List.mem_singleton.mp asked
      have undrawn :
          situation.surroundings.random.sharedSecret situation.surroundings.drawn =
            .error fault :=
        failed
      rw [createSharedSecret_outcome, undrawn]
      rfl
  | encryptionResponse publicKey verifyToken =>
      obtain ⟨missing, rfl⟩ := SessionCall.mem_questions_encryptionResponse.mp asked
      have undrawn :
          situation.surroundings.random.sharedSecret situation.surroundings.drawn =
            .error fault :=
        failed
      rw [encryptionResponse_outcome, responseTo, secretForResponse, missing, undrawn]
      rfl
  | _ =>
      cases asked

/-- A call does the same over every source that answers its questions the same. -/
theorem call_drawingFrom
    {source : RandomSource}
    (agrees :
      situation.surroundings.random.AgreesOn source situation.surroundings.drawn
        (call.questions situation.session)) :
    (situation.drawingFrom source).call call =
      ((situation.call call).1, (situation.call call).2.drawingFrom source) := by
  refine SessionAction.OverlooksAt.call (isAside_drawingFrom source) fun question asked => ?_
  rcases call.questions_cases situation.session with none | one
  · rw [none] at asked
    cases asked
  · rw [one] at agrees asked
    cases List.mem_singleton.mp asked
    exact agrees.1.symm

theorem call_draws : situation.Draws call (call.questions situation.session) where
  drawn := (situation.call_drawn call).1
  random := (situation.call_drawn call).2
  needed := fun _ asked _ failed => situation.call_undrawn call asked failed
  suffice := fun _ agrees => situation.call_drawingFrom call agrees

/-! ## Runs -/

/-- What holds of each call holds of all of them: their questions are put in their order. -/
theorem run_draws (calls : List SessionCall) :
    situation.RunDraws calls (situation.questions calls) := by
  induction calls generalizing situation with
  | nil =>
      exact ⟨(List.append_nil _).symm, rfl, fun _ _ => rfl⟩
  | cons first rest inductionHypothesis =>
      have asks := situation.call_draws first
      have others := inductionHypothesis (situation.call first).2
      constructor
      case drawn =>
        refine others.drawn.trans ?_
        rw [asks.drawn, List.append_assoc]
        rfl
      case random =>
        exact others.random.trans asks.random
      case suffice =>
        intro source agrees
        obtain ⟨agreesFirst, agreesRest⟩ := RandomSource.agreesOn_append.mp agrees
        rw [← asks.drawn, ← asks.random] at agreesRest
        have ran := others.suffice source agreesRest
        simp only [run, asks.suffice source agreesFirst, ran]

end Situation

/--
Random values are exactly what the source has given, or a fault.

Each of the four is made of the answer to one question.  Hexadecimal forms have two digits for
each byte and are read back.  Each call of an operation of a session puts exactly its questions,
and so does every run.
-/
theorem random_values_as_given :
    (RandomSource.IsMadeOf RandomSource.sharedSecret 16 id ∧
        RandomSource.IsMadeOf RandomSource.verifyToken 4 id ∧
        RandomSource.IsMadeOf RandomSource.serverId 10 Text.ofBytes ∧
        RandomSource.IsMadeOf RandomSource.clientToken 16 Text.ofBytes) ∧
      (∀ content : Bytes, (Text.ofBytes content).IsHexOf content) ∧
      (∀ (situation : Situation) (call : SessionCall),
        situation.Draws call (call.questions situation.session)) ∧
      ∀ (situation : Situation) (calls : List SessionCall),
        situation.RunDraws calls (situation.questions calls) :=
  ⟨⟨RandomSource.isMadeOf_fixedBytes 16, RandomSource.isMadeOf_fixedBytes 4,
      RandomSource.isMadeOf_ofBytes 10, RandomSource.isMadeOf_ofBytes 16⟩,
    Text.isHexOf_ofBytes, Situation.call_draws, Situation.run_draws⟩

/-- Who has logged in cannot do so again, and the attempt draws no client token. -/
theorem second_logIn_draws_nothing :
    let start := Situation.quiet [Reply.granting "access"]
    let authenticated := start.ending [.logIn]
    start.Begins ∧
      authenticated.session.state = .authenticated ∧
      (authenticated.call .logIn).2.surroundings.drawn ≠
        authenticated.surroundings.drawn ++ [.int 16] := by
  intro start authenticated
  have isAuthenticated : authenticated.session.state = .authenticated := by
    decide +kernel
  have impossible : authenticated.session.state ∉ [SessionState.unauthenticated] := by
    rw [isAuthenticated]
    decide
  refine ⟨Situation.quiet_begins _, isAuthenticated, ?_⟩
  rw [SessionCall.logIn, Situation.call_refused rfl impossible]
  exact fun same => absurd (List.self_eq_append_right.mp same) (List.cons_ne_nil _ _)

end SessionHandshake
