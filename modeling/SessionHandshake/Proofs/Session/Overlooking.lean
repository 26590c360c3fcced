import SessionHandshake.Proofs.Random
import SessionHandshake.Proofs.Session.Perform

namespace SessionHandshake

/-!
# What an operation overlooks

Where a change to a situation touches nothing that an operation looks at, the operation
ends with the same after the change as without it, and the change stays.  This is an
equation between two performances, with nothing left open, and not only a likeness of two
sessions.  Of the random source an operation looks at no more than the answers to its own
questions.
-/

/-- The questions that a call on a session puts to the random source. -/
def SessionCall.questions (session : Session) : SessionCall → List Value
  | .authenticate _ _ clientToken _ =>
      if session.state = .unauthenticated ∧ clientToken.isNull = true then [.int 16] else []
  | .createSharedSecret =>
      [.int 16]
  | .encryptionResponse _ _ =>
      if session.sharedSecret.isNone then [.int 16] else []
  | _ =>
      []

theorem SessionCall.mem_questions_authenticate
    {session : Session}
    {username password clientToken requestUser question : Value} :
    question ∈ (authenticate username password clientToken requestUser).questions session ↔
      (session.state = .unauthenticated ∧ clientToken.isNull = true) ∧ question = .int 16 := by
  rw [questions, List.mem_ite_nil_right, List.mem_singleton]

theorem SessionCall.mem_questions_encryptionResponse
    {session : Session}
    {publicKey verifyToken question : Value} :
    question ∈ (encryptionResponse publicKey verifyToken).questions session ↔
      session.sharedSecret = none ∧ question = .int 16 := by
  rw [questions, List.mem_ite_nil_right, List.mem_singleton, Option.isNone_iff_eq_none]

namespace Situation

/--
A change to situations touches nothing that their sessions look at, but for what the random
source answers.
-/
structure IsAside (shift : Situation → Situation) : Prop where
  session : ∀ situation, (shift situation).session = situation.session
  withSession :
    ∀ situation update,
      (shift situation).withSession update = shift (situation.withSession update)
  reporting :
    ∀ situation level message,
      (shift situation).reporting level message = shift (situation.reporting level message)
  outcome :
    ∀ situation request,
      ((shift situation).exchange request).outcome = (situation.exchange request).outcome
  asking :
    ∀ situation request,
      (shift situation).asking request = shift (situation.asking request)
  drawing :
    ∀ situation length,
      (shift situation).drawing length = shift (situation.drawing length)
  padding :
    ∀ situation,
      (shift situation).surroundings.padding = situation.surroundings.padding
  padded :
    ∀ situation padding,
      ({ shift situation with
          surroundings := { (shift situation).surroundings with padding := padding } } :
        Situation) =
      shift { situation with
        surroundings := { situation.surroundings with padding := padding } }
  closing :
    ∀ situation,
      ({ shift situation with
          surroundings := { (shift situation).surroundings with
            closes := (shift situation).surroundings.closes + 1 } } : Situation) =
      shift { situation with
        surroundings := { situation.surroundings with
          closes := situation.surroundings.closes + 1 } }

end Situation

namespace SessionAction

variable {Result Next : Type} {shift : Situation → Situation}

/-- From a situation an action does the same after a change to it, and the change stays. -/
def OverlooksAt
    (shift : Situation → Situation)
    (situation : Situation)
    (action : SessionAction Result) : Prop :=
  (shift situation).perform action =
    ((situation.perform action).1, shift (situation.perform action).2)

/-- An action overlooks a change from every situation. -/
def Overlooks (shift : Situation → Situation) (action : SessionAction Result) : Prop :=
  ∀ situation, OverlooksAt shift situation action

/-! ## Sequences of steps -/

/-- What follows a step need overlook the change only where the step leads. -/
theorem OverlooksAt.bind
    {situation : Situation}
    {first : SessionAction Result}
    {next : Result → SessionAction Next}
    (firstOverlooks : OverlooksAt shift situation first)
    (nextOverlooks :
      ∀ result after, situation.perform first = (.ok result, after) →
        OverlooksAt shift after (next result)) :
    OverlooksAt shift situation (first >>= next) := by
  unfold OverlooksAt at firstOverlooks ⊢
  simp only [Situation.perform_bind, firstOverlooks]
  rcases performed : situation.perform first with ⟨outcome, after⟩
  cases outcome with
  | error fault =>
      rfl
  | ok result =>
      exact nextOverlooks result after performed

namespace Overlooks

theorem pure (result : Result) : Overlooks shift (Pure.pure result : SessionAction Result) :=
  fun _ => rfl

theorem throw (fault : Fault) :
    Overlooks shift (MonadExcept.throw fault : SessionAction Result) :=
  fun _ => rfl

theorem lift (outcome : Except Fault Result) : Overlooks shift (SessionAction.lift outcome) := by
  intro situation
  simp only [OverlooksAt, Situation.perform_lift]

theorem bind
    {first : SessionAction Result}
    {next : Result → SessionAction Next}
    (firstOverlooks : Overlooks shift first)
    (nextOverlooks : ∀ result, Overlooks shift (next result)) :
    Overlooks shift (first >>= next) :=
  fun situation => (firstOverlooks situation).bind fun result after _ => nextOverlooks result after

theorem tryCatch
    {action : SessionAction Result}
    {handle : Fault → SessionAction Result}
    (overlooks : Overlooks shift action)
    (handlerOverlooks : ∀ fault, Overlooks shift (handle fault)) :
    Overlooks shift (MonadExcept.tryCatch action handle) := by
  intro situation
  have actionOverlooks := overlooks situation
  unfold OverlooksAt at actionOverlooks ⊢
  simp only [Situation.perform_tryCatch, actionOverlooks]
  rcases situation.perform action with ⟨outcome, after⟩
  cases outcome with
  | ok result =>
      rfl
  | error fault =>
      exact handlerOverlooks fault after

theorem onFault
    {action : SessionAction Result}
    {handle : Fault → SessionAction Unit}
    (overlooks : Overlooks shift action)
    (handlerOverlooks : ∀ fault, Overlooks shift (handle fault)) :
    Overlooks shift (SessionAction.onFault action handle) :=
  tryCatch overlooks fun fault => bind (handlerOverlooks fault) fun _ => throw fault

/-- A look at the situation is harmless if the change is not looked at. -/
theorem get_bind
    {next : Situation → SessionAction Next}
    (unseen : ∀ situation, next (shift situation) = next situation)
    (nextOverlooks : ∀ situation, Overlooks shift (next situation)) :
    Overlooks shift (get >>= next) := by
  intro situation
  unfold OverlooksAt
  simp only [Situation.perform_bind, Situation.perform_get, unseen]
  exact nextOverlooks situation situation

end Overlooks

/-! ## Primitive steps -/

section Aside

variable (aside : Situation.IsAside shift)
include aside

namespace Overlooks

theorem session : Overlooks shift SessionAction.session := by
  intro situation
  simp only [OverlooksAt, Situation.perform_session, aside.session]

theorem change (update : Session → Session) :
    Overlooks shift (SessionAction.change update) := by
  intro situation
  simp only [OverlooksAt, Situation.perform_change, aside.withSession]

theorem enter (state : SessionState) : Overlooks shift (SessionAction.enter state) :=
  change aside fun session => { session with state := state }

theorem report (level : LogLevel) (message : Text) :
    Overlooks shift (SessionAction.report level message) := by
  intro situation
  simp only [OverlooksAt, Situation.perform_report, aside.reporting]

theorem reportUser (level : LogLevel) (words : String) (username : Value) :
    Overlooks shift (SessionAction.reportUser level words username) :=
  bind (lift _) fun _ => report aside _ _

theorem send (endpoint : Endpoint Result) : Overlooks shift (SessionAction.send endpoint) := by
  intro situation
  simp only [OverlooksAt, Situation.perform_send, aside.outcome, aside.asking]

theorem expect (operation : Text) (states : List SessionState) :
    Overlooks shift (SessionAction.expect operation states) := by
  refine bind (session aside) fun session => ?_
  split
  · exact pure ()
  · exact throw _

theorem authServer : Overlooks shift SessionAction.authServer :=
  bind (session aside) fun _ => bind (lift _) fun _ => pure _

theorem sessionServer : Overlooks shift SessionAction.sessionServer :=
  bind (session aside) fun _ => bind (lift _) fun _ => pure _

theorem tokens : Overlooks shift SessionAction.tokens := by
  refine bind (session aside) fun session => ?_
  split
  · exact pure _
  · exact throw _

theorem profile : Overlooks shift SessionAction.profile := by
  refine bind (session aside) fun session => ?_
  split
  · exact pure _
  · exact throw _

theorem close : Overlooks shift SessionAction.close := by
  refine bind (session aside) fun session => ?_
  split
  · intro situation
    simp only [OverlooksAt, Situation.perform_changeSurroundings, aside.closing]
  · exact pure ()

end Overlooks

/-- A draw overlooks a change after which the source answers the same. -/
theorem OverlooksAt.draw
    {situation : Situation}
    {length : Nat}
    {ask : RandomSource → List Value → Except Fault Result}
    (sameAnswer :
      ask (shift situation).surroundings.random (shift situation).surroundings.drawn =
        ask situation.surroundings.random situation.surroundings.drawn) :
    OverlooksAt shift situation (SessionAction.draw length ask) := by
  simp only [OverlooksAt, Situation.perform_draw, sameAnswer, aside.drawing]

/-! ## The operations that draw -/

/-- A log-in draws before anything is sent, and only if it is possible. -/
theorem OverlooksAt.authenticate
    {situation : Situation}
    {clientToken : Value}
    (sameAnswer :
      situation.session.state = .unauthenticated ∧ clientToken.isNull = true →
        (shift situation).surroundings.random (shift situation).surroundings.drawn (.int 16) =
          situation.surroundings.random situation.surroundings.drawn (.int 16))
    (username password requestUser : Value) :
    OverlooksAt shift situation
      (SessionAction.authenticate username password clientToken requestUser) := by
  refine (Overlooks.expect aside _ _ situation).bind fun _ after possible => ?_
  rw [Situation.perform_expect] at possible
  split at possible
  · next isUnauthenticated =>
      cases possible
      have tokenOverlooks : OverlooksAt shift situation (clientTokenOr clientToken) := by
        unfold clientTokenOr
        split
        · next isNull =>
            have same := sameAnswer ⟨List.mem_singleton.mp isUnauthenticated, isNull⟩
            have sameToken := congrArg (·.map Text.ofBytes) (RandomSource.fixedBytes_congr same)
            exact (draw aside sameToken).bind fun _ after _ => Overlooks.pure _ after
        · exact Overlooks.pure _ situation
      refine tokenOverlooks.bind fun token after _ => ?_
      refine Overlooks.bind (.reportUser aside _ _ _) (fun _ => ?_) after
      refine .bind (.onFault (.bind (.authServer aside) fun _ => .send aside _)
        fun _ => .report aside _ _) ?_
      rintro ⟨tokens, profile⟩
      exact .bind (.change aside _) fun _ => .bind (.report aside _ _) fun _ => .pure _
  · cases possible

theorem OverlooksAt.createSharedSecret
    {situation : Situation}
    (sameAnswer :
      (shift situation).surroundings.random (shift situation).surroundings.drawn (.int 16) =
        situation.surroundings.random situation.surroundings.drawn (.int 16)) :
    OverlooksAt shift situation SessionAction.createSharedSecret :=
  (draw aside (RandomSource.fixedBytes_congr sameAnswer)).bind fun _ after _ =>
    Overlooks.bind (.change aside _) (fun _ => .pure _) after

theorem OverlooksAt.encryptionResponse
    {situation : Situation}
    (sameAnswer :
      situation.session.sharedSecret = none →
        (shift situation).surroundings.random (shift situation).surroundings.drawn (.int 16) =
          situation.surroundings.random situation.surroundings.drawn (.int 16))
    (publicKey verifyToken : Value) :
    OverlooksAt shift situation (SessionAction.encryptionResponse publicKey verifyToken) := by
  have secretOverlooks : OverlooksAt shift situation SessionAction.sharedSecret := by
    refine (Overlooks.session aside situation).bind fun session after performed => ?_
    cases performed
    split
    · exact Overlooks.pure _ situation
    · next missing =>
        exact createSharedSecret aside (sameAnswer missing)
  refine secretOverlooks.bind fun secret after _ => ?_
  refine Overlooks.get_bind (fun situation => ?_) (fun situation => ?_) after
  · rw [aside.padding]
  · refine .bind (fun after => ?_) fun _ => .lift _
    simp only [OverlooksAt, Situation.perform_changeSurroundings, aside.padding, aside.padded]

/-! ## The operations that do not draw -/

namespace Overlooks

theorem join (serverId secret publicKey : Value) :
    Overlooks shift (SessionAction.join serverId secret publicKey) := by
  have announceOverlooks : Overlooks shift (announceJoin serverId secret publicKey) :=
    bind (lift _) fun _ => bind (report aside _ _) fun _ => bind (tokens aside) fun _ =>
      bind (profile aside) fun _ => bind (sessionServer aside) fun _ =>
        bind (send aside _) fun _ => pure _
  refine bind (expect aside _ _) fun _ => bind (enter aside _) fun _ => ?_
  refine bind (onFault announceOverlooks fun _ =>
    bind (report aside _ _) fun _ => change aside _) fun hash => ?_
  exact bind (change aside _) fun _ => bind (profile aside) fun _ =>
    bind (report aside _ _) fun _ => pure _

theorem refresh (requestUser : Value) : Overlooks shift (SessionAction.refresh requestUser) := by
  have exchangeOverlooks : Overlooks shift (exchangeTokens requestUser) :=
    bind (tokens aside) fun _ => bind (authServer aside) fun _ => send aside _
  refine bind (expect aside _ _) fun _ => ?_
  refine bind (onFault exchangeOverlooks fun _ =>
    bind (report aside _ _) fun _ => change aside _) ?_
  rintro ⟨tokens, profile⟩
  exact bind (change aside _) fun _ => bind (lift _) fun _ =>
    bind (report aside _ _) fun _ => pure _

theorem validate : Overlooks shift SessionAction.validate :=
  bind (expect aside _ _) fun _ => bind (tokens aside) fun _ =>
    bind (authServer aside) fun _ => send aside _

theorem invalidate : Overlooks shift SessionAction.invalidate :=
  bind (expect aside _ _) fun _ => bind (tokens aside) fun _ =>
    bind (authServer aside) fun _ => bind (send aside _) fun _ =>
      bind (lift _) fun _ => bind (report aside _ _) fun _ => change aside _

theorem signOut (username password : Value) :
    Overlooks shift (SessionAction.signOut username password) :=
  bind (authServer aside) fun _ => bind (send aside _) fun _ =>
    bind (reportUser aside _ _ _) fun _ => change aside _

theorem verify (username serverId secret publicKey address : Value) :
    Overlooks shift (SessionAction.verify username serverId secret publicKey address) := by
  have askOverlooks :
      Overlooks shift (askAboutJoin username serverId secret publicKey address) :=
    bind (lift _) fun _ => bind (lift _) fun _ => bind (report aside _ _) fun _ =>
      bind (sessionServer aside) fun _ => bind (send aside _) fun _ => pure _
  have unansweredOverlooks (fault : Fault) :
      Overlooks shift
        (rejectUnanswered username fault : SessionAction (Text × Option Profile)) := by
    refine bind (enter aside _) fun _ => ?_
    split
    · exact bind (reportUser aside _ _ _) fun _ => throw _
    · exact bind (reportUser aside _ _ _) fun _ => throw _
  have unconfirmedOverlooks (answered : Option Profile) :
      Overlooks shift (rejectUnconfirmed username answered : SessionAction Profile) :=
    bind (enter aside _) fun _ => bind (reportUser aside _ _ _) fun _ => throw _
  refine bind (expect aside _ _) fun _ => bind (enter aside _) fun _ => ?_
  refine bind (tryCatch askOverlooks unansweredOverlooks) ?_
  rintro ⟨hash, _ | profile⟩
  · exact unconfirmedOverlooks none
  · refine bind (lift _) fun isSame => ?_
    split
    · exact bind (change aside _) fun _ => bind (report aside _ _) fun _ => pure _
    · exact unconfirmedOverlooks (some profile)

end Overlooks

/-- A call overlooks a change after which the source answers its questions the same. -/
theorem OverlooksAt.call
    {situation : Situation}
    {call : SessionCall}
    (sameAnswers :
      ∀ question ∈ call.questions situation.session,
        (shift situation).surroundings.random (shift situation).surroundings.drawn question =
          situation.surroundings.random situation.surroundings.drawn question) :
    OverlooksAt shift situation call.action := by
  cases call with
  | authenticate username password clientToken requestUser =>
      have sameAnswer := fun draws =>
        sameAnswers _ (SessionCall.mem_questions_authenticate.mpr ⟨draws, rfl⟩)
      exact (authenticate aside sameAnswer username password requestUser).bind
        fun _ after _ => Overlooks.pure _ after
  | createSharedSecret =>
      exact (createSharedSecret aside (sameAnswers _ (List.mem_singleton_self _))).bind
        fun _ after _ => Overlooks.pure _ after
  | encryptionResponse publicKey verifyToken =>
      have sameAnswer := fun missing =>
        sameAnswers _ (SessionCall.mem_questions_encryptionResponse.mpr ⟨missing, rfl⟩)
      exact (encryptionResponse aside sameAnswer publicKey verifyToken).bind
        fun _ after _ => Overlooks.pure _ after
  | join serverId secret publicKey =>
      exact (Overlooks.join aside serverId secret publicKey).bind (fun _ => .pure _) situation
  | refresh requestUser =>
      exact (Overlooks.refresh aside requestUser).bind (fun _ => .pure _) situation
  | validate =>
      exact (Overlooks.validate aside).bind (fun _ => .pure _) situation
  | invalidate =>
      exact (Overlooks.invalidate aside).bind (fun _ => .pure _) situation
  | signOut username password =>
      exact (Overlooks.signOut aside username password).bind (fun _ => .pure _) situation
  | verify username serverId secret publicKey address =>
      exact (Overlooks.verify aside username serverId secret publicKey address).bind
        (fun _ => .pure _) situation
  | close =>
      exact (Overlooks.close aside).bind (fun _ => .pure _) situation

end Aside

end SessionAction

end SessionHandshake
