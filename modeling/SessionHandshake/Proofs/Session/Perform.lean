import SessionHandshake.Session.Call

namespace SessionHandshake

/-!
# Performing an action

An action is a program of a few primitive steps.  This module says what each
of them makes of a situation, so that a proof about an operation can follow the
operation line by line and never look below `Situation.perform`.
-/

namespace Situation

variable {Result Next : Type}

/-- The situation with its session changed. -/
def withSession (situation : Situation) (update : Session → Session) : Situation :=
  { situation with session := update situation.session }

/-- The situation with its session in another state. -/
def entering (situation : Situation) (state : SessionState) : Situation :=
  situation.withSession fun session => { session with state := state }

/-- The situation after a message. -/
def reporting (situation : Situation) (level : LogLevel) (message : Text) : Situation :=
  { situation with
    surroundings := { situation.surroundings with
      console := situation.surroundings.console.report level message } }

/-- What happens to a request that is made now. -/
def exchange (situation : Situation) (request : Request) : Exchange :=
  situation.session.transport.exchange request situation.surroundings.replies
    situation.surroundings.console

/-- The situation after a request. -/
def asking (situation : Situation) (request : Request) : Situation :=
  { situation with
    surroundings := SessionAction.afterExchange situation.surroundings
      situation.session.state (situation.exchange request) }

/-- The situation after a number of random bytes was asked for. -/
def drawing (situation : Situation) (length : Nat) : Situation :=
  { situation with
    surroundings := { situation.surroundings with
      drawn := situation.surroundings.drawn ++ [.int length] } }

/-! ## Sequences of steps -/

theorem perform_pure (situation : Situation) (result : Result) :
    situation.perform (pure result) = (.ok result, situation) :=
  rfl

theorem perform_throw (situation : Situation) (fault : Fault) :
    situation.perform (throw fault : SessionAction Result) = (.error fault, situation) :=
  rfl

/-- A sequence goes on with the result of its first part, or ends with its fault. -/
theorem perform_bind
    (situation : Situation)
    (first : SessionAction Result)
    (next : Result → SessionAction Next) :
    situation.perform (first >>= next) =
      match situation.perform first with
      | (.ok result, after) => after.perform (next result)
      | (.error fault, after) => (.error fault, after) := by
  unfold Situation.perform
  simp only [ExceptT.run_bind, StateT.run_bind]
  rcases StateT.run (ExceptT.run first) situation with ⟨outcome, after⟩
  cases outcome <;> rfl

/-- A handler takes over where an action has ended with a fault. -/
theorem perform_tryCatch
    (situation : Situation)
    (action : SessionAction Result)
    (handle : Fault → SessionAction Result) :
    situation.perform (tryCatch action handle) =
      match situation.perform action with
      | (.ok result, after) => (.ok result, after)
      | (.error fault, after) => after.perform (handle fault) := by
  unfold Situation.perform StateT.run ExceptT.run
  simp only [tryCatch, tryCatchThe, MonadExceptOf.tryCatch, ExceptT.tryCatch, ExceptT.mk,
    bind, StateT.bind]
  rcases action situation with ⟨outcome, after⟩
  cases outcome <;> rfl

/-- A fault that is handled on its way goes on if the handler ends well. -/
theorem perform_onFault
    (situation : Situation)
    (action : SessionAction Result)
    (handle : Fault → SessionAction Unit) :
    situation.perform (SessionAction.onFault action handle) =
      match situation.perform action with
      | (.ok result, after) => (.ok result, after)
      | (.error fault, after) =>
          match after.perform (handle fault) with
          | (.ok (), handled) => (.error fault, handled)
          | (.error other, handled) => (.error other, handled) := by
  rw [SessionAction.onFault, perform_tryCatch]
  rcases situation.perform action with ⟨outcome, after⟩
  cases outcome with
  | ok result =>
      rfl
  | error fault =>
      simp only [perform_bind]
      rcases after.perform (handle fault) with ⟨handled, last⟩
      cases handled <;> rfl

/-! ## Primitive steps -/

theorem perform_session (situation : Situation) :
    situation.perform SessionAction.session = (.ok situation.session, situation) :=
  rfl

theorem perform_get (situation : Situation) :
    situation.perform (get : SessionAction Situation) = (.ok situation, situation) :=
  rfl

theorem perform_change (situation : Situation) (update : Session → Session) :
    situation.perform (SessionAction.change update) = (.ok (), situation.withSession update) :=
  rfl

theorem perform_enter (situation : Situation) (state : SessionState) :
    situation.perform (SessionAction.enter state) = (.ok (), situation.entering state) :=
  rfl

theorem perform_changeSurroundings
    (situation : Situation)
    (update : Surroundings → Surroundings) :
    situation.perform (SessionAction.changeSurroundings update) =
      (.ok (), { situation with surroundings := update situation.surroundings }) :=
  rfl

theorem perform_report (situation : Situation) (level : LogLevel) (message : Text) :
    situation.perform (SessionAction.report level message) =
      (.ok (), situation.reporting level message) :=
  rfl

theorem perform_lift (situation : Situation) (outcome : Except Fault Result) :
    situation.perform (SessionAction.lift outcome) = (outcome, situation) := by
  cases outcome <;> rfl

/-- A line that names a user is printed if the user can be shown, and nothing else is done. -/
theorem perform_reportUser
    (situation : Situation)
    (level : LogLevel)
    (words : String)
    (username : Value) :
    situation.perform (SessionAction.reportUser level words username) =
      match username.checkShown with
      | .error fault => (.error fault, situation)
      | .ok _ => (.ok (), situation.reporting level (SessionAction.forUser words username)) := by
  rw [SessionAction.reportUser, perform_bind, perform_lift]
  cases username.checkShown <;> rfl

/-- The states that an operation is possible in are looked at before anything else. -/
theorem perform_expect
    (situation : Situation)
    (operation : Text)
    (states : List SessionState) :
    situation.perform (SessionAction.expect operation states) =
      if situation.session.state ∈ states then
        (.ok (), situation)
      else
        (.error (.wrongState operation situation.session.state states), situation) := by
  rw [SessionAction.expect, perform_bind, perform_session]
  by_cases possible : situation.session.state ∈ states
  · simp [possible, perform_pure]
  · simp [possible, perform_throw]

theorem perform_authServer (situation : Situation) :
    situation.perform SessionAction.authServer =
      (situation.session.authServer.checkShown.map fun _ => situation.session.authServer,
        situation) := by
  rw [SessionAction.authServer, perform_bind, perform_session]
  simp only [perform_bind, perform_lift]
  cases situation.session.authServer.checkShown <;> rfl

theorem perform_sessionServer (situation : Situation) :
    situation.perform SessionAction.sessionServer =
      (situation.session.sessionServer.checkShown.map fun _ => situation.session.sessionServer,
        situation) := by
  rw [SessionAction.sessionServer, perform_bind, perform_session]
  simp only [perform_bind, perform_lift]
  cases situation.session.sessionServer.checkShown <;> rfl

theorem perform_draw
    (situation : Situation)
    (length : Nat)
    (ask : RandomSource → List Value → Except Fault Result) :
    situation.perform (SessionAction.draw length ask) =
      (ask situation.surroundings.random situation.surroundings.drawn,
        situation.drawing length) := by
  rw [SessionAction.draw, perform_bind, perform_get]
  simp only [perform_bind, perform_changeSurroundings, perform_lift]
  rfl

theorem perform_send (situation : Situation) (endpoint : Endpoint Result) :
    situation.perform (SessionAction.send endpoint) =
      (endpoint.read (situation.exchange endpoint.request).outcome,
        situation.asking endpoint.request) := by
  rw [SessionAction.send, perform_bind, perform_get]
  simp only [perform_bind, perform_changeSurroundings, perform_lift]
  rfl

theorem perform_tokens {situation : Situation} {tokens : Tokens}
    (held : situation.session.tokens = some tokens) :
    situation.perform SessionAction.tokens = (.ok tokens, situation) := by
  rw [SessionAction.tokens, perform_bind, perform_session]
  simp only [held, perform_pure]

theorem perform_tokens_none {situation : Situation}
    (missing : situation.session.tokens = none) :
    situation.perform SessionAction.tokens = (.error .noSuchOperation, situation) := by
  rw [SessionAction.tokens, perform_bind, perform_session]
  simp only [missing, perform_throw]

theorem perform_profile {situation : Situation} {profile : Profile}
    (held : situation.session.profile = some profile) :
    situation.perform SessionAction.profile = (.ok profile, situation) := by
  rw [SessionAction.profile, perform_bind, perform_session]
  simp only [held, perform_pure]

theorem perform_profile_none {situation : Situation}
    (missing : situation.session.profile = none) :
    situation.perform SessionAction.profile = (.error .noSuchOperation, situation) := by
  rw [SessionAction.profile, perform_bind, perform_session]
  simp only [missing, perform_throw]

end Situation

end SessionHandshake
