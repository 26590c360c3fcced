import SessionHandshake.Proofs.Session.History
import SessionHandshake.Proofs.Session.Result

namespace SessionHandshake

/-!
# Failures of a client's calls

A call that fails leaves the session as it was, or gives up exactly what must not
outlive the failure: a join its secret, and a renewal all that the session has
gained.  The fault that has stopped the operation is the fault of the call.
-/

/-- The operations of a client. -/
def SessionCall.isClients : SessionCall → Bool
  | .verify .. =>
      false
  | .close =>
      false
  | _ =>
      true

/-- The operation of a call is possible in a state. -/
def SessionCall.IsPossible (call : SessionCall) (state : SessionState) : Prop :=
  ∀ operation states, call.gate? = some (operation, states) → state ∈ states

namespace Situation

variable {before after : Situation} {call : SessionCall} {fault : Fault}

/-- A secret is drawn, when the source of random values is asked for one. -/
def DrawsSecret (situation : Situation) (drawn : Bytes) : Prop :=
  situation.surroundings.random situation.surroundings.drawn (.int 16) = .ok (.bytes drawn) ∧
    drawn.length = 16

theorem drawsSecret_iff {drawn : Bytes} :
    before.DrawsSecret drawn ↔
      before.surroundings.random.sharedSecret before.surroundings.drawn = .ok drawn :=
  sharedSecret_eq_ok_iff.symm

/-! ## Where a fault comes from -/

/-- The parts of an operation end with a fault, one after the other up to the first. -/
def RaisesInside (situation : Situation) (fault : Fault) : SessionCall → Prop
  | .authenticate username password clientToken requestUser =>
      situation.login username password clientToken requestUser = .error fault
  | .createSharedSecret =>
      situation.surroundings.random.sharedSecret situation.surroundings.drawn = .error fault
  | .encryptionResponse publicKey verifyToken =>
      situation.responseTo publicKey verifyToken = .error fault
  | .join serverId secret publicKey =>
      situation.announcement serverId secret publicKey = .error fault
  | .refresh requestUser =>
      situation.renewal requestUser = .error fault
  | .validate =>
      situation.tokenCheck = .error fault
  | .invalidate =>
      situation.tokenReturn = .error fault
  | .signOut username password =>
      situation.accountReturn username password = .error fault
  | _ =>
      False

/-- A fault is raised by the check of the state, or else inside the operation. -/
inductive Raises (situation : Situation) : SessionCall → Fault → Prop where
  | refused {call : SessionCall} {operation : Text} {states : List SessionState} :
      call.gate? = some (operation, states) →
      situation.session.state ∉ states →
      Raises situation call (.wrongState operation situation.session.state states)
  | inside {call : SessionCall} {fault : Fault} :
      call.IsPossible situation.session.state →
      situation.RaisesInside fault call →
      Raises situation call fault

/-- An operation of a client that fails does so with the fault that was raised inside it. -/
theorem raisesInside
    (isClients : call.isClients = true)
    (possible : call.IsPossible before.session.state)
    (failed : (before.call call).1 = .error fault) :
    before.RaisesInside fault call := by
  cases call with
  | authenticate username password clientToken requestUser =>
      have isUnauthenticated := List.mem_singleton.mp (possible _ _ rfl)
      rw [authenticate_outcome _ _ _ _ isUnauthenticated] at failed
      exact map_eq_error_iff.mp failed
  | createSharedSecret =>
      rw [createSharedSecret_outcome] at failed
      exact map_eq_error_iff.mp failed
  | encryptionResponse publicKey verifyToken =>
      rw [encryptionResponse_outcome] at failed
      exact map_eq_error_iff.mp failed
  | join serverId secret publicKey =>
      have isAuthenticated := List.mem_singleton.mp (possible _ _ rfl)
      rw [join_outcome _ _ _ isAuthenticated] at failed
      exact map_eq_error_iff.mp failed
  | refresh requestUser =>
      rw [refresh_outcome _ (possible _ _ rfl)] at failed
      exact map_eq_error_iff.mp failed
  | validate =>
      rw [validate_outcome (possible _ _ rfl)] at failed
      exact map_eq_error_iff.mp failed
  | invalidate =>
      rw [invalidate_outcome (possible _ _ rfl)] at failed
      exact map_eq_error_iff.mp failed
  | signOut username password =>
      rw [signOut_outcome] at failed
      exact map_eq_error_iff.mp failed
  | verify username serverId secret publicKey address =>
      cases isClients
  | close =>
      cases isClients

theorem raises
    (isClients : call.isClients = true)
    (failed : (before.call call).1 = .error fault) :
    before.Raises call fault := by
  by_cases possible : call.IsPossible before.session.state
  · exact .inside possible (raisesInside isClients possible failed)
  · simp only [SessionCall.IsPossible, not_forall] at possible
    obtain ⟨operation, states, gated, impossible⟩ := possible
    rw [call_refused gated impossible] at failed
    cases failed
    exact .refused gated impossible

/-! ## What a failure leaves of the session -/

/-- A session is what a failed call of a client leaves of the one before. -/
def LeavesBehind (before : Situation) (session : Session) : SessionCall → Prop
  | .join .. =>
      if before.session.state = .authenticated then
        session = { before.session with state := .authenticated, sharedSecret := none }
      else
        session = before.session
  | .refresh _ =>
      if before.session.state = .authenticated ∨ before.session.state = .joined then
        session = { before.session with
          state := .unauthenticated
          tokens := none
          profile := none
          sharedSecret := none
          serverHash := none }
      else
        session = before.session
  | .encryptionResponse .. =>
      session = before.session ∨
        before.session.sharedSecret = none ∧
          ∃ drawn,
            before.DrawsSecret drawn ∧
            session = { before.session with sharedSecret := some (.bytes drawn) }
  | _ =>
      session = before.session

theorem withTokens_iff {state : SessionState} :
    state ∈ SessionAction.withTokens ↔ state = .authenticated ∨ state = .joined := by
  simp only [SessionAction.withTokens, List.mem_cons, List.not_mem_nil, or_false]

/-- A call that was refused has left the session as it was. -/
theorem leavesBehind_refused
    {operation : Text}
    {states : List SessionState}
    (gated : call.gate? = some (operation, states))
    (impossible : before.session.state ∉ states) :
    before.LeavesBehind before.session call := by
  cases call with
  | join serverId secret publicKey =>
      cases gated
      rw [List.mem_singleton] at impossible
      rw [LeavesBehind, if_neg impossible]
  | refresh requestUser =>
      cases gated
      rw [LeavesBehind, if_neg (withTokens_iff.not.mp impossible)]
  | encryptionResponse publicKey verifyToken =>
      exact .inl rfl
  | _ =>
      rfl

/-- Every way in which a client's call fails leaves behind what it should. -/
theorem leavesBehind_of_step
    (isClients : call.isClients = true)
    (step : SessionStep before call (.error fault) after) :
    before.LeavesBehind after.session call := by
  cases step with
  | refused gated impossible =>
      exact leavesBehind_refused gated impossible
  | responseUndrawn _ _ leads =>
      exact .inl leads.session_eq
  | responseFailed offers leads =>
      rw [leads.session_eq]
      rcases offers with held | ⟨missing, drawn, isDrawn, rfl⟩
      · left
        rw [← held]
      · exact .inr ⟨missing, drawn, drawsSecret_iff.mpr isDrawn, rfl⟩
  | joinFailed isAuthenticated leads =>
      rw [LeavesBehind, if_pos isAuthenticated, leads.session_eq]
      simp only [isAuthenticated]
  | renewalFailed possible leads =>
      rw [LeavesBehind, if_pos (withTokens_iff.mp possible)]
      exact leads.session_eq
  | rejected _ _ =>
      cases isClients
  | unjudged _ _ _ =>
      cases isClients
  | _ =>
      next leads =>
        exact leads.session_eq

/-- A client's call has failed with a fault. -/
structure ClientFailure
    (before : Situation)
    (call : SessionCall)
    (fault : Fault)
    (after : Situation) : Prop where
  session : before.LeavesBehind after.session call
  raised : before.Raises call fault

/--
Whatever a client's call is given and wherever it fails, it cleans up after itself
and fails with the very fault that has stopped it.
-/
theorem call_failure
    (before : Situation)
    {call : SessionCall}
    {fault : Fault}
    (isClients : call.isClients = true)
    (failed : (before.call call).1 = .error fault) :
    before.ClientFailure call fault (before.call call).2 where
  session := by
    have step := before.call_step call
    rw [failed] at step
    exact leavesBehind_of_step isClients step
  raised := raises isClients failed

/-- A client that has logged in and drawn a secret cannot join a server without a name. -/
theorem call_failure_join :
    let before := (Situation.quiet [Reply.granting "access"]).ending [.logIn, .createSharedSecret]
    let call : SessionCall := .join .null (.bytes []) (.bytes [])
    call.isClients = true ∧
      (before.call call).1 = .error .wrongType ∧
      before.ClientFailure call .wrongType (before.call call).2 := by
  intro before call
  have isClients : call.isClients = true := rfl
  have isAuthenticated : before.session.state = .authenticated := by
    decide +kernel
  have failed : (before.call call).1 = .error .wrongType := by
    rw [join_outcome _ _ _ isAuthenticated]
    rfl
  exact ⟨isClients, failed, call_failure before isClients failed⟩

end Situation

end SessionHandshake
