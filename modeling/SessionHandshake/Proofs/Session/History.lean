import Mathlib.Data.List.Induction
import SessionHandshake.Proofs.Digest
import SessionHandshake.Proofs.Session.Calls

namespace SessionHandshake

/-!
# Histories

A history is what has been asked of a session, call by call, together with what
each call has ended with and what it has sent.  Runs and histories grow at their
ends, so that what every call preserves holds after all of them.
-/

/-- A call, what it has ended with, and the requests it has sent. -/
structure SessionEvent where
  call : SessionCall
  outcome : Except Fault SessionResult
  sent : List SessionRequest

namespace Situation

/-- The situation after calls. -/
def ending (situation : Situation) (calls : List SessionCall) : Situation :=
  (situation.run calls).2

/-- A call in a situation, as an event. -/
def event (situation : Situation) (call : SessionCall) : SessionEvent where
  call := call
  outcome := (situation.call call).1
  sent :=
    (situation.call call).2.surroundings.requests.drop situation.surroundings.requests.length

/-- The events of calls, the oldest first. -/
def history (situation : Situation) : List SessionCall → List SessionEvent
  | [] =>
      []
  | first :: rest =>
      situation.event first :: history (situation.call first).2 rest

theorem ending_concat (situation : Situation) (calls : List SessionCall) (last : SessionCall) :
    situation.ending (calls ++ [last]) = ((situation.ending calls).call last).2 := by
  induction calls generalizing situation with
  | nil =>
      rfl
  | cons first rest inductionHypothesis =>
      exact inductionHypothesis (situation.call first).2

theorem history_concat (situation : Situation) (calls : List SessionCall) (last : SessionCall) :
    situation.history (calls ++ [last]) =
      situation.history calls ++ [(situation.ending calls).event last] := by
  induction calls generalizing situation with
  | nil =>
      rfl
  | cons first rest inductionHypothesis =>
      exact congrArg (situation.event first :: ·)
        (inductionHypothesis (situation.call first).2)

/-- The requests of an event have been added to those before. -/
theorem call_requests (situation : Situation) (call : SessionCall) :
    (situation.call call).2.surroundings.requests =
      situation.surroundings.requests ++ (situation.event call).sent := by
  have added :
      situation.surroundings.requests <+: (situation.call call).2.surroundings.requests := by
    rcases (situation.call_step call).refused_or_leads with
      ⟨operation, states, _, _, _, same⟩ | ⟨sent, session, leads⟩
    · exact ⟨[], by rw [same, List.append_nil]⟩
    · rw [leads.grows.requests]
      exact List.prefix_append _ sent
  obtain ⟨sent, grown⟩ := added
  rw [event, ← grown, List.drop_left]

end Situation

/-! ## Which sessions and calls there are -/

/-- The arguments of a call have the types that they are declared with. -/
def SessionCall.IsTyped : SessionCall → Prop
  | .authenticate username password clientToken requestUser =>
      username.isText ∧ password.isText ∧ (clientToken.isNull ∨ clientToken.isText) ∧
        ∃ flag, requestUser = .bool flag
  | .encryptionResponse publicKey verifyToken =>
      (∃ content, publicKey = .bytes content) ∧ ∃ content, verifyToken = .bytes content
  | .join serverId secret publicKey =>
      serverId.IsServerId ∧ (∃ content, secret = .bytes content) ∧
        ∃ content, publicKey = .bytes content
  | .refresh requestUser =>
      ∃ flag, requestUser = .bool flag
  | .signOut username password =>
      username.isText ∧ password.isText
  | .verify username serverId secret publicKey address =>
      username.isText ∧ serverId.IsServerId ∧ (∃ content, secret = .bytes content) ∧
        (∃ content, publicKey = .bytes content) ∧ (address.isNull ∨ address.isText)
  | _ =>
      True

/-- A name that is a text can be compared with any other name. -/
theorem Value.isText_loweredName {name : Value} (isText : name.isText) (fault : Fault) :
    loweredName name ≠ .error fault := by
  intro failed
  cases name <;> cases failed <;> cases isText

namespace Situation

/-- A session that has just been made, in whatever surroundings. -/
inductive Begins : Situation → Prop where
  | created (config : Config) (transport : Option Transport) (surroundings : Surroundings) :
      Begins { session := Session.create config transport, surroundings := surroundings }
  | restored
      {config : Config} {transport : Option Transport} {console printed : Console}
      {session : Session} (surroundings : Surroundings) :
      Session.restore config transport console = .ok (session, printed) →
      Begins { session := session, surroundings := surroundings }

/-- A situation in which a session is at rest after some calls. -/
inductive Reached : Situation → Prop where
  | begun {situation : Situation} :
      situation.Begins →
      Reached situation
  | called {situation : Situation} {call : SessionCall} :
      Reached situation →
      call.IsTyped →
      Reached (situation.call call).2

/-- The calls of a run lead from one situation that can be reached to another. -/
theorem Begins.reached
    {start : Situation}
    {calls : List SessionCall}
    (begins : start.Begins)
    (typed : ∀ call ∈ calls, call.IsTyped) :
    (start.ending calls).Reached := by
  induction calls using List.reverseRecOn with
  | nil =>
      exact .begun begins
  | append_singleton earlier last inductionHypothesis =>
      rw [ending_concat]
      exact .called
        (inductionHypothesis fun call member => typed call (List.mem_append_left [last] member))
        (typed last (by simp))

end Situation

/-! ## A session in quiet surroundings -/

/-- The reply of a server that has written a text. -/
def Reply.written (content : String) : Reply :=
  .answered 200 (.bytes ((Text.ofString content).utf8?.getD []))

/-- The reply of a server that has nothing to say. -/
def Reply.silent : Reply :=
  .answered 204 (.bytes [])

/-- The reply of a server that gives an access token to the player `Notch`. -/
def Reply.granting (accessToken : String) : Reply :=
  .written ("\x7b\"accessToken\": \"" ++ accessToken ++ "\", \"clientToken\": \"client\", " ++
    "\"selectedProfile\": \x7b\"id\": \"069a79f444e94726a5befca90e38aaf5\", " ++
    "\"name\": \"Notch\"\x7d\x7d")

/-- A log-in with a client token that has to be drawn. -/
def SessionCall.logIn : SessionCall :=
  .authenticate (Value.ofString "user") (Value.ofString "password") .null (.bool false)

/-- Surroundings in which nothing has happened and the servers will give some replies. -/
def Surroundings.quiet (replies : List Reply) : Surroundings where
  random := fun _ _ => .ok (.bytes (List.replicate sharedSecretLength 7))
  drawn := []
  padding := fun _ => ⟨1, by decide⟩
  replies := replies
  requests := []
  closes := 0
  console := { isDebugging := false, printed := [] }

/-- A new session, with nothing configured, to which the servers will give some replies. -/
def Situation.quiet (replies : List Reply) : Situation where
  session := Session.create Config.empty (some .direct)
  surroundings := Surroundings.quiet replies

theorem Situation.quiet_begins (replies : List Reply) : (Situation.quiet replies).Begins :=
  .created Config.empty (some .direct) (Surroundings.quiet replies)

end SessionHandshake
