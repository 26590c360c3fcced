import SessionHandshake.Proofs.Session.Holdings
import SessionHandshake.Proofs.Session.Result

namespace SessionHandshake

/-!
# Judging a client

A server judges a connecting client by what the session server says about its join.
A fault on the way there rejects the client, and so does every answer that does not
name it.  Only the comparison of the two names stands outside of this: where the name
that the client claims cannot be compared, its session stays without a verdict.
-/

namespace Situation

/-- The state in which a session is left by what came of the question about a join. -/
def verdict (username : Value) : Except Fault (Text × Option Profile) → SessionState
  | .ok (_, some profile) =>
      match sameName profile.username username with
      | .ok true =>
          .verified
      | .ok false =>
          .rejected
      | .error _ =>
          .verifying
  | _ =>
      .rejected

variable {before : Situation} {username serverId secret publicKey address : Value}

theorem verify_state (isUnauthenticated : before.session.state = .unauthenticated) :
    (before.call (.verify username serverId secret publicKey address)).2.session.state =
      verdict username (before.confirmation username serverId secret publicKey address) := by
  have judges := verify_judges isUnauthenticated username serverId secret publicKey address
  have asked := perform_askAboutJoin_fst (before.entering .verifying) username serverId secret
    publicKey address
  have keeps := perform_askAboutJoin_session (before.entering .verifying) username serverId secret
    publicKey address
  change _ = before.confirmation username serverId secret publicKey address at asked
  simp only [asked] at judges
  generalize before.call (.verify username serverId secret publicKey address) = ended
    at judges ⊢
  generalize before.confirmation username serverId secret publicKey address = outcome
    at judges ⊢
  obtain ⟨judged, after⟩ := ended
  cases judges with
  | unanswered reports =>
      exact congrArg Session.state reports.session_eq
  | unnamed reports =>
      exact congrArg Session.state reports.session_eq
  | uncomparable uncomparable =>
      simp only [verdict, uncomparable]
      exact congrArg Session.state keeps
  | otherName different reports =>
      simp only [verdict, different]
      exact congrArg Session.state reports.session_eq
  | confirmed same =>
      simp only [verdict, same]
      rfl

/-- The next reply holds a profile. -/
def AnswerProfiles (before : Situation) (profile : Profile) : Prop :=
  ∃ status body rest,
    before.surroundings.replies = .answered status body :: rest ∧ body.HoldsProfile profile

/-- A join is confirmed with a profile only by an answer that holds it. -/
theorem answerProfiles_of_confirmation
    {hash : Text}
    {profile : Profile}
    (confirmed :
      before.confirmation username serverId secret publicKey address =
        .ok (hash, some profile)) :
    before.AnswerProfiles profile := by
  simp only [confirmation, bind_eq_ok_iff, pure_eq_ok_iff] at confirmed
  obtain ⟨_, _, _, _, _, _, answered, isAnswered, same⟩ := confirmed
  cases same
  obtain ⟨status, body, rest, replies, read⟩ :=
    answerTo_eq_ok (Endpoint.needsBody_hasJoined _ _ _ _) isAnswered
  rcases Endpoint.hasJoined_read_eq_ok read with ⟨_, none⟩ | ⟨_, found, holds, isFound⟩
  · cases none
  · cases isFound
    exact ⟨status, body, rest, replies, holds⟩

/-- A session is left without a verdict only if it is told a profile to compare with. -/
theorem answerProfiles_of_verifying
    (isUnauthenticated : before.session.state = .unauthenticated)
    (undecided :
      (before.call (.verify username serverId secret publicKey address)).2.session.state =
        .verifying) :
    ∃ profile, before.AnswerProfiles profile := by
  rw [verify_state isUnauthenticated] at undecided
  cases confirmed : before.confirmation username serverId secret publicKey address with
  | error fault =>
      rw [confirmed] at undecided
      cases undecided
  | ok found =>
      obtain ⟨hash, answered⟩ := found
      cases answered with
      | none =>
          rw [confirmed] at undecided
          cases undecided
      | some profile =>
          exact ⟨profile, answerProfiles_of_confirmation confirmed⟩

/--
A verification that fails changes the session in nothing but its state, and it leaves no
tokens, no profile and no hash.  The session is rejected; only where the answer holds a
profile, and the name that the client claims cannot be compared, there is no verdict.
-/
theorem Begins.failed_verification
    {start : Situation}
    {fault : Fault}
    (begins : start.Begins)
    (calls : List SessionCall)
    (isUnauthenticated : (start.ending calls).session.state = .unauthenticated)
    (failed :
      ((start.ending calls).call (.verify username serverId secret publicKey address)).1 =
        .error fault) :
    ∃ state,
      ((start.ending calls).call
          (.verify username serverId secret publicKey address)).2.session =
        { (start.ending calls).session with
          state := state
          tokens := none
          profile := none
          serverHash := none } ∧
      (state = .rejected ∨
        state = .verifying ∧
          loweredName username = .error fault ∧
          ∃ profile, (start.ending calls).AnswerProfiles profile) := by
  have holds : (start.ending calls).session.Holds (fun _ => True) (fun _ => True) :=
    Session.Holds.ending (fun _ _ => trivial) (fun _ _ => trivial)
      (begins.holds (fun _ _ => trivial) fun _ _ => trivial) calls
  obtain ⟨noTokens, noProfile, noHash⟩ := holds.blank isUnauthenticated
  have undecided :=
    @answerProfiles_of_verifying _ username serverId secret publicKey address isUnauthenticated
  have step :=
    (start.ending calls).call_step (.verify username serverId secret publicKey address)
  rw [failed] at step
  generalize ((start.ending calls).call
    (.verify username serverId secret publicKey address)).2 = after at step undecided ⊢
  cases step with
  | refused gated impossible =>
      cases gated
      exact (impossible (List.mem_singleton.mpr isUnauthenticated)).elim
  | rejected _ leads =>
      refine ⟨.rejected, ?_, .inl rfl⟩
      rw [leads.session_eq, ← noTokens, ← noProfile, ← noHash]
  | unjudged _ uncomparable leads =>
      refine ⟨.verifying, ?_, .inr ⟨rfl, uncomparable, undecided ?_⟩⟩
      · rw [leads.session_eq, ← noTokens, ← noProfile, ← noHash]
      · rw [leads.session_eq]

/-- A client whose join has not been heard of is rejected. -/
theorem failed_verification_unheard :
    let start := Situation.quiet [.silent]
    let call : SessionCall := .verify (.text "Notch") (.text []) (.bytes []) (.bytes [1]) .null
    start.Begins ∧
      start.session.state = .unauthenticated ∧
      ∃ fault,
        ((start.ending []).call call).1 = .error fault ∧
        ∃ state,
          ((start.ending []).call call).2.session =
            { (start.ending []).session with
              state := state
              tokens := none
              profile := none
              serverHash := none } ∧
          (state = .rejected ∨
            state = .verifying ∧
              loweredName (.text "Notch") = .error fault ∧
              ∃ profile, (start.ending []).AnswerProfiles profile) := by
  intro start call
  have fails : ((start.ending []).call call).1.toOption.isNone = true := by
    decide +kernel
  cases failed : ((start.ending []).call call).1 with
  | ok result =>
      rw [failed] at fails
      cases fails
  | error fault =>
      exact ⟨quiet_begins _, rfl, fault, rfl,
        (quiet_begins _).failed_verification [] rfl failed⟩

/-- A client that claims a number for its name is neither let in nor rejected. -/
theorem verification_without_verdict :
    let start := Situation.quiet [Reply.written
      "\x7b\"id\": \"069a79f444e94726a5befca90e38aaf5\", \"name\": \"Notch\"\x7d"]
    let call : SessionCall := .verify (.int 5) (.text []) (.bytes []) (.bytes [1]) .null
    start.session.state = .unauthenticated ∧
      (start.call call).1.toOption.isNone = true ∧
      (start.call call).2.session.state = .verifying := by
  decide +kernel

end Situation

end SessionHandshake
