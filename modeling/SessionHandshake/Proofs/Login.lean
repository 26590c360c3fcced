import SessionHandshake.Proofs.Profile
import SessionHandshake.Proofs.Refusal

namespace SessionHandshake

/-!
# Answers to log-ins

A log-in goes through exactly if the answer is the document of an object with usable
tokens and a usable profile, and it then brings what these members say.  Anything else
that a server answers, and any request that fails, is a failed authentication, unless the
answer is nested too deep.
-/

/-- The members of an object say all that makes up the tokens that were asked for. -/
structure Tokens.GivenBy
    (entries : List (Value × Value))
    (requestUser : Value)
    (tokens : Tokens) : Prop where
  accessToken :
    ∃ content,
      Value.member? entries "accessToken" = some (.text content) ∧
      content ≠ [] ∧
      tokens.accessToken = .text content
  clientToken :
    ∃ content,
      Value.member? entries "clientToken" = some (.text content) ∧
      tokens.clientToken = .text content
  requestUser : tokens.requestUser = requestUser

namespace Answer

variable {report : AnswerFault} {entries : List (Value × Value)}

theorem tokens_eq_ok_iff_givenBy {requestUser : Value} {issued : Tokens} :
    tokens report entries requestUser = .ok issued ↔ issued.GivenBy entries requestUser := by
  rw [tokens_eq_ok_iff]
  constructor
  · rintro ⟨accessToken, clientToken, access, notEmpty, client, rfl⟩
    exact {
      accessToken := ⟨accessToken, access, notEmpty, rfl⟩
      clientToken := ⟨clientToken, client, rfl⟩
      requestUser := rfl }
  · intro given
    obtain ⟨accessToken, access, notEmpty, isAccess⟩ := given.accessToken
    obtain ⟨clientToken, client, isClient⟩ := given.clientToken
    refine ⟨accessToken, clientToken, access, notEmpty, client, ?_⟩
    rw [← isAccess, ← isClient, ← given.requestUser]

theorem require_error
    {name : String}
    {fault : Fault}
    (failed : require report entries name = .error fault) :
    ∃ problem cause, fault = report problem cause := by
  unfold require at failed
  split at failed <;> cases failed
  exact ⟨_, _, rfl⟩

/-- Tokens that are missing or unusable are reported in the form that was asked for. -/
theorem tokens_error
    {requestUser : Value}
    {fault : Fault}
    (failed : tokens report entries requestUser = .error fault) :
    ∃ problem cause, fault = report problem cause := by
  simp only [tokens, bind_eq_error_iff] at failed
  rcases failed with noAccess | ⟨_, _, noClient | ⟨_, _, badAccess | ⟨_, _,
    badClient | ⟨_, _, failed⟩⟩⟩⟩
  · exact require_error noAccess
  · exact require_error noClient
  · unfold checkAccessToken at badAccess
    split at badAccess <;> cases badAccess
    exact ⟨_, _, rfl⟩
  · unfold checkClientToken at badClient
    split at badClient <;> cases badClient
    exact ⟨_, _, rfl⟩
  · cases failed

end Answer

namespace Endpoint

theorem loginProfile_eq_ok_iff {entries : List (Value × Value)} {profile : Profile} :
    loginProfile entries = .ok profile ↔
      ∃ selected,
        Value.member? entries "selectedProfile" = some (.mapping selected) ∧
        profile.DescribedBy selected := by
  refine ⟨loginProfile_eq_ok, ?_⟩
  rintro ⟨selected, isSelected, described⟩
  have isProfile := Profile.ofAnswer_eq_ok_iff.mpr ⟨selected, rfl, described⟩
  rw [loginProfile, isSelected, Option.getD_some, isProfile]

/-- A selected profile that is missing or unusable is malformed, whatever it is instead. -/
theorem selectedProfile_malformed
    {entries : List (Value × Value)}
    {fault : Fault}
    (showable : Value.AreShowable entries)
    (failed :
      Profile.ofAnswer ((Value.member? entries "selectedProfile").getD .null) = .error fault) :
    ∃ problem cause, fault = .malformedResponse problem cause := by
  cases found : Value.member? entries "selectedProfile" with
  | none =>
      rw [found] at failed
      cases failed
      exact ⟨_, _, rfl⟩
  | some answer =>
      have answerShowable := showable.of_find? found
      rw [found, Option.getD_some] at failed
      cases answer with
      | mapping selected =>
          exact Profile.ofAnswer_error (Value.isShowable_mapping.mp answerShowable) failed
      | _ =>
          cases failed
          exact ⟨_, _, rfl⟩

/-- A profile that is missing or unusable is a failed authentication. -/
theorem loginProfile_error
    {entries : List (Value × Value)}
    {fault : Fault}
    (showable : Value.AreShowable entries)
    (failed : loginProfile entries = .error fault) :
    ∃ reason cause, fault = .refused .authentication reason RefusalDetails.none cause := by
  unfold loginProfile at failed
  split at failed
  · cases failed
  · cases failed
    exact ⟨_, _, rfl⟩
  · next other notMalformed unread =>
      obtain ⟨problem, cause, isMalformed⟩ := selectedProfile_malformed showable unread
      exact (notMalformed problem cause isMalformed).elim

section Authenticate

variable (server username password clientToken requestUser : Value)

theorem authenticate_read_eq_ok_iff
    {content : Bytes}
    {tokens : Tokens}
    {profile : Profile} :
    (authenticate server username password clientToken requestUser).read (.ok (.bytes content)) =
        .ok (tokens, profile) ↔
      ∃ entries selected,
        Json.readBytes content = .ok (.mapping entries) ∧
        tokens.GivenBy entries requestUser ∧
        Value.member? entries "selectedProfile" = some (.mapping selected) ∧
        profile.DescribedBy selected := by
  simp only [authenticate, bind_eq_ok_iff, pure_eq_ok_iff, Answer.members_eq_ok_iff,
    Answer.tokens_eq_ok_iff_givenBy, loginProfile_eq_ok_iff, Prod.mk.injEq]
  constructor
  · rintro ⟨entries, read, _, given, _, ⟨selected, isSelected, described⟩, rfl, rfl⟩
    exact ⟨entries, selected, read, given, isSelected, described⟩
  · rintro ⟨entries, selected, read, given, isSelected, described⟩
    exact ⟨entries, read, tokens, given, profile, ⟨selected, isSelected, described⟩, rfl, rfl⟩

/-- Bytes that answer a log-in and are not usable are a failed authentication. -/
theorem authenticate_read_error
    {content : Bytes}
    {fault : Fault}
    (followable : ¬ (Value.bytes content).NestsTooDeep)
    (failed :
      (authenticate server username password clientToken requestUser).read
          (.ok (.bytes content)) =
        .error fault) :
    ∃ reason cause, fault = .refused .authentication reason RefusalDetails.none cause := by
  have reported :
      (∃ problem cause, fault = Answer.notAuthenticated problem cause) →
      ∃ reason cause, fault = .refused .authentication reason RefusalDetails.none cause := by
    rintro ⟨problem, cause, rfl⟩
    exact ⟨_, _, rfl⟩
  simp only [authenticate, bind_eq_error_iff] at failed
  rcases failed with noMembers | ⟨entries, members, noTokens | ⟨_, _, noProfile | ⟨_, _, failed⟩⟩⟩
  · exact reported (Answer.members_error followable noMembers)
  · exact reported (Answer.tokens_error noTokens)
  · have showable := Json.readBytes_isShowable (Answer.members_eq_ok_iff.mp members)
    exact loginProfile_error (Value.isShowable_mapping.mp showable) noProfile
  · cases failed

/-- An answer to a log-in that is nested too deep fails for this reason. -/
theorem authenticate_read_of_nestsTooDeep {body : Value} (tooDeep : body.NestsTooDeep) :
    (authenticate server username password clientToken requestUser).read (.ok body) =
      .error .tooDeep := by
  simp only [authenticate, Answer.members_of_nestsTooDeep tooDeep]
  rfl

/--
A log-in brings tokens and a profile exactly if the answer is the document of an object
that gives these tokens and selects an object that describes this profile.  Any other
answer that is not nested too deep is a failed authentication, and so is a request that
fails, on account of which the body of the failure is quoted.
-/
theorem authenticate_accepts :
    (∀ content tokens profile,
      (authenticate server username password clientToken requestUser).read
            (.ok (.bytes content)) =
          .ok (tokens, profile) ↔
        ∃ entries selected,
          Json.readBytes content = .ok (.mapping entries) ∧
          tokens.GivenBy entries requestUser ∧
          Value.member? entries "selectedProfile" = some (.mapping selected) ∧
          profile.DescribedBy selected) ∧
      (∀ content,
        ¬ (Value.bytes content).NestsTooDeep →
        (∃ tokens profile,
          (authenticate server username password clientToken requestUser).read
              (.ok (.bytes content)) =
            .ok (tokens, profile)) ∨
        ∃ reason cause,
          (authenticate server username password clientToken requestUser).read
              (.ok (.bytes content)) =
            .error (.refused .authentication reason RefusalDetails.none cause)) ∧
      (∀ message status body cause,
        ¬ body.NestsTooDeep →
        (authenticate server username password clientToken requestUser).read
            (.error (.transport message status body cause)) =
          .error (.refused .authentication (.credentials status) (RefusalDetails.statedBy body)
            (some (.transport message status body cause)))) ∧
      ∀ body,
        body.NestsTooDeep →
        body.OpensTooMany ∧
          (authenticate server username password clientToken requestUser).read (.ok body) =
            .error .tooDeep ∧
          ∀ message status cause,
            (authenticate server username password clientToken requestUser).read
                (.error (.transport message status body cause)) =
              .error .tooDeep := by
  refine ⟨fun content tokens profile => authenticate_read_eq_ok_iff _ _ _ _ _,
    fun content followable => ?_, fun message status body cause followable => ?_,
    fun body tooDeep =>
      ⟨tooDeep.opensTooMany, authenticate_read_of_nestsTooDeep _ _ _ _ _ tooDeep, ?_⟩⟩
  · cases read :
        (authenticate server username password clientToken requestUser).read
          (.ok (.bytes content)) with
    | ok result =>
        exact .inl ⟨result.1, result.2, rfl⟩
    | error fault =>
        obtain ⟨reason, cause, rfl⟩ := authenticate_read_error _ _ _ _ _ followable read
        exact .inr ⟨reason, cause, rfl⟩
  · simp only [authenticate, Fault.refusedOnAccountOf_eq _ _ _ followable]
  · intro message status cause
    simp only [authenticate, Fault.refusedOnAccountOf_of_nestsTooDeep _ _ _ tooDeep]

end Authenticate

end Endpoint

end SessionHandshake
