import SessionHandshake.Proofs.Profile
import SessionHandshake.Proofs.Session.Result

namespace SessionHandshake

/-!
# What the authentication server grants

A log-in and a renewal succeed only on an answer that gives tokens.  The tokens of
the session are then the ones of this answer, and so is its profile if the answer
names a player; an answer to a log-in always does.
-/

namespace Situation

variable {before : Situation}

/-- The next reply holds the members of an object. -/
def AnswerHolds (before : Situation) (entries : List (Value × Value)) : Prop :=
  ∃ status body rest,
    before.surroundings.replies = .answered status body :: rest ∧
    Json.readBody body = .ok (.mapping entries)

/-- The next reply gives tokens. -/
def AnswerGives (before : Situation) (tokens : Tokens) : Prop :=
  ∃ entries,
    before.AnswerHolds entries ∧
    Value.member? entries "accessToken" = some tokens.accessToken ∧
    Value.member? entries "clientToken" = some tokens.clientToken

/-- The next reply names a player. -/
def AnswerNames (before : Situation) (profile : Profile) : Prop :=
  ∃ entries selected,
    before.AnswerHolds entries ∧
    Value.member? entries "selectedProfile" = some (.mapping selected) ∧
    profile.DescribedBy selected

theorem AnswerHolds.unique
    {entries other : List (Value × Value)}
    (holds : before.AnswerHolds entries)
    (holdsOther : before.AnswerHolds other) :
    entries = other := by
  obtain ⟨_, _, _, replies, read⟩ := holds
  obtain ⟨_, _, _, sameReplies, readOther⟩ := holdsOther
  cases replies.symm.trans sameReplies
  cases read.symm.trans readOther
  rfl

/-- What a log-in obtains is what its answer gives and names. -/
theorem login_eq_ok
    {username password clientToken requestUser : Value}
    {tokens : Tokens}
    {profile : Profile}
    (loggedIn :
      before.login username password clientToken requestUser = .ok (tokens, profile)) :
    before.AnswerGives tokens ∧ before.AnswerNames profile := by
  simp only [login, authAnswer, bind_eq_ok_iff] at loggedIn
  obtain ⟨token, _, _, _, _, _, answered⟩ := loggedIn
  obtain ⟨status, body, rest, replies, read⟩ :=
    answerTo_eq_ok (Endpoint.needsBody_authenticate _ _ _ _ _) answered
  simp only [Endpoint.authenticate, bind_eq_ok_iff, pure_eq_ok_iff] at read
  obtain ⟨entries, members, issued, isIssued, selectedProfile, found, same⟩ := read
  cases same
  have holds : before.AnswerHolds entries :=
    ⟨status, body, rest, replies, Answer.members_eq_ok_iff.mp members⟩
  obtain ⟨access, client, isAccess, _, isClient, rfl⟩ := Answer.tokens_eq_ok_iff.mp isIssued
  obtain ⟨selected, isSelected, described⟩ := Endpoint.loginProfile_eq_ok found
  exact ⟨⟨entries, holds, isAccess, isClient⟩, entries, selected, holds, isSelected, described⟩

/-- What a renewal obtains is what its answer gives, and names if it names any player. -/
theorem renewal_eq_ok
    {requestUser : Value}
    {tokens : Tokens}
    {renewed : Option Profile}
    (isRenewed : before.renewal requestUser = .ok (tokens, renewed)) :
    before.AnswerGives tokens ∧
      ∀ profile, renewed = some profile ↔ before.AnswerNames profile := by
  simp only [renewal, authAnswer, bind_eq_ok_iff] at isRenewed
  obtain ⟨held, _, _, _, answered⟩ := isRenewed
  obtain ⟨status, body, rest, replies, read⟩ :=
    answerTo_eq_ok (Endpoint.needsBody_refresh _ _ _ _) answered
  simp only [Endpoint.refresh, bind_eq_ok_iff, pure_eq_ok_iff] at read
  obtain ⟨entries, members, issued, isIssued, selectedProfile, found, same⟩ := read
  cases same
  have holds : before.AnswerHolds entries :=
    ⟨status, body, rest, replies, Answer.members_eq_ok_iff.mp members⟩
  obtain ⟨access, client, isAccess, _, isClient, rfl⟩ := Answer.tokens_eq_ok_iff.mp isIssued
  refine ⟨⟨entries, holds, isAccess, isClient⟩, ?_⟩
  intro profile
  rw [Endpoint.renewedProfile_eq_some_iff found]
  constructor
  · rintro ⟨selected, isSelected, described⟩
    exact ⟨entries, selected, holds, isSelected, described⟩
  · rintro ⟨other, selected, holdsOther, isSelected, described⟩
    cases holds.unique holdsOther
    exact ⟨selected, isSelected, described⟩

theorem answer_of_authenticate
    {username password clientToken requestUser : Value}
    {tokens : Tokens}
    {profile : Profile}
    (succeeded :
      (before.call (.authenticate username password clientToken requestUser)).1 =
        .ok (.identity tokens profile)) :
    before.AnswerGives tokens ∧ before.AnswerNames profile := by
  by_cases possible : before.session.state ∈ [SessionState.unauthenticated]
  · rw [authenticate_outcome _ _ _ _ (List.mem_singleton.mp possible)] at succeeded
    cases loggedIn : before.login username password clientToken requestUser with
    | error fault =>
        rw [loggedIn] at succeeded
        cases succeeded
    | ok identity =>
        rw [loggedIn] at succeeded
        cases succeeded
        exact login_eq_ok loggedIn
  · rw [call_refused rfl possible] at succeeded
    cases succeeded

/-- A renewal that succeeds replaces the tokens, and the profile if its answer names one. -/
theorem answer_of_refresh
    {requestUser : Value}
    {result : SessionResult}
    (succeeded : (before.call (.refresh requestUser)).1 = .ok result) :
    ∃ tokens renewed,
      result = .tokens tokens ∧
      before.AnswerGives tokens ∧
      (∀ profile, renewed = some profile ↔ before.AnswerNames profile) ∧
      before.session.state ∈ SessionAction.withTokens ∧
      (before.call (.refresh requestUser)).2.session = { before.session with
        state := .authenticated
        tokens := some tokens
        profile := renewed.orElse fun _ => before.session.profile
        sharedSecret := none
        serverHash := none } := by
  by_cases possible : before.session.state ∈ SessionAction.withTokens
  · rw [refresh_outcome _ possible] at succeeded
    cases isRenewed : before.renewal requestUser with
    | error fault =>
        rw [isRenewed] at succeeded
        cases succeeded
    | ok identity =>
        obtain ⟨tokens, renewed⟩ := identity
        rw [isRenewed] at succeeded
        cases succeeded
        obtain ⟨gives, names⟩ := renewal_eq_ok isRenewed
        exact ⟨tokens, renewed, rfl, gives, names, possible, refresh_session possible isRenewed⟩
  · rw [call_refused rfl possible] at succeeded
    cases succeeded

end Situation

end SessionHandshake
