import SessionHandshake.Proofs.Profile
import SessionHandshake.Proofs.Session.History

namespace SessionHandshake

/-!
# What a session holds

A session holds tokens and a profile while it is logged in, and neither before.  They
are the ones that it began with, or an answer has brought them.  So what is true of the
former and of all that answers bring stays true, whatever the session is asked.
-/

/--
The tokens and the profile of a session are of some kind.  It has both while it can use
them, and it has nothing that a log-in or a join brings before that log-in or join.
-/
structure Session.Holds
    (tokensFit : Tokens → Prop)
    (profileFits : Profile → Prop)
    (session : Session) : Prop where
  tokens : ∀ tokens, session.tokens = some tokens → tokensFit tokens
  profile : ∀ profile, session.profile = some profile → profileFits profile
  identified :
    session.state ∈ SessionAction.withTokens →
      session.tokens.isSome = true ∧ session.profile.isSome = true
  blank :
    session.state = .unauthenticated →
      session.tokens = none ∧ session.profile = none ∧ session.serverHash = none
  unhashed : session.state = .authenticated → session.serverHash = none

namespace Session

variable {tokensFit : Tokens → Prop} {profileFits : Profile → Prop}

theorem holds_reset (session : Session) : session.reset.Holds tokensFit profileFits where
  tokens := fun _ held => nomatch held
  profile := fun _ held => nomatch held
  identified := fun possible => by
    have impossible : SessionState.unauthenticated ∉ SessionAction.withTokens := by decide
    exact (impossible possible).elim
  blank := fun _ => ⟨rfl, rfl, rfl⟩
  unhashed := fun _ => rfl

/-- Of a session that is a server it matters only of which kind its tokens and its profile are. -/
theorem holds_server
    {session : Session}
    (state : SessionState)
    (isServer : state ∈ [SessionState.verifying, .verified, .rejected])
    (isState : session.state = state)
    (tokens : ∀ tokens, session.tokens = some tokens → tokensFit tokens)
    (profile : ∀ profile, session.profile = some profile → profileFits profile) :
    session.Holds tokensFit profileFits := by
  have noClient : state ∉ SessionAction.withTokens ∧ state ≠ .unauthenticated ∧
      state ≠ .authenticated := by
    revert isServer
    cases state <;> decide
  exact {
    tokens := tokens
    profile := profile
    identified := fun possible => (noClient.1 (isState ▸ possible)).elim
    blank := fun isUnauthenticated => (noClient.2.1 (isState ▸ isUnauthenticated)).elim
    unhashed := fun isAuthenticated => (noClient.2.2 (isState ▸ isAuthenticated)).elim }

namespace Holds

variable {before after : Situation} {call : SessionCall} {outcome : Except Fault SessionResult}

/-- Every call keeps the kinds that answers keep to. -/
theorem step
    (issued : ∀ tokens, tokens.AreIssued → tokensFit tokens)
    (named : ∀ profile, profile.IsNamed → profileFits profile)
    (holds : before.session.Holds tokensFit profileFits)
    (step : SessionStep before call outcome after) :
    after.session.Holds tokensFit profileFits := by
  cases step with
  | refused _ _ =>
      exact holds
  | loggedIn isUnauthenticated read leads =>
      obtain ⟨areIssued, isNamed⟩ := Endpoint.authenticate_read_brings read
      rw [leads.session_eq]
      exact {
        tokens := fun _ held => Option.some.inj held ▸ issued _ areIssued
        profile := fun _ held => Option.some.inj held ▸ named _ isNamed
        identified := fun _ => ⟨rfl, rfl⟩
        blank := fun state => nomatch state
        unhashed := fun _ => (holds.blank isUnauthenticated).2.2 }
  | joined _ heldTokens heldProfile _ _ leads =>
      rw [leads.session_eq]
      exact {
        tokens := holds.tokens
        profile := holds.profile
        identified := fun _ => ⟨by rw [heldTokens]; rfl, by rw [heldProfile]; rfl⟩
        blank := fun state => nomatch state
        unhashed := fun state => nomatch state }
  | renewalFailed _ leads =>
      rw [leads.session_eq]
      exact holds_reset _
  | @renewed _ _ _ _ _ renewed _ possible _ read leads =>
      obtain ⟨areIssued, areNamed⟩ := Endpoint.refresh_read_brings read
      rw [leads.session_eq]
      cases renewed with
      | none =>
          exact {
            tokens := fun _ held => Option.some.inj held ▸ issued _ areIssued
            profile := holds.profile
            identified := fun _ => ⟨rfl, (holds.identified possible).2⟩
            blank := fun state => nomatch state
            unhashed := fun _ => rfl }
      | some profile =>
          exact {
            tokens := fun _ held => Option.some.inj held ▸ issued _ areIssued
            profile := fun _ held => Option.some.inj held ▸ named _ (areNamed profile rfl)
            identified := fun _ => ⟨rfl, rfl⟩
            blank := fun state => nomatch state
            unhashed := fun _ => rfl }
  | invalidated _ leads =>
      rw [leads.session_eq]
      exact holds_reset _
  | signedOut _ _ leads =>
      rw [leads.session_eq]
      exact holds_reset _
  | rejected _ leads =>
      rw [leads.session_eq]
      exact holds_server .rejected (by decide) rfl holds.tokens holds.profile
  | unjudged _ _ leads =>
      rw [leads.session_eq]
      exact holds_server .verifying (by decide) rfl holds.tokens holds.profile
  | verified _ _ _ read leads =>
      rw [leads.session_eq]
      exact holds_server .verified (by decide) rfl holds.tokens fun _ held =>
        Option.some.inj held ▸ named _ (Endpoint.hasJoined_read_brings read)
  -- What is left touches neither the state nor anything that is held.
  | _ =>
      next leads =>
        rw [leads.session_eq]
        exact ⟨holds.tokens, holds.profile, holds.identified, holds.blank, holds.unhashed⟩

theorem ending
    {start : Situation}
    (issued : ∀ tokens, tokens.AreIssued → tokensFit tokens)
    (named : ∀ profile, profile.IsNamed → profileFits profile)
    (holds : start.session.Holds tokensFit profileFits)
    (calls : List SessionCall) :
    (start.ending calls).session.Holds tokensFit profileFits := by
  induction calls using List.reverseRecOn with
  | nil =>
      exact holds
  | append_singleton earlier last inductionHypothesis =>
      rw [Situation.ending_concat]
      exact inductionHypothesis.step issued named (Situation.call_step _ last)

end Holds

end Session

/-- A session that has just been made holds what it was restored from, if it was. -/
theorem Situation.Begins.holds
    {tokensFit : Tokens → Prop}
    {profileFits : Profile → Prop}
    {start : Situation}
    (begins : start.Begins)
    (tokens : ∀ tokens, start.session.tokens = some tokens → tokensFit tokens)
    (profile : ∀ profile, start.session.profile = some profile → profileFits profile) :
    start.session.Holds tokensFit profileFits := by
  cases begins with
  | created config transport surroundings =>
      exact Session.holds_reset (Session.create config transport)
  | restored surroundings restored =>
      simp only [Session.restore, bind_eq_ok_iff, pure_eq_ok_iff] at restored
      obtain ⟨⟨savedTokens, savedProfile⟩, _, line, _, same⟩ := restored
      cases same
      exact {
        tokens := tokens
        profile := profile
        identified := fun _ => ⟨rfl, rfl⟩
        blank := fun state => nomatch state
        unhashed := fun _ => rfl }

end SessionHandshake
