import SessionHandshake.Proofs.Session.Holdings
import SessionHandshake.Proofs.Session.Opening

namespace SessionHandshake

/-!
# Credentials

A client needs an access token, a client token and a name.  Answers are refused unless
they bring usable ones, but a session is restored with whatever its configuration has
saved.  So the credentials of a client are usable or they are the saved ones.
-/

/-- The name of a profile is a text, and not an empty one. -/
def Profile.HasName (profile : Profile) : Prop :=
  ∃ content, profile.username = .text content ∧ content ≠ []

theorem Profile.IsNamed.hasName {profile : Profile} (isNamed : profile.IsNamed) :
    profile.HasName := by
  obtain ⟨_, described⟩ := isNamed
  obtain ⟨content, _, notEmpty, isText⟩ := described.username
  exact ⟨content, isText, notEmpty⟩

/-- A session has tokens and a name such as answers bring. -/
structure Session.HasCredentials (session : Session) : Prop where
  tokens : ∃ tokens, session.tokens = some tokens ∧ tokens.AreIssued
  profile : ∃ profile, session.profile = some profile ∧ profile.HasName

/-- A configuration has saved tokens and a name such as answers bring. -/
structure Config.SavesCredentials (config : Config) : Prop where
  accessToken : ∃ content, config.lookup "access-token" = .ok (.text content) ∧ content ≠ []
  clientToken : ∃ content, config.lookup "client-token" = .ok (.text content)
  username : ∃ content, config.lookup "username" = .ok (.text content) ∧ content ≠ []

/-- What is saved is usable if the configuration has saved usable values. -/
theorem Session.savedIdentity_usable_iff
    {config : Config}
    {tokens : Tokens}
    {profile : Profile}
    (saved : Session.savedIdentity config = .ok (tokens, profile)) :
    tokens.AreIssued ∧ profile.HasName ↔ config.SavesCredentials := by
  simp only [Session.savedIdentity, bind_eq_ok_iff, pure_eq_ok_iff] at saved
  obtain ⟨access, isAccess, client, isClient, _, _, _, _, name, isName, same⟩ := saved
  cases same
  constructor
  · rintro ⟨⟨⟨content, isText, notEmpty⟩, other, isOther⟩, word, isWord, wordNotEmpty⟩
    exact {
      accessToken := ⟨content, isAccess.trans (congrArg Except.ok isText), notEmpty⟩
      clientToken := ⟨other, isClient.trans (congrArg Except.ok isOther)⟩
      username := ⟨word, isName.trans (congrArg Except.ok isWord), wordNotEmpty⟩ }
  · rintro ⟨⟨content, isText, notEmpty⟩, ⟨other, isOther⟩, word, isWord, wordNotEmpty⟩
    exact ⟨⟨⟨content, Except.ok.inj (isAccess.symm.trans isText), notEmpty⟩, other,
      Except.ok.inj (isClient.symm.trans isOther)⟩, word,
      Except.ok.inj (isName.symm.trans isWord), wordNotEmpty⟩

/-- A configuration that has saved the tokens of a player, but no name for the player. -/
def Config.nameless : Config :=
  empty.saving
    { accessToken := Value.ofString "access"
      clientToken := Value.ofString "client"
      requestUser := .bool false }
    { uuid := Value.ofString "069a79f444e94726a5befca90e38aaf5"
      username := .null
      properties := .list [] }

theorem Config.not_savesCredentials_nameless : ¬ Config.nameless.SavesCredentials := by
  intro saves
  obtain ⟨content, isText, _⟩ := saves.username
  obtain ⟨_, _, _, isNull⟩ := saving_lookup empty _ _
  cases isText.symm.trans isNull

namespace SessionOpening

variable
  {opening : SessionOpening} {config : Config} {transport : Option Transport}
  {surroundings : Surroundings} {start : Situation}

/-- Whether an opening succeeds can be computed, unlike the situation that it leads to. -/
theorem exists_begin
    (succeeds : (opening.begin config transport surroundings).toOption.isSome = true) :
    ∃ start, opening.begin config transport surroundings = .ok start := by
  cases isBegun : opening.begin config transport surroundings with
  | error fault =>
      rw [isBegun] at succeeds
      cases succeeds
  | ok start =>
      exact ⟨start, rfl⟩

/-- A restored session is logged in with what is saved, as it is. -/
theorem restored_identity
    (isBegun : restored.begin config transport surroundings = .ok start) :
    start.session.state = .authenticated ∧
      ∃ tokens profile,
        Session.savedIdentity config = .ok (tokens, profile) ∧
        start.session.tokens = some tokens ∧
        start.session.profile = some profile := by
  simp only [begin_restored, bind_eq_ok_iff, pure_eq_ok_iff] at isBegun
  obtain ⟨⟨tokens, profile⟩, saved, _, _, rfl⟩ := isBegun
  exact ⟨rfl, tokens, profile, saved, rfl, rfl⟩

/--
Whatever a session has been asked, its tokens come from an answer or are the saved ones,
and so does its profile; it has both while it is logged in.
-/
theorem holds_ending
    (isBegun : opening.begin config transport surroundings = .ok start)
    (calls : List SessionCall) :
    (start.ending calls).session.Holds
      (fun tokens =>
        tokens.AreIssued ∨
          opening = .restored ∧ ∃ profile, Session.savedIdentity config = .ok (tokens, profile))
      (fun profile =>
        profile.IsNamed ∨
          opening = .restored ∧
            ∃ tokens, Session.savedIdentity config = .ok (tokens, profile)) := by
  refine Session.Holds.ending (fun _ => .inl) (fun _ => .inl)
    ((begins_of_begin isBegun).holds ?_ ?_) calls
  · intro tokens held
    cases opening with
    | created =>
        cases isBegun
        cases held
    | restored =>
        obtain ⟨_, _, profile, saved, isHeld, _⟩ := restored_identity isBegun
        cases isHeld.symm.trans held
        exact .inr ⟨rfl, profile, saved⟩
  · intro profile held
    cases opening with
    | created =>
        cases isBegun
        cases held
    | restored =>
        obtain ⟨_, tokens, _, saved, _, isHeld⟩ := restored_identity isBegun
        cases isHeld.symm.trans held
        exact .inr ⟨rfl, tokens, saved⟩

theorem savesCredentials_of_restored
    (isBegun : restored.begin config transport surroundings = .ok start)
    (hasCredentials : start.session.HasCredentials) :
    config.SavesCredentials := by
  obtain ⟨_, tokens, profile, saved, heldTokens, heldProfile⟩ := restored_identity isBegun
  obtain ⟨⟨_, sameTokens, areIssued⟩, _, sameProfile, hasName⟩ := hasCredentials
  cases heldTokens.symm.trans sameTokens
  cases heldProfile.symm.trans sameProfile
  exact (Session.savedIdentity_usable_iff saved).mp ⟨areIssued, hasName⟩

/--
Whatever a session is asked, it has usable credentials whenever it is logged in: this is
so exactly for a session that was created, or was restored from a configuration that had
saved usable ones.
-/
theorem hasCredentials_iff
    (isBegun : opening.begin config transport surroundings = .ok start) :
    (∀ calls,
        (start.ending calls).session.state ∈ [SessionState.authenticated, .joined] →
        (start.ending calls).session.HasCredentials) ↔
      (opening = .restored → config.SavesCredentials) := by
  constructor
  · rintro always rfl
    obtain ⟨isAuthenticated, _⟩ := restored_identity isBegun
    exact savesCredentials_of_restored isBegun
      (always [] (isAuthenticated ▸ List.mem_cons_self))
  · intro savesUsable calls isLoggedIn
    have holds := holds_ending isBegun calls
    obtain ⟨hasTokens, hasProfile⟩ := holds.identified isLoggedIn
    obtain ⟨tokens, heldTokens⟩ := Option.isSome_iff_exists.mp hasTokens
    obtain ⟨profile, heldProfile⟩ := Option.isSome_iff_exists.mp hasProfile
    refine ⟨⟨tokens, heldTokens, ?_⟩, profile, heldProfile, ?_⟩
    · rcases holds.tokens tokens heldTokens with areIssued | ⟨isRestored, _, saved⟩
      · exact areIssued
      · exact ((Session.savedIdentity_usable_iff saved).mpr (savesUsable isRestored)).1
    · rcases holds.profile profile heldProfile with isNamed | ⟨isRestored, _, saved⟩
      · exact isNamed.hasName
      · exact ((Session.savedIdentity_usable_iff saved).mpr (savesUsable isRestored)).2

/-- A session restored with the name `Notch` has usable credentials whenever it is logged in. -/
theorem hasCredentials_remembering :
    ∃ start,
      restored.begin (Config.remembering "access") (some .direct) (Surroundings.quiet []) =
          .ok start ∧
        ((∀ calls,
            (start.ending calls).session.state ∈ [SessionState.authenticated, .joined] →
            (start.ending calls).session.HasCredentials) ↔
          (restored = .restored → (Config.remembering "access").SavesCredentials)) := by
  obtain ⟨start, isBegun⟩ :=
    @exists_begin restored (Config.remembering "access") (some .direct) (Surroundings.quiet [])
      (by decide +kernel)
  exact ⟨start, isBegun, hasCredentials_iff isBegun⟩

/-- A session is restored and logged in without a name. -/
theorem restored_without_name :
    ∃ start,
      restored.begin Config.nameless (some .direct) (Surroundings.quiet []) = .ok start ∧
        start.session.state = .authenticated ∧
        ¬ start.session.HasCredentials := by
  obtain ⟨start, isBegun⟩ :=
    @exists_begin restored Config.nameless (some .direct) (Surroundings.quiet [])
      (by decide +kernel)
  obtain ⟨isAuthenticated, _⟩ := restored_identity isBegun
  exact ⟨start, isBegun, isAuthenticated, fun hasCredentials =>
    Config.not_savesCredentials_nameless (savesCredentials_of_restored isBegun hasCredentials)⟩

end SessionOpening

end SessionHandshake
