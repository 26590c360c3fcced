import SessionHandshake.Proofs.DashedForm
import SessionHandshake.Proofs.Session.Credentials

namespace SessionHandshake

/-!
# The identifiers of profiles

A profile that is read from an answer, or restored from a configuration, has an identifier
in the normal form, and with it a dashed form.  If a line feed stood behind the digits it is
part of the identifier, and there is no dashed form.
-/

/-- A profile has a normal identifier and a dashed form, or a line feed and no dashed form. -/
inductive Profile.IsIdentified (profile : Profile) : Prop
  | digits {digits : Text}
      (isUuid : profile.uuid = .text digits)
      (isNormal : Uuid.IsNormal digits)
      (isDashed : profile.dashedUuid = .ok (Uuid.grouped digits))
  | line {digits : Text}
      (isUuid : profile.uuid = .text (digits ++ Uuid.lineFeed))
      (isNormal : Uuid.IsNormal digits)
      (notDashed : profile.dashedUuid = .error (.badValue .malformedUuid))

namespace Uuid

variable {profile : Profile}

theorem IsTakenFor.isIdentified
    {content result : Text}
    (isTaken : IsTakenFor content result)
    (isUuid : profile.uuid = .text result) :
    profile.IsIdentified := by
  cases isTaken with
  | digits isSpelled =>
      have isNormal := isNormal_asciiLowercase_iff.mpr isSpelled
      refine .digits isUuid isNormal ?_
      rw [Profile.dashedUuid, isUuid]
      exact dashedText_of_isNormal isNormal
  | line _ isSpelled =>
      have isNormal := isNormal_asciiLowercase_iff.mpr isSpelled
      refine .line isUuid isNormal ?_
      rw [Profile.dashedUuid, isUuid]
      exact dashedText_lineFeed isNormal

theorem isIdentified_of_normalize
    {value : Value}
    {result : Text}
    (normalized : normalize value = .ok result)
    (isUuid : profile.uuid = .text result) :
    profile.IsIdentified := by
  cases normalize_eq_iff.mp normalized with
  | taken isTaken =>
      exact isTaken.isIdentified isUuid

theorem isIdentified_of_ofAnswer
    {answer : Value}
    (isRead : Profile.ofAnswer answer = .ok profile) :
    profile.IsIdentified := by
  obtain ⟨_, _, described⟩ := Profile.ofAnswer_eq_ok_iff.mp isRead
  obtain ⟨_, _, _, normalized, isUuid⟩ := described.uuid
  exact isIdentified_of_normalize normalized isUuid

theorem isIdentified_of_savedIdentity
    {config : Config}
    {tokens : Tokens}
    (saved : Session.savedIdentity config = .ok (tokens, profile)) :
    profile.IsIdentified := by
  simp only [Session.savedIdentity, bind_eq_ok_iff, pure_eq_ok_iff] at saved
  obtain ⟨_, _, _, _, _, _, _, normalized, _, _, same⟩ := saved
  cases same
  exact isIdentified_of_normalize normalized rfl

/--
A text is normalised exactly if thirty-two hexadecimal digits are left of it without its
hyphens, or these and a line feed; every other value that can be shown is reported as
malformed.  A profile that is read or restored is identified accordingly.
-/
theorem normalized_up_to_lineFeed
    (value answer : Value)
    (config : Config)
    (transport : Option Transport)
    (surroundings : Surroundings) :
    (∀ outcome, normalize value = outcome ↔ NormalizesTo value outcome) ∧
      (∀ profile, Profile.ofAnswer answer = .ok profile → profile.IsIdentified) ∧
      ∀ start,
        SessionOpening.restored.begin config transport surroundings = .ok start →
        ∃ profile, start.session.profile = some profile ∧ profile.IsIdentified := by
  refine ⟨fun _ => normalize_eq_iff, fun _ => isIdentified_of_ofAnswer, fun start isBegun => ?_⟩
  obtain ⟨_, _, profile, saved, _, isHeld⟩ := SessionOpening.restored_identity isBegun
  exact ⟨profile, isHeld, isIdentified_of_savedIdentity saved⟩

/-- Both ways to a profile lead to one that is identified. -/
theorem normalized_up_to_lineFeed_reached :
    (∃ profile,
        Profile.ofAnswer (.mapping zeroLedAnswer) = .ok profile ∧ profile.IsIdentified) ∧
      ∃ start profile,
        SessionOpening.restored.begin (Config.remembering "access") (some .direct)
            (Surroundings.quiet []) = .ok start ∧
          start.session.profile = some profile ∧
          profile.IsIdentified := by
  obtain ⟨start, isBegun⟩ :=
    @SessionOpening.exists_begin .restored (Config.remembering "access") (some .direct)
      (Surroundings.quiet []) (by decide +kernel)
  obtain ⟨_, isRead, isRestored⟩ := normalized_up_to_lineFeed .null (.mapping zeroLedAnswer)
    (Config.remembering "access") (some .direct) (Surroundings.quiet [])
  obtain ⟨profile, isHeld, isIdentified⟩ := isRestored start isBegun
  obtain ⟨id, username, properties⟩ := zeroLedAnswer_members
  obtain ⟨isNormal, spells⟩ := zeroLed_spells
  have isAnswer :=
    Profile.ofAnswer_of_spells isNormal spells id username (by decide) properties (by decide)
  exact ⟨⟨_, isAnswer, isRead _ isAnswer⟩, start, profile, isBegun, isHeld, isIdentified⟩

/-- A line feed behind the digits is kept, and leaves the profile without a dashed form. -/
theorem lineFeed_normalized :
    ∃ content result : Text,
      content = "069a79f444e94726a5befca90e38aaf5\n" ∧
        normalize (.text content) = .ok result ∧
        ¬ IsSpelled (content.without hyphen) ∧
        ¬ IsNormal result ∧
        dashed (.text result) = .error (.badValue .malformedUuid) := by
  have isNormal : IsNormal "069a79f444e94726a5befca90e38aaf5" := by decide
  refine ⟨_, _, rfl, normalize_text_eq_ok_iff.mpr (.line ?_ isNormal.isSpelled), ?_, ?_,
    dashedText_lineFeed isNormal⟩
  all_goals decide +kernel

end Uuid

end SessionHandshake
