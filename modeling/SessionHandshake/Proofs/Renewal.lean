import SessionHandshake.Proofs.Login

namespace SessionHandshake

/-!
# Renewals are read as log-ins are

A log-in and a renewal are answered in the same form, and whoever reads one answer for
both finds the same in it.  A renewal may do without a profile; for the rest they differ
only in how they report an answer that cannot be used.
-/

namespace Answer

/--
What is read does not depend on how a fault is reported: there is a result, or a problem
with a cause that goes into any report.
-/
inductive ReadsAlways {Result : Type} (reading : AnswerFault → Except Fault Result) : Prop where
  | result (found : Result) :
      (∀ report, reading report = .ok found) →
      ReadsAlways reading
  | problem (problem : Malformation) (cause : Option Fault) :
      (∀ report, reading report = .error (report problem cause)) →
      ReadsAlways reading

namespace ReadsAlways

variable {First Second : Type}

theorem pure (found : First) : ReadsAlways fun _ => .ok found :=
  .result found fun _ => rfl

/-- One reading after another does not depend on the report if neither does. -/
theorem bind
    {first : AnswerFault → Except Fault First}
    {next : AnswerFault → First → Except Fault Second}
    (firstReads : ReadsAlways first)
    (nextReads : ∀ found, ReadsAlways fun report => next report found) :
    ReadsAlways fun report => first report >>= next report := by
  cases firstReads with
  | problem problem cause failed =>
      refine .problem problem cause fun report => ?_
      rw [failed]
      rfl
  | result found read =>
      cases nextReads found with
      | problem problem cause failed =>
          refine .problem problem cause fun report => ?_
          rw [read, ok_bind, failed]
      | result last readLast =>
          refine .result last fun report => ?_
          rw [read, ok_bind, readLast]

end ReadsAlways

/-- Bytes that are not nested too deep hold an object, or not, however this is reported. -/
theorem readsAlways_members
    {content : Bytes}
    (followable : ¬ (Value.bytes content).NestsTooDeep) :
    ReadsAlways fun report => members report (.bytes content) := by
  cases read : Json.readBody (.bytes content) with
  | error fault =>
      refine .problem .notJson (some fault) fun report => ?_
      simp only [members, read, Value.isBadValue_of_followable followable read, if_true]
  | ok value =>
      cases value with
      | mapping entries =>
          refine .result entries fun report => ?_
          simp only [members, read]
      | _ =>
          refine .problem .notObject none fun report => ?_
          simp only [members, read]

theorem readsAlways_require (entries : List (Value × Value)) (name : String) :
    ReadsAlways fun report => require report entries name := by
  cases found : Value.member? entries name with
  | none =>
      refine .problem (.missingField name) (some (.missingKey (Value.ofString name))) ?_
      intro report
      rw [require, found]
  | some value =>
      refine .result value fun report => ?_
      rw [require, found]

theorem readsAlways_checkAccessToken (token : Value) :
    ReadsAlways fun report => checkAccessToken report token := by
  unfold checkAccessToken
  split
  · exact .pure ()
  · exact .problem .badAccessToken none fun report => rfl

theorem readsAlways_checkClientToken (token : Value) :
    ReadsAlways fun report => checkClientToken report token := by
  unfold checkClientToken
  split
  · exact .pure ()
  · exact .problem .badClientToken none fun report => rfl

/-- The tokens of an answer are found, or not, however this is reported. -/
theorem readsAlways_tokens (entries : List (Value × Value)) (requestUser : Value) :
    ReadsAlways fun report => tokens report entries requestUser := by
  unfold tokens
  refine .bind (readsAlways_require entries "accessToken") fun accessToken => ?_
  refine .bind (readsAlways_require entries "clientToken") fun clientToken => ?_
  refine .bind (readsAlways_checkAccessToken accessToken) fun _ => ?_
  refine .bind (readsAlways_checkClientToken clientToken) fun _ => ?_
  exact .pure _

/-- The answer selects no profile: there is no such member, or it is null. -/
def SelectsNone (entries : List (Value × Value)) : Prop :=
  Value.member? entries "selectedProfile" = none ∨
    Value.member? entries "selectedProfile" = some .null

theorem selectsNone_iff {entries : List (Value × Value)} :
    SelectsNone entries ↔ (Value.member? entries "selectedProfile").getD .null = .null := by
  unfold SelectsNone
  cases Value.member? entries "selectedProfile" with
  | none =>
      exact ⟨fun _ => rfl, fun _ => .inl rfl⟩
  | some answer =>
      constructor
      · rintro (isMissing | isNull)
        · cases isMissing
        · exact Option.some.inj isNull
      · intro isNull
        exact .inr (congrArg some isNull)

end Answer

namespace Endpoint

/-- What a log-in and a renewal make of the same bytes. -/
inductive ReadTogether (content : Bytes) :
    Except Fault (Tokens × Profile) → Except Fault (Tokens × Option Profile) → Prop where
  /-- Both bring the same tokens and the same profile. -/
  | identified (tokens : Tokens) (profile : Profile) :
      ReadTogether content (.ok (tokens, profile)) (.ok (tokens, some profile))
  /-- The renewal brings tokens alone, and the log-in fails since no profile is selected. -/
  | unidentified {entries : List (Value × Value)} (tokens : Tokens) :
      Json.readBytes content = .ok (.mapping entries) →
      Answer.SelectsNone entries →
      ReadTogether content
        (.error (.refused .authentication (.unusableProfile .profileNotObject)
          RefusalDetails.none (some (.malformedResponse .profileNotObject none))))
        (.ok (tokens, none))
  /-- Both fail over one problem with the answer or its tokens. -/
  | unusableAnswer (problem : Malformation) (cause : Option Fault) :
      ReadTogether content
        (.error (.refused .authentication (.unusableAnswer problem) RefusalDetails.none cause))
        (.error (.malformedResponse problem cause))
  /-- Both fail over one problem with the selected profile. -/
  | unusableProfile (problem : Malformation) (cause : Option Fault) :
      ReadTogether content
        (.error (.refused .authentication (.unusableProfile problem) RefusalDetails.none
          (some (.malformedResponse problem cause))))
        (.error (.malformedResponse problem cause))

/-- The selected profile decides what becomes of tokens that both have found. -/
theorem readTogether_of_members
    {content : Bytes}
    {entries : List (Value × Value)}
    (read : Json.readBytes content = .ok (.mapping entries))
    (tokens : Tokens) :
    ReadTogether content
      (loginProfile entries >>= fun profile => pure (tokens, profile))
      (renewedProfile entries >>= fun profile => pure (tokens, profile)) := by
  by_cases selectsNone : Answer.SelectsNone entries
  · rw [loginProfile, renewedProfile, Answer.selectsNone_iff.mp selectsNone]
    exact .unidentified tokens read selectsNone
  · have renewed :
        renewedProfile entries =
          (Profile.ofAnswer ((Value.member? entries "selectedProfile").getD .null)).map some := by
      unfold renewedProfile
      split
      · next isNull =>
          exact (selectsNone (Answer.selectsNone_iff.mpr isNull)).elim
      · rfl
    rw [renewed, loginProfile]
    cases selected : Profile.ofAnswer ((Value.member? entries "selectedProfile").getD .null) with
    | ok profile =>
        exact .identified tokens profile
    | error fault =>
        have showable := Value.isShowable_mapping.mp (Json.readBytes_isShowable read)
        obtain ⟨problem, cause, rfl⟩ := selectedProfile_malformed showable selected
        exact .unusableProfile problem cause

section Renewal

variable
  (authServer username password givenToken : Value)
  (renewingServer accessToken clientToken : Value)
  (requestUser : Value)

theorem readTogether
    {content : Bytes}
    (followable : ¬ (Value.bytes content).NestsTooDeep) :
    ReadTogether content
      ((authenticate authServer username password givenToken requestUser).read
        (.ok (.bytes content)))
      ((refresh renewingServer accessToken clientToken requestUser).read
        (.ok (.bytes content))) := by
  simp only [authenticate, refresh]
  cases Answer.readsAlways_members followable with
  | problem problem cause failed =>
      rw [failed, failed]
      exact .unusableAnswer problem cause
  | result entries members =>
      have read := Answer.members_eq_ok_iff.mp (members Answer.malformed)
      rw [members, members, ok_bind, ok_bind]
      cases Answer.readsAlways_tokens entries requestUser with
      | problem problem cause failed =>
          rw [failed, failed]
          exact .unusableAnswer problem cause
      | result tokens given =>
          rw [given, given, ok_bind, ok_bind]
          exact readTogether_of_members read tokens

/-- An answer to a renewal that is nested too deep fails for this reason. -/
theorem refresh_read_of_nestsTooDeep {body : Value} (tooDeep : body.NestsTooDeep) :
    (refresh renewingServer accessToken clientToken requestUser).read (.ok body) =
      .error .tooDeep := by
  simp only [refresh, Answer.members_of_nestsTooDeep tooDeep]
  rfl

/--
An answer brings a log-in and a renewal the same tokens and the same profile, or is of no
use to either for one reason; only if it selects no profile does the renewal alone make do
with its tokens.  A request that fails is a failed authentication for both, on account of
that failure and with what its body says.  A body that is nested too deep, which begins more
lists and objects than can be followed, fails both alike, and neither as an authentication
nor as a malformed answer.
-/
theorem refresh_reads_as_authenticate :
    (∀ content,
      ¬ (Value.bytes content).NestsTooDeep →
      ReadTogether content
        ((authenticate authServer username password givenToken requestUser).read
          (.ok (.bytes content)))
        ((refresh renewingServer accessToken clientToken requestUser).read
          (.ok (.bytes content)))) ∧
      (∀ message status body cause,
        ¬ body.NestsTooDeep →
        (authenticate authServer username password givenToken requestUser).read
              (.error (.transport message status body cause)) =
            .error (.refused .authentication (.credentials status)
              (RefusalDetails.statedBy body) (some (.transport message status body cause))) ∧
          (refresh renewingServer accessToken clientToken requestUser).read
              (.error (.transport message status body cause)) =
            .error (.refused .authentication (.refresh status)
              (RefusalDetails.statedBy body) (some (.transport message status body cause)))) ∧
      ∀ body,
        body.NestsTooDeep →
        body.OpensTooMany ∧
          ∀ outcome,
            (outcome = .ok body ∨
              ∃ message status cause, outcome = .error (.transport message status body cause)) →
            (authenticate authServer username password givenToken requestUser).read outcome =
                .error .tooDeep ∧
              (refresh renewingServer accessToken clientToken requestUser).read outcome =
                .error .tooDeep := by
  refine ⟨fun _ => readTogether _ _ _ _ _ _ _ _,
    fun message status body cause followable => ⟨?_, ?_⟩,
    fun body tooDeep => ⟨tooDeep.opensTooMany, ?_⟩⟩
  · simp only [authenticate, Fault.refusedOnAccountOf_eq _ _ _ followable]
  · simp only [refresh, Fault.refusedOnAccountOf_eq _ _ _ followable]
  · rintro outcome (rfl | ⟨message, status, cause, rfl⟩)
    · exact ⟨authenticate_read_of_nestsTooDeep _ _ _ _ _ tooDeep,
        refresh_read_of_nestsTooDeep _ _ _ _ tooDeep⟩
    · have failed := Fault.refusedOnAccountOf_of_nestsTooDeep
      simp only [authenticate, refresh, failed _ _ _ tooDeep, and_self]

/-- Brackets alone are neither a failed authentication nor a malformed answer. -/
theorem read_of_brackets :
    (authenticate defaultAuthServer (.text "user") (.text "password") (.text "token")
          (.bool false)).read (.ok (Value.brackets 100000)) =
        .error .tooDeep ∧
      (refresh defaultAuthServer (.text "access") (.text "client") (.bool false)).read
          (.ok (Value.brackets 100000)) =
        .error .tooDeep := by
  have tooDeep : (Value.brackets 100000).NestsTooDeep :=
    Value.nestsTooDeep_brackets (by decide)
  exact ⟨authenticate_read_of_nestsTooDeep _ _ _ _ _ tooDeep,
    refresh_read_of_nestsTooDeep _ _ _ _ tooDeep⟩

end Renewal

end Endpoint

end SessionHandshake
