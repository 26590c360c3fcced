import SessionHandshake.Endpoint.Joining
import SessionHandshake.Proofs.Nesting

namespace SessionHandshake

/-!
# What servers say about a refusal

The body of a refusal may be anything at all, and something is made of each body that is
not nested too deep: the two members of an object, or nothing.  A join that was refused is
told apart by these members, which are taken for texts.
-/

namespace RefusalDetails

/-- What a body says about a refusal: two members of the object it holds, if it holds one. -/
def statedBy (body : Value) : RefusalDetails :=
  match Json.readBody body with
  | .ok (.mapping entries) =>
      {
        error := (Value.member? entries "error").getD .null
        errorMessage := (Value.member? entries "errorMessage").getD .null
      }
  | _ =>
      none

/-- Something is made of a body, whether or not it can be read, unless it is nested too deep. -/
theorem ofBody_eq {body : Value} (followable : ¬ body.NestsTooDeep) :
    ofBody body = .ok (statedBy body) := by
  unfold ofBody members statedBy
  cases read : Json.readBody body with
  | error fault =>
      simp only [Value.isBadValueOrType_of_followable followable read, if_true]
      rfl
  | ok value =>
      cases value <;> rfl

theorem ofBody_of_nestsTooDeep {body : Value} (tooDeep : body.NestsTooDeep) :
    ofBody body = .error .tooDeep := by
  have read : Json.readBody body = .error .tooDeep := tooDeep
  rw [ofBody, members, read]
  rfl

theorem statedBy_of_nestsTooDeep {body : Value} (tooDeep : body.NestsTooDeep) :
    statedBy body = none := by
  have read : Json.readBody body = .error .tooDeep := tooDeep
  rw [statedBy, read]

end RefusalDetails

namespace Fault

variable (refusal : Refusal) (reason : RefusalReason) {body : Value} (cause : Option Fault)

/-- A failed request is a refusal that quotes what the body says. -/
theorem refusedOnAccountOf_eq (followable : ¬ body.NestsTooDeep) :
    refusedOnAccountOf refusal reason body cause =
      .refused refusal reason (RefusalDetails.statedBy body) cause := by
  rw [refusedOnAccountOf, RefusalDetails.ofBody_eq followable]

/-- A failed request whose body is nested too deep is no refusal. -/
theorem refusedOnAccountOf_of_nestsTooDeep (tooDeep : body.NestsTooDeep) :
    refusedOnAccountOf refusal reason body cause = .tooDeep := by
  rw [refusedOnAccountOf, RefusalDetails.ofBody_of_nestsTooDeep tooDeep]

end Fault

/-! ## Refused joins -/

namespace RefusalDetails

/-- The error names one of the refusals of a join: it begins as they do. -/
def NamesJoinRefusal (details : RefusalDetails) : Prop :=
  ∃ reason,
    details.error = .text reason ∧
      ∃ entry ∈ Endpoint.joinRefusals, reason.startsWith entry.1 = true

end RefusalDetails

/-- A field can be looked at for a reason: it is a text, or counts as false. -/
def Value.MayBeReason (field : Value) : Prop :=
  (∃ reason, field = .text reason) ∨ field.isTruthy = false

theorem Value.mayBeReason_iff {field : Value} :
    field.MayBeReason ↔ field.isText = true ∨ field.isTruthy = false := by
  refine or_congr ⟨?_, ?_⟩ Iff.rfl
  · rintro ⟨reason, rfl⟩
    rfl
  · intro isText
    cases field with
    | text reason =>
        exact ⟨reason, rfl⟩
    | _ =>
        cases isText

instance (field : Value) : Decidable field.MayBeReason :=
  decidable_of_iff _ Value.mayBeReason_iff.symm

/-- A refused join can be told apart: each field that is looked at may be a reason. -/
def RefusalDetails.TellsJoinRefusal (details : RefusalDetails) : Prop :=
  details.error.MayBeReason ∧ (details.NamesJoinRefusal ∨ details.errorMessage.MayBeReason)

namespace Endpoint

/-- The families of a refused join. -/
def joinFamilies : List FaultFamily :=
  [.joinRejected, .invalidSessionId, .invalidServerId, .invalidProfileId]

theorem joinRefusal?_isSome_iff {reason : Text} :
    (joinRefusal? reason).isSome = true ↔
      ∃ entry ∈ joinRefusals, reason.startsWith entry.1 = true := by
  rw [joinRefusal?, Option.isSome_map, List.find?_isSome]

theorem family_mem_of_joinRefusal?
    {reason : Text}
    {refusal : Refusal}
    (isKnown : joinRefusal? reason = some refusal) :
    refusal.family ∈ joinFamilies := by
  obtain ⟨entry, found, rfl⟩ := Option.map_eq_some_iff.mp isKnown
  have listed : ∀ entry ∈ joinRefusals, entry.2.family ∈ joinFamilies := by
    decide
  exact listed entry (List.mem_of_find?_eq_some found)

/-- Looking at a field for a reason fails exactly for a field that cannot be one. -/
theorem statedRefusal?_eq_error_iff {field : Value} {fault : Fault} :
    statedRefusal? field = .error fault ↔ ¬ field.MayBeReason ∧ fault = .noSuchOperation := by
  unfold statedRefusal?
  split
  · next reason =>
      constructor
      · intro failed
        cases failed
      · rintro ⟨isNone, _⟩
        exact (isNone (.inl ⟨reason, rfl⟩)).elim
  · next other notText =>
      split
      · next isTruthy =>
          constructor
          · intro failed
            cases failed
            refine ⟨?_, rfl⟩
            rintro (⟨reason, isText⟩ | countsAsFalse)
            · exact notText reason isText
            · rw [countsAsFalse] at isTruthy
              cases isTruthy
          · rintro ⟨_, rfl⟩
            rfl
      · next countsAsFalse =>
          constructor
          · intro failed
            cases failed
          · rintro ⟨isNone, _⟩
            exact (isNone (.inr (Bool.eq_false_iff.mpr countsAsFalse))).elim

/-- A field stands for a refusal exactly if it is a text that begins as the refusal does. -/
theorem statedRefusal?_eq_some_iff {field : Value} {refusal : Refusal} {reason : Text} :
    statedRefusal? field = .ok (some (refusal, reason)) ↔
      field = .text reason ∧ joinRefusal? reason = some refusal := by
  unfold statedRefusal?
  split
  · next content =>
      simp only [Except.ok.injEq, Option.map_eq_some_iff, Prod.mk.injEq, Value.text.injEq]
      constructor
      · rintro ⟨_, isKnown, rfl, rfl⟩
        exact ⟨rfl, isKnown⟩
      · rintro ⟨rfl, isKnown⟩
        exact ⟨refusal, isKnown, rfl, rfl⟩
  · next other notText =>
      constructor
      · intro stated
        split at stated <;> cases stated
      · rintro ⟨isText, _⟩
        exact (notText reason isText).elim

theorem namesJoinRefusal_iff {details : RefusalDetails} :
    details.NamesJoinRefusal ↔ ∃ found, statedRefusal? details.error = .ok (some found) := by
  constructor
  · rintro ⟨reason, isText, begins⟩
    obtain ⟨refusal, isKnown⟩ := Option.isSome_iff_exists.mp (joinRefusal?_isSome_iff.mpr begins)
    exact ⟨(refusal, reason), statedRefusal?_eq_some_iff.mpr ⟨isText, isKnown⟩⟩
  · rintro ⟨⟨refusal, reason⟩, stated⟩
    obtain ⟨isText, isKnown⟩ := statedRefusal?_eq_some_iff.mp stated
    refine ⟨reason, isText, joinRefusal?_isSome_iff.mp ?_⟩
    rw [isKnown]
    rfl

/-- Telling a refusal apart fails exactly where a field is looked at that cannot be a reason. -/
theorem bodyRefusal?_eq_error_iff {details : RefusalDetails} {fault : Fault} :
    bodyRefusal? details = .error fault ↔
      ¬ details.TellsJoinRefusal ∧ fault = .noSuchOperation := by
  unfold bodyRefusal? RefusalDetails.TellsJoinRefusal
  cases stated : statedRefusal? details.error with
  | error other =>
      obtain ⟨cannotBe, rfl⟩ := statedRefusal?_eq_error_iff.mp stated
      constructor
      · intro failed
        cases failed
        exact ⟨fun tells => cannotBe tells.1, rfl⟩
      · rintro ⟨_, rfl⟩
        rfl
  | ok found =>
      have mayBe : details.error.MayBeReason :=
        Classical.byContradiction fun cannotBe => by
          cases stated.symm.trans (statedRefusal?_eq_error_iff.mpr ⟨cannotBe, rfl⟩)
      -- The explanation is looked at only if the short name is no known refusal.
      cases found with
      | some refusal =>
          have names : details.NamesJoinRefusal := namesJoinRefusal_iff.mpr ⟨refusal, stated⟩
          constructor
          · intro failed
            cases failed
          · rintro ⟨tellsNot, _⟩
            exact (tellsNot ⟨mayBe, .inl names⟩).elim
      | none =>
          have namesNone : ¬ details.NamesJoinRefusal := by
            intro names
            obtain ⟨refusal, isSome⟩ := namesJoinRefusal_iff.mp names
            cases stated.symm.trans isSome
          simp only [mayBe, namesNone, false_or, true_and]
          exact statedRefusal?_eq_error_iff

theorem family_mem_of_bodyRefusal?
    {details : RefusalDetails}
    {refusal : Refusal}
    {reason : Text}
    (told : bodyRefusal? details = .ok (some (refusal, reason))) :
    refusal.family ∈ joinFamilies := by
  obtain ⟨found, stated, told⟩ := bind_eq_ok_iff.mp told
  cases found with
  | some first =>
      cases told
      exact family_mem_of_joinRefusal? (statedRefusal?_eq_some_iff.mp stated).2
  | none =>
      exact family_mem_of_joinRefusal? (statedRefusal?_eq_some_iff.mp told).2

/-- What the fault of a refused join is, once it has been told apart. -/
theorem joinFault_eq
    {body : Value}
    (followable : ¬ body.NestsTooDeep)
    (status : Value)
    (cause : Option Fault) :
    joinFault status body cause =
      (bodyRefusal? (RefusalDetails.statedBy body)).map fun told =>
        match told with
        | some (refusal, reason) =>
            .refused refusal (.joinForReason reason) (RefusalDetails.statedBy body) cause
        | none =>
            .refused .join (.joinWithStatus status) (RefusalDetails.statedBy body) cause := by
  rw [joinFault, RefusalDetails.ofBody_eq followable, ok_bind]
  cases bodyRefusal? (RefusalDetails.statedBy body) with
  | error fault =>
      rfl
  | ok told =>
      cases told <;> rfl

theorem joinFault_of_nestsTooDeep
    {body : Value}
    (tooDeep : body.NestsTooDeep)
    (status : Value)
    (cause : Option Fault) :
    joinFault status body cause = .error .tooDeep := by
  rw [joinFault, RefusalDetails.ofBody_of_nestsTooDeep tooDeep]
  rfl

section Join

variable (server accessToken profileId serverHash : Value)

/-- A refused join that can be told apart is reported in a family of refused joins. -/
theorem join_read_of_tells
    {message : Text}
    {status body : Value}
    {cause : Option Fault}
    (followable : ¬ body.NestsTooDeep)
    (tells : (RefusalDetails.statedBy body).TellsJoinRefusal) :
    ∃ refusal reason,
      (join server accessToken profileId serverHash).read
          (.error (.transport message status body cause)) =
        .error (.refused refusal reason (RefusalDetails.statedBy body)
          (some (.transport message status body cause))) ∧
      refusal.family ∈ joinFamilies := by
  simp only [join, joinFault_eq followable]
  cases told : bodyRefusal? (RefusalDetails.statedBy body) with
  | error fault =>
      exact ((bodyRefusal?_eq_error_iff.mp told).1 tells).elim
  | ok found =>
      cases found with
      | none =>
          exact ⟨.join, .joinWithStatus status, rfl, List.mem_cons_self⟩
      | some refusal =>
          obtain ⟨refusal, reason⟩ := refusal
          exact ⟨refusal, .joinForReason reason, rfl, family_mem_of_bodyRefusal? told⟩

theorem join_read_of_not_tells
    {message : Text}
    {status body : Value}
    {cause : Option Fault}
    (followable : ¬ body.NestsTooDeep)
    (tellsNot : ¬ (RefusalDetails.statedBy body).TellsJoinRefusal) :
    (join server accessToken profileId serverHash).read
        (.error (.transport message status body cause)) =
      .error .noSuchOperation := by
  simp only [join, joinFault_eq followable, bodyRefusal?_eq_error_iff.mpr ⟨tellsNot, rfl⟩]
  rfl

/-- A refused join whose body is nested too deep fails for this reason. -/
theorem join_read_of_nestsTooDeep
    {message : Text}
    {status body : Value}
    {cause : Option Fault}
    (tooDeep : body.NestsTooDeep) :
    (join server accessToken profileId serverHash).read
        (.error (.transport message status body cause)) =
      .error .tooDeep := by
  simp only [join, joinFault_of_nestsTooDeep tooDeep]

/--
A join that is answered is done.  One that is refused with a body that can be followed is
reported as such, on account of the refusal, exactly if what was said about it can be looked
at for a reason; a field that is neither a text nor counts as false makes the report fail in
another way.
-/
theorem join_read_refused_iff
    (answer : Value)
    (message : Text)
    (status body : Value)
    (cause : Option Fault) :
    (join server accessToken profileId serverHash).read (.ok answer) = .ok () ∧
      (¬ body.NestsTooDeep →
        ((∃ refusal reason,
            (join server accessToken profileId serverHash).read
                (.error (.transport message status body cause)) =
              .error (.refused refusal reason (RefusalDetails.statedBy body)
                (some (.transport message status body cause))) ∧
            refusal.family ∈ joinFamilies) ↔
          (RefusalDetails.statedBy body).TellsJoinRefusal) ∧
        ((join server accessToken profileId serverHash).read
            (.error (.transport message status body cause)) = .error .noSuchOperation ↔
          ¬ (RefusalDetails.statedBy body).TellsJoinRefusal)) ∧
      (body.NestsTooDeep →
        body.OpensTooMany ∧
          (join server accessToken profileId serverHash).read
              (.error (.transport message status body cause)) = .error .tooDeep) := by
  refine ⟨rfl, fun followable => ⟨⟨?_, join_read_of_tells _ _ _ _ followable⟩,
    ⟨?_, join_read_of_not_tells _ _ _ _ followable⟩⟩,
    fun tooDeep => ⟨tooDeep.opensTooMany, join_read_of_nestsTooDeep _ _ _ _ tooDeep⟩⟩
  · rintro ⟨refusal, reason, isRefused, _⟩
    refine Classical.byContradiction fun tellsNot => ?_
    cases isRefused.symm.trans
      (join_read_of_not_tells server accessToken profileId serverHash followable tellsNot)
  · intro failed tells
    obtain ⟨refusal, reason, isRefused, _⟩ :=
      join_read_of_tells server accessToken profileId serverHash followable tells
    cases failed.symm.trans isRefused

end Join

/-- A body of which the error is a number. -/
def numberedRefusal : Value :=
  .bytes ((Text.ofString "\x7b\"error\": 5\x7d").flatMap CodePoint.utf8)

/-- A join that is refused with a number for the error is not reported as refused. -/
theorem join_refused_by_number :
    (join defaultSessionServer (.text "token") (.text "id") (.text "hash")).read
        (.error (.transport "HTTP 403" (.int 403) numberedRefusal none)) =
      .error .noSuchOperation := by
  have isNumber : ¬ (RefusalDetails.statedBy numberedRefusal).error.MayBeReason := by
    decide +kernel
  have followable : ¬ numberedRefusal.NestsTooDeep := fun tooDeep =>
    isNumber (by rw [RefusalDetails.statedBy_of_nestsTooDeep tooDeep]; decide)
  exact join_read_of_not_tells _ _ _ _ followable fun tells => isNumber tells.1

end Endpoint

end SessionHandshake
