import Mathlib.Data.List.Find
import SessionHandshake.Proofs.Entries
import SessionHandshake.Proofs.Refusal

namespace SessionHandshake

/-!
# Which refusal a refused join is

What a server says about a refused join is looked up in a table of beginnings, first its
short name and then its explanation.  No text begins in two of the ways that the table
lists, so the order of the table has no say in the outcome.
-/

namespace Endpoint

/-! ## Tables in any order -/

/-- The refusal that a reason stands for by a table of beginnings. -/
def refusalIn? (table : List (Text × Refusal)) (reason : Text) : Option Refusal :=
  (table.find? fun entry => reason.startsWith entry.1).map Prod.snd

/-- The reason that a field gives, if it is one by a table of beginnings. -/
def statedRefusalIn?
    (table : List (Text × Refusal))
    (field : Value) :
    Except Fault (Option (Refusal × Text)) :=
  match field with
  | .text reason =>
      .ok ((refusalIn? table reason).map (·, reason))
  | other =>
      if other.isTruthy then
        .error .noSuchOperation
      else
        .ok none

/-- The refusal of a body by a table of beginnings: its short name, else its explanation. -/
def bodyRefusalIn?
    (table : List (Text × Refusal))
    (details : RefusalDetails) :
    Except Fault (Option (Refusal × Text)) := do
  match ← statedRefusalIn? table details.error with
  | some refusal =>
      return some refusal
  | none =>
      statedRefusalIn? table details.errorMessage

/-- The fault of a refused join by a table of beginnings. -/
def joinFaultIn
    (table : List (Text × Refusal))
    (status body : Value)
    (cause : Option Fault) :
    Except Fault Fault := do
  let details ← RefusalDetails.ofBody body
  match ← bodyRefusalIn? table details with
  | some (refusal, reason) =>
      return .refused refusal (.joinForReason reason) details cause
  | none =>
      return .refused .join (.joinWithStatus status) details cause

/-- Refused joins are told apart by the table of refusals of a join. -/
theorem joinFaultIn_joinRefusals : joinFaultIn joinRefusals = joinFault :=
  rfl

theorem beginnings_apart :
    ∀ entry ∈ joinRefusals, ∀ other ∈ joinRefusals,
      entry.1.startsWith other.1 = true → entry = other := by
  decide

/-- No text begins as two of the refusals of a join do. -/
theorem joinRefusals_unique
    {reason : Text}
    {entry other : Text × Refusal}
    (listed : entry ∈ joinRefusals)
    (otherListed : other ∈ joinRefusals)
    (begins : reason.startsWith entry.1 = true)
    (otherBegins : reason.startsWith other.1 = true) :
    entry = other := by
  have front := List.isPrefixOf_iff_prefix.mp begins
  have otherFront := List.isPrefixOf_iff_prefix.mp otherBegins
  -- Of two beginnings of one text the shorter one begins the longer one.
  rcases List.prefix_or_prefix_of_prefix front otherFront with within | within
  · exact (beginnings_apart other otherListed entry listed
      (List.isPrefixOf_iff_prefix.mpr within)).symm
  · exact beginnings_apart entry listed other otherListed
      (List.isPrefixOf_iff_prefix.mpr within)

theorem refusalIn?_of_perm
    {table : List (Text × Refusal)}
    (reordered : table.Perm joinRefusals) :
    refusalIn? table = joinRefusal? := by
  funext reason
  rw [refusalIn?, joinRefusal?, List.find?_eq_find?_of_perm reordered.symm]
  rintro entry ⟨listed, begins⟩ other ⟨otherListed, otherBegins⟩
  exact joinRefusals_unique listed otherListed begins otherBegins

/-- Any order of the table tells refused joins apart in one way. -/
theorem joinFaultIn_of_perm
    {table : List (Text × Refusal)}
    (reordered : table.Perm joinRefusals) :
    joinFaultIn table = joinFault := by
  rw [← joinFaultIn_joinRefusals]
  funext status body cause
  simp only [joinFaultIn, bodyRefusalIn?, statedRefusalIn?, refusalIn?_of_perm reordered]
  rfl

/-- A reason that begins as an entry of the table does stands for that entry's refusal. -/
theorem joinRefusal?_of_startsWith
    {reason : Text}
    {entry : Text × Refusal}
    (listed : entry ∈ joinRefusals)
    (begins : reason.startsWith entry.1 = true) :
    joinRefusal? reason = some entry.2 := by
  cases found : joinRefusals.find? fun known => reason.startsWith known.1 with
  | none =>
      exact (List.find?_eq_none.mp found entry listed begins).elim
  | some other =>
      have otherBegins := List.find?_some found
      have same :=
        joinRefusals_unique listed (List.mem_of_find?_eq_some found) begins otherBegins
      rw [joinRefusal?, found, same]
      rfl

end Endpoint

/-! ## The short name before the explanation -/

/-- A field is a text that begins as an entry of the table does. -/
def Value.BeginsAs (field : Value) (entry : Text × Refusal) : Prop :=
  ∃ reason, field = .text reason ∧ reason.startsWith entry.1 = true

/--
What the two fields of a body say about a refused join is what it is reported as: the short
name goes before the explanation, and without either it is a refused join of that status.
-/
structure RefusalDetails.Decides
    (details : RefusalDetails)
    (status : Value)
    (cause : Option Fault)
    (told : Except Fault Fault) : Prop where
  byError :
    ∀ entry ∈ Endpoint.joinRefusals,
    ∀ reason,
      details.error = .text reason →
      reason.startsWith entry.1 = true →
      told = .ok (.refused entry.2 (.joinForReason reason) details cause)
  byMessage :
    (∀ entry ∈ Endpoint.joinRefusals, ¬ details.error.BeginsAs entry) →
    ∀ entry ∈ Endpoint.joinRefusals,
    ∀ reason,
      details.errorMessage = .text reason →
      reason.startsWith entry.1 = true →
      told = .ok (.refused entry.2 (.joinForReason reason) details cause)
  byNeither :
    (∀ entry ∈ Endpoint.joinRefusals, ¬ details.error.BeginsAs entry) →
    (∀ entry ∈ Endpoint.joinRefusals, ¬ details.errorMessage.BeginsAs entry) →
    told = .ok (.refused .join (.joinWithStatus status) details cause)

namespace Endpoint

section Fields

variable {field : Value}

theorem statedRefusal?_of_startsWith
    {entry : Text × Refusal}
    {reason : Text}
    (listed : entry ∈ joinRefusals)
    (isText : field = .text reason)
    (begins : reason.startsWith entry.1 = true) :
    statedRefusal? field = .ok (some (entry.2, reason)) :=
  statedRefusal?_eq_some_iff.mpr ⟨isText, joinRefusal?_of_startsWith listed begins⟩

/-- A field that may be a reason, and begins as no refusal does, says nothing. -/
theorem statedRefusal?_of_not_beginsAs
    (mayBe : field.MayBeReason)
    (beginsNone : ∀ entry ∈ joinRefusals, ¬ field.BeginsAs entry) :
    statedRefusal? field = .ok none := by
  cases stated : statedRefusal? field with
  | error fault =>
      exact ((statedRefusal?_eq_error_iff.mp stated).1 mayBe).elim
  | ok found =>
      cases found with
      | none =>
          rfl
      | some known =>
          obtain ⟨isText, isKnown⟩ := statedRefusal?_eq_some_iff.mp stated
          obtain ⟨entry, listed, begins⟩ :=
            joinRefusal?_isSome_iff.mp (Option.isSome_of_eq_some isKnown)
          exact (beginsNone entry listed ⟨known.2, isText, begins⟩).elim

end Fields

/-- The fault of a refused join is decided by what its body says. -/
theorem decides_joinFault
    {body : Value}
    (followable : ¬ body.NestsTooDeep)
    (error : (RefusalDetails.statedBy body).error.MayBeReason)
    (message : (RefusalDetails.statedBy body).errorMessage.MayBeReason)
    (status : Value)
    (cause : Option Fault) :
    (RefusalDetails.statedBy body).Decides status cause (joinFault status body cause) where
  byError := by
    intro entry listed reason isText begins
    rw [joinFault_eq followable, bodyRefusal?, statedRefusal?_of_startsWith listed isText begins]
    rfl
  byMessage := by
    intro beginsNone entry listed reason isText begins
    rw [joinFault_eq followable, bodyRefusal?,
      statedRefusal?_of_not_beginsAs error beginsNone, ok_bind,
      statedRefusal?_of_startsWith listed isText begins]
    rfl
  byNeither := by
    intro beginsNone explainsNone
    rw [joinFault_eq followable, bodyRefusal?,
      statedRefusal?_of_not_beginsAs error beginsNone, ok_bind,
      statedRefusal?_of_not_beginsAs message explainsNone]
    rfl

end Endpoint

/-- A body that holds an object says what two of its members are, null if they are missing. -/
theorem RefusalDetails.statedBy_of_mapping
    {body : Value}
    {entries : List (Value × Value)}
    (read : Json.readBody body = .ok (.mapping entries)) :
    statedBy body = ofMembers entries := by
  rw [statedBy, read]
  rfl

theorem RefusalDetails.statedBy_of_not_mapping
    {body : Value}
    (notObject : ∀ entries, Json.readBody body ≠ .ok (.mapping entries)) :
    statedBy body = none := by
  unfold statedBy
  split
  · next entries read =>
      exact (notObject entries read).elim
  · rfl

namespace Endpoint

/--
The fault of a refused join is decided by the short name that its body gives, or else by
the explanation.  No text begins in two of the listed ways, so every order of the table
leads to the same fault.  A body that holds no object says nothing, except that there is no
fault for one that is nested too deep: it begins more lists and objects than can be followed,
and telling the refusal apart fails.
-/
theorem joinFault_by_priority
    {body : Value}
    (error : (RefusalDetails.statedBy body).error.MayBeReason)
    (message : (RefusalDetails.statedBy body).errorMessage.MayBeReason)
    (status : Value)
    (cause : Option Fault) :
    (¬ body.NestsTooDeep →
      (RefusalDetails.statedBy body).Decides status cause (joinFault status body cause)) ∧
      (body.NestsTooDeep →
        body.OpensTooMany ∧ joinFault status body cause = .error .tooDeep) ∧
      (∀ reason : Text, ∀ entry ∈ joinRefusals, ∀ other ∈ joinRefusals,
        reason.startsWith entry.1 = true → reason.startsWith other.1 = true → entry = other) ∧
      (∀ table,
        table.Perm joinRefusals →
        joinFaultIn table status body cause = joinFault status body cause) ∧
      (∀ entries,
        Json.readBody body = .ok (.mapping entries) →
        RefusalDetails.statedBy body = {
          error := (Value.member? entries "error").getD .null
          errorMessage := (Value.member? entries "errorMessage").getD .null
        }) ∧
      ((∀ entries, Json.readBody body ≠ .ok (.mapping entries)) →
        RefusalDetails.statedBy body = RefusalDetails.none) := by
  refine ⟨fun followable => decides_joinFault followable error message status cause,
    fun tooDeep => ⟨tooDeep.opensTooMany, joinFault_of_nestsTooDeep tooDeep status cause⟩,
    fun _ _ listed _ otherListed => joinRefusals_unique listed otherListed,
    fun table reordered => ?_, fun entries => RefusalDetails.statedBy_of_mapping,
    RefusalDetails.statedBy_of_not_mapping⟩
  rw [joinFaultIn_of_perm reordered]

/-- A body whose short name and explanation begin as two different refusals do. -/
def doubtfulRefusal : Value :=
  .bytes ((
    ("\x7b\"errorMessage\": \"ForbiddenOperationException\", " : Text) ++
      ("\"error\": \"Invalid serverId!\"\x7d" : Text)).flatMap CodePoint.utf8)

/-- The short name decides, also by the table read from its end. -/
theorem joinFault_by_priority_doubtful :
    (RefusalDetails.statedBy doubtfulRefusal).error.MayBeReason ∧
      (RefusalDetails.statedBy doubtfulRefusal).errorMessage.MayBeReason ∧
      joinFaultIn joinRefusals.reverse (.int 403) doubtfulRefusal none =
        .ok (.refused .serverId (.joinForReason "Invalid serverId!")
          (RefusalDetails.statedBy doubtfulRefusal) none) := by
  have error : (RefusalDetails.statedBy doubtfulRefusal).error.MayBeReason := by
    decide +kernel
  have message : (RefusalDetails.statedBy doubtfulRefusal).errorMessage.MayBeReason := by
    decide +kernel
  have isText : (RefusalDetails.statedBy doubtfulRefusal).error = .text "Invalid serverId!" :=
    Value.same_text_iff.mp (by decide +kernel)
  obtain ⟨decides, _, _, anyOrder, _⟩ := joinFault_by_priority error message (.int 403) none
  have followable : ¬ doubtfulRefusal.NestsTooDeep := by
    intro tooDeep
    rw [RefusalDetails.statedBy_of_nestsTooDeep tooDeep] at isText
    cases isText
  refine ⟨error, message, ?_⟩
  rw [anyOrder _ (List.reverse_perm _)]
  exact (decides followable).byError ("Invalid serverId", .serverId) (by decide) _ isText
    (by decide)

/-- A body of nothing but brackets holds no object, and yet there is no fault for it. -/
theorem joinFault_of_brackets :
    (∀ entries, Json.readBody (Value.brackets 100000) ≠ .ok (.mapping entries)) ∧
      joinFault (.int 403) (Value.brackets 100000) none = .error .tooDeep := by
  have tooDeep : (Value.brackets 100000).NestsTooDeep :=
    Value.nestsTooDeep_brackets (by decide)
  refine ⟨?_, joinFault_of_nestsTooDeep tooDeep (.int 403) none⟩
  intro entries read
  cases read.symm.trans tooDeep

end Endpoint

end SessionHandshake
