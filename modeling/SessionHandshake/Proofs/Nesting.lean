import SessionHandshake.Proofs.Json
import SessionHandshake.Proofs.Utf8

namespace SessionHandshake

/-!
# How deep a document may be nested

A text that is not read is no document, or it is nested too deep.  The latter is never
said of a text that begins no more lists and objects than there are levels: a reader
leaves part of the text it was given, so each level is taken for a mark of its own.  It is
always said of brackets alone if there are more of them than levels.
-/

namespace Json

/-- A mark with which a list or an object begins. -/
def isOpening (point : CodePoint) : Bool :=
  point = CodePoint.ofChar '[' || point = CodePoint.ofChar '\x7b'

/-- How many lists and objects a text can begin. -/
def openings (text : Text) : Nat :=
  text.countP isOpening

/-! ## What a reader leaves -/

theorem skipBlanks_sublist (text : Text) : (skipBlanks text).Sublist text :=
  List.dropWhile_sublist isBlank

theorem readUnit_sublist
    {text rest : Text}
    {unit : Nat}
    (read : readUnit text = some (unit, rest)) :
    rest.Sublist text := by
  unfold readUnit at read
  split at read
  · next first second third fourth _ =>
      split at read
      · cases read
        exact List.sublist_append_right [first, second, third, fourth] rest
      · cases read
  · cases read

theorem readLowSurrogate?_sublist
    {text rest : Text}
    {unit : Nat}
    (read : readLowSurrogate? text = some (unit, rest)) :
    rest.Sublist text := by
  unfold readLowSurrogate? at read
  split at read
  · next backslash letter behind =>
      split at read
      · split at read
        · next found =>
            split at read
            · cases read
              exact (readUnit_sublist found).trans
                (List.sublist_append_right [backslash, letter] behind)
            · cases read
        · cases read
      · cases read
  · cases read

theorem readEscape_sublist
    {text rest : Text}
    {point : CodePoint}
    (read : readEscape text = some (point, rest)) :
    rest.Sublist text := by
  unfold readEscape at read
  split at read
  · cases read
  · next letter behind =>
      split at read
      · split at read
        · cases read
        · next unit left found =>
            have fromUnit := (readUnit_sublist found).trans (List.sublist_cons_self letter behind)
            split at read
            · split at read
              · next low =>
                  obtain ⟨_, rfl⟩ := Prod.mk.inj (Option.some.inj read)
                  exact (readLowSurrogate?_sublist low).trans fromUnit
              · obtain ⟨_, rfl⟩ := Prod.mk.inj (Option.some.inj read)
                exact fromUnit
            · obtain ⟨_, rfl⟩ := Prod.mk.inj (Option.some.inj read)
              exact fromUnit
      · obtain ⟨escaped, _, same⟩ := Option.map_eq_some_iff.mp read
        obtain ⟨_, rfl⟩ := Prod.mk.inj same
        exact List.sublist_cons_self letter behind

theorem readQuoted_sublist
    {fuel : Nat}
    {text rest content : Text}
    (read : readQuoted fuel text = some (content, rest)) :
    rest.Sublist text := by
  induction fuel generalizing text content with
  | zero =>
      cases read
  | succ fuel inductionHypothesis =>
      cases text with
      | nil =>
          cases read
      | cons point behind =>
          have fromBehind {left : Text} (within : left.Sublist behind) :
              left.Sublist (point :: behind) :=
            within.trans (List.sublist_cons_self point behind)
          unfold readQuoted at read
          split at read
          · cases read
            exact List.sublist_cons_self point rest
          · split at read
            · split at read
              · cases read
              · next escaped =>
                  obtain ⟨⟨more, left⟩, found, same⟩ := Option.map_eq_some_iff.mp read
                  cases same
                  exact fromBehind ((inductionHypothesis found).trans (readEscape_sublist escaped))
            · split at read
              · cases read
              · obtain ⟨⟨more, left⟩, found, same⟩ := Option.map_eq_some_iff.mp read
                cases same
                exact fromBehind (inductionHypothesis found)

theorem readDigits_sublist (text : Text) : (readDigits text).2.Sublist text :=
  List.dropWhile_sublist CodePoint.isDigit

theorem readWhole?_sublist
    {text rest whole : Text}
    (read : readWhole? text = some (whole, rest)) :
    rest.Sublist text := by
  unfold readWhole? at read
  split at read
  · cases read
  · next first behind =>
      split at read
      · cases read
        exact List.sublist_cons_self first rest
      · split at read
        · cases read
          exact readDigits_sublist (first :: behind)
        · cases read

theorem readFraction?_sublist
    {text rest places : Text}
    (read : readFraction? text = some (places, rest)) :
    rest.Sublist text := by
  unfold readFraction? at read
  split at read
  · next point behind =>
      simp only at read
      split at read
      · cases read
        exact (readDigits_sublist behind).trans (List.sublist_cons_self point behind)
      · cases read
  · cases read

theorem readSign_sublist (text : Text) : (readSign text).2.Sublist text := by
  unfold readSign
  split
  · next sign behind =>
      split
      · exact List.sublist_cons_self sign behind
      · split
        · exact List.sublist_cons_self sign behind
        · exact List.Sublist.refl _
  · exact List.Sublist.refl _

theorem readExponent?_sublist
    {text rest : Text}
    {power : Int}
    (read : readExponent? text = some (power, rest)) :
    rest.Sublist text := by
  unfold readExponent? at read
  split at read
  · next letter behind =>
      simp only at read
      split at read
      · cases read
        exact ((readDigits_sublist _).trans (readSign_sublist behind)).trans
          (List.sublist_cons_self letter behind)
      · cases read
  · cases read

theorem readUnsigned_sublist
    {isNegative : Bool}
    {text rest : Text}
    {value : Value}
    (read : readUnsigned isNegative text = some (value, rest)) :
    rest.Sublist text := by
  unfold readUnsigned at read
  split at read
  · cases read
  · next whole left found =>
      have fromWhole := readWhole?_sublist found
      have fromFraction : ((readFraction? left).getD ([], left)).2.Sublist left := by
        cases fraction : readFraction? left with
        | none =>
            exact List.Sublist.refl left
        | some places =>
            exact readFraction?_sublist fraction
      have fromExponent (behind : Text) :
          ((readExponent? behind).getD (0, behind)).2.Sublist behind := by
        cases exponent : readExponent? behind with
        | none =>
            exact List.Sublist.refl behind
        | some power =>
            exact readExponent?_sublist exponent
      simp only at read
      split at read
      · cases read
        exact ((fromExponent _).trans fromFraction).trans fromWhole
      · split at read
        · cases read
        · cases read
          exact ((fromExponent _).trans fromFraction).trans fromWhole

theorem readWord?_sublist
    {text rest : Text}
    {value : Value}
    (read : readWord? text = some (value, rest)) :
    rest.Sublist text := by
  obtain ⟨⟨word, meant⟩, _, dropped⟩ := List.exists_of_findSome?_eq_some read
  obtain ⟨left, isLeft, same⟩ := Option.map_eq_some_iff.mp dropped
  cases same
  unfold Text.dropPrefix? at isLeft
  split at isLeft
  · cases isLeft
    exact List.drop_sublist word.length text
  · cases isLeft

theorem readAtom_sublist
    {text rest : Text}
    {value : Value}
    (read : readAtom text = some (value, rest)) :
    rest.Sublist text := by
  unfold readAtom at read
  split at read
  · next found =>
      cases read
      exact readWord?_sublist found
  · split at read
    · cases read
    · split at read
      · exact (readUnsigned_sublist read).trans (List.sublist_cons_self _ _)
      · exact readUnsigned_sublist read

/-- Behind a value, its items or its members a part of the text is left. -/
structure ReadersLeave (fuel : Nat) : Prop where
  value :
    ∀ levels text value rest,
      readValue fuel levels text = .ok (value, rest) → rest.Sublist text
  items :
    ∀ levels text items rest,
      readItems fuel levels text = .ok (items, rest) → rest.Sublist text
  members :
    ∀ levels text entries rest,
      readMembers fuel levels text = .ok (entries, rest) → rest.Sublist text

theorem ReadersLeave.readValue
    {fuel levels : Nat}
    (inside : ReadersLeave fuel)
    {text rest : Text}
    {value : Value}
    (read : readValue (fuel + 1) levels text = .ok (value, rest)) :
    rest.Sublist text := by
  cases text with
  | nil =>
      cases read
  | cons point behind =>
      have fromBehind {left : Text} (within : left.Sublist behind) :
          left.Sublist (point :: behind) :=
        within.trans (List.sublist_cons_self point behind)
      have fromInside {left : Text} (within : left.Sublist (skipBlanks behind)) :
          left.Sublist (point :: behind) :=
        fromBehind (within.trans (skipBlanks_sublist behind))
      unfold Json.readValue at read
      split at read
      · obtain ⟨⟨content, left⟩, quoted, same⟩ := map_eq_ok_iff.mp read
        cases same
        exact fromBehind (readQuoted_sublist (orMalformed_eq_ok quoted))
      · split at read
        · simp only at read
          split at read
          · cases read
          · split at read
            · cases read
              exact fromInside (List.drop_sublist 1 _)
            · obtain ⟨⟨items, left⟩, itemsRead, same⟩ := map_eq_ok_iff.mp read
              cases same
              exact fromInside (inside.items _ _ _ _ itemsRead)
        · split at read
          · simp only at read
            split at read
            · cases read
            · split at read
              · cases read
                exact fromInside (List.drop_sublist 1 _)
              · obtain ⟨⟨entries, left⟩, membersRead, same⟩ := map_eq_ok_iff.mp read
                cases same
                exact fromInside (inside.members _ _ _ _ membersRead)
          · exact readAtom_sublist (orMalformed_eq_ok read)

/-- What stands behind the first token of a text is part of the text. -/
theorem sublist_of_skipBlanks_eq_cons
    {text rest : Text}
    {point : CodePoint}
    (begins : skipBlanks text = point :: rest) :
    rest.Sublist text :=
  (List.sublist_cons_self point rest).trans (begins ▸ skipBlanks_sublist text)

theorem ReadersLeave.readItems
    {fuel levels : Nat}
    (inside : ReadersLeave fuel)
    {text rest : Text}
    {items : List Value}
    (read : readItems (fuel + 1) levels text = .ok (items, rest)) :
    rest.Sublist text := by
  unfold Json.readItems at read
  split at read
  · cases read
  · next first left firstRead =>
      have fromLeft := inside.value _ _ _ _ firstRead
      split at read
      · cases read
      · next mark behind begins =>
          have fromMark := (sublist_of_skipBlanks_eq_cons begins).trans fromLeft
          split at read
          · cases read
            exact fromMark
          · split at read
            · obtain ⟨⟨more, left⟩, moreRead, same⟩ := map_eq_ok_iff.mp read
              cases same
              exact ((inside.items _ _ _ _ moreRead).trans (skipBlanks_sublist _)).trans fromMark
            · cases read

theorem ReadersLeave.readMembers
    {fuel levels : Nat}
    (inside : ReadersLeave fuel)
    {text rest : Text}
    {entries : List (Value × Value)}
    (read : readMembers (fuel + 1) levels text = .ok (entries, rest)) :
    rest.Sublist text := by
  cases text with
  | nil =>
      cases read
  | cons quote behind =>
      unfold Json.readMembers at read
      split at read
      · cases read
      · split at read
        · cases read
        · next name left named =>
            have fromName :=
              (readQuoted_sublist named).trans (List.sublist_cons_self quote behind)
            split at read
            · cases read
            · next colon right begins =>
                have fromColon := (sublist_of_skipBlanks_eq_cons begins).trans fromName
                split at read
                · cases read
                · split at read
                  · cases read
                  · next value left valueRead =>
                      have fromValue :=
                        ((inside.value _ _ _ _ valueRead).trans (skipBlanks_sublist _)).trans
                          fromColon
                      split at read
                      · cases read
                      · next mark right begins =>
                          have fromMark := (sublist_of_skipBlanks_eq_cons begins).trans fromValue
                          split at read
                          · cases read
                            exact fromMark
                          · split at read
                            · obtain ⟨⟨more, left⟩, moreRead, same⟩ := map_eq_ok_iff.mp read
                              cases same
                              exact ((inside.members _ _ _ _ moreRead).trans
                                (skipBlanks_sublist _)).trans fromMark
                            · cases read

theorem readersLeave (fuel : Nat) : ReadersLeave fuel := by
  induction fuel with
  | zero =>
      constructor <;> intro levels text result rest read <;> cases read
  | succ fuel inductionHypothesis =>
      exact {
        value := fun _ _ _ _ read => inductionHypothesis.readValue read
        items := fun _ _ _ _ read => inductionHypothesis.readItems read
        members := fun _ _ _ _ read => inductionHypothesis.readMembers read }

/-! ## Why a text is not read -/

/-- A text is no document, or has more openings than there are levels and is nested too deep. -/
def FailsFor (levels : Nat) (text : Text) (fault : Fault) : Prop :=
  fault = malformed ∨ fault = .tooDeep ∧ levels < openings text

namespace FailsFor

variable {levels : Nat} {part text : Text} {fault : Fault}

theorem of_sublist (fails : FailsFor levels part fault) (isPart : part.Sublist text) :
    FailsFor levels text fault := by
  rcases fails with isMalformed | ⟨isTooDeep, more⟩
  · exact .inl isMalformed
  · exact .inr ⟨isTooDeep, Nat.lt_of_lt_of_le more isPart.countP_le⟩

/-- The mark with which a list or an object begins takes a level. -/
theorem of_inside
    {point : CodePoint}
    (opens : isOpening point = true)
    (someLevels : levels ≠ 0)
    (fails : FailsFor (levels - 1) part fault)
    (isPart : part.Sublist text) :
    FailsFor levels (point :: text) fault := by
  rcases fails.of_sublist isPart with isMalformed | ⟨isTooDeep, more⟩
  · exact .inl isMalformed
  · refine .inr ⟨isTooDeep, ?_⟩
    have grown : openings (point :: text) = openings text + 1 := List.countP_cons_of_pos opens
    rw [grown]
    exact (Nat.sub_lt_iff_lt_add (Nat.pos_of_ne_zero someLevels)).mp more

/-- Where there are no levels left, any opening is one too many. -/
theorem of_no_levels
    {point : CodePoint}
    (opens : isOpening point = true)
    (noLevels : levels = 0)
    (text : Text) :
    FailsFor levels (point :: text) .tooDeep := by
  refine .inr ⟨rfl, ?_⟩
  have grown : openings (point :: text) = openings text + 1 := List.countP_cons_of_pos opens
  omega

end FailsFor

/-- The readers of values, items and members fail in no other way. -/
structure ReadersFail (fuel : Nat) : Prop where
  value :
    ∀ levels text fault, readValue fuel levels text = .error fault → FailsFor levels text fault
  items :
    ∀ levels text fault, readItems fuel levels text = .error fault → FailsFor levels text fault
  members :
    ∀ levels text fault, readMembers fuel levels text = .error fault → FailsFor levels text fault

theorem orMalformed_eq_error {Result : Type} {found : Read Result} {fault : Fault}
    (failed : orMalformed found = .error fault) :
    fault = malformed := by
  cases found with
  | none =>
      cases failed
      rfl
  | some other =>
      cases failed

theorem ReadersFail.readValue
    {fuel levels : Nat}
    (inside : ReadersFail fuel)
    {text : Text}
    {fault : Fault}
    (failed : readValue (fuel + 1) levels text = .error fault) :
    FailsFor levels text fault := by
  cases text with
  | nil =>
      cases failed
      exact .inl rfl
  | cons point behind =>
      have within := skipBlanks_sublist behind
      unfold Json.readValue at failed
      split at failed
      · exact .inl (orMalformed_eq_error (map_eq_error_iff.mp failed))
      · split at failed
        · next isBracket =>
            have opens : isOpening point = true := by rw [isBracket]; decide
            simp only at failed
            split at failed
            · next noLevels =>
                cases failed
                exact .of_no_levels opens noLevels behind
            · next someLevels =>
                split at failed
                · cases failed
                · exact .of_inside opens someLevels
                    (inside.items _ _ _ (map_eq_error_iff.mp failed)) within
        · split at failed
          · next isBrace =>
              have opens : isOpening point = true := by rw [isBrace]; decide
              simp only at failed
              split at failed
              · next noLevels =>
                  cases failed
                  exact .of_no_levels opens noLevels behind
              · next someLevels =>
                  split at failed
                  · cases failed
                  · exact .of_inside opens someLevels
                      (inside.members _ _ _ (map_eq_error_iff.mp failed)) within
          · exact .inl (orMalformed_eq_error failed)

theorem ReadersFail.readItems
    {fuel levels : Nat}
    (inside : ReadersFail fuel)
    {text : Text}
    {fault : Fault}
    (failed : readItems (fuel + 1) levels text = .error fault) :
    FailsFor levels text fault := by
  unfold Json.readItems at failed
  split at failed
  · next firstFailed =>
      cases failed
      exact inside.value _ _ _ firstFailed
  · next first left firstRead =>
      have fromLeft := (readersLeave fuel).value _ _ _ _ firstRead
      split at failed
      · cases failed
        exact .inl rfl
      · next mark behind begins =>
          split at failed
          · cases failed
          · split at failed
            · exact (inside.items _ _ _ (map_eq_error_iff.mp failed)).of_sublist
                (((skipBlanks_sublist behind).trans (sublist_of_skipBlanks_eq_cons begins)).trans
                  fromLeft)
            · cases failed
              exact .inl rfl

theorem ReadersFail.readMembers
    {fuel levels : Nat}
    (inside : ReadersFail fuel)
    {text : Text}
    {fault : Fault}
    (failed : readMembers (fuel + 1) levels text = .error fault) :
    FailsFor levels text fault := by
  cases text with
  | nil =>
      cases failed
      exact .inl rfl
  | cons quote behind =>
      unfold Json.readMembers at failed
      split at failed
      · cases failed
        exact .inl rfl
      · split at failed
        · cases failed
          exact .inl rfl
        · next name left named =>
            have fromName :=
              (readQuoted_sublist named).trans (List.sublist_cons_self quote behind)
            split at failed
            · cases failed
              exact .inl rfl
            · next colon right begins =>
                have fromColon :=
                  ((skipBlanks_sublist right).trans (sublist_of_skipBlanks_eq_cons begins)).trans
                    fromName
                split at failed
                · cases failed
                  exact .inl rfl
                · split at failed
                  · next valueFailed =>
                      cases failed
                      exact (inside.value _ _ _ valueFailed).of_sublist fromColon
                  · next value left valueRead =>
                      have fromValue :=
                        ((readersLeave fuel).value _ _ _ _ valueRead).trans fromColon
                      split at failed
                      · cases failed
                        exact .inl rfl
                      · next mark right begins =>
                          split at failed
                          · cases failed
                          · split at failed
                            · exact (inside.members _ _ _
                                (map_eq_error_iff.mp failed)).of_sublist
                                  (((skipBlanks_sublist right).trans
                                    (sublist_of_skipBlanks_eq_cons begins)).trans fromValue)
                            · cases failed
                              exact .inl rfl

theorem readersFail (fuel : Nat) : ReadersFail fuel := by
  induction fuel with
  | zero =>
      constructor <;> intro levels text fault failed <;> cases failed <;> exact .inl rfl
  | succ fuel inductionHypothesis =>
      exact {
        value := fun _ _ _ failed => inductionHypothesis.readValue failed
        items := fun _ _ _ failed => inductionHypothesis.readItems failed
        members := fun _ _ _ failed => inductionHypothesis.readMembers failed }

/-- A text that is no document is malformed, or is nested deeper than it may be. -/
theorem failsFor_of_read {text : Text} {fault : Fault} (failed : read text = .error fault) :
    FailsFor deepestNesting text fault := by
  unfold read at failed
  split at failed
  · next valueFailed =>
      cases failed
      exact ((readersFail _).value _ _ _ valueFailed).of_sublist (skipBlanks_sublist text)
  · split at failed
    · cases failed
    · cases failed
      exact .inl rfl

theorem isBadValue_of_failsFor
    {levels : Nat}
    {text : Text}
    {fault : Fault}
    (fails : FailsFor levels text fault) :
    fault.isBadValue = true ∨ fault = .tooDeep := by
  rcases fails with rfl | ⟨isTooDeep, _⟩
  · exact .inl rfl
  · exact .inr isTooDeep

/-- Bytes that are no document are faulty as a value, unless they are nested too deep. -/
theorem readBytes_error
    {bytes : Bytes}
    {fault : Fault}
    (failed : readBytes bytes = .error fault) :
    fault.isBadValue = true ∨ fault = .tooDeep := by
  unfold readBytes at failed
  split at failed
  · cases failed
    exact .inl rfl
  · exact isBadValue_of_failsFor (failsFor_of_read failed)

/-- A body that cannot be read is at fault in its type or its content, or is nested too deep. -/
theorem readBody_error
    {body : Value}
    {fault : Fault}
    (failed : readBody body = .error fault) :
    fault.isBadValueOrType = true ∨ fault = .tooDeep := by
  have orType {other : Fault} (isBadValue : other.isBadValue = true) :
      other.isBadValueOrType = true := by
    cases other <;> cases isBadValue <;> rfl
  unfold readBody at failed
  split at failed
  · split at failed
    · cases failed
      exact .inl rfl
    · exact (isBadValue_of_failsFor (failsFor_of_read failed)).imp_left orType
  · split at failed
    · cases failed
      exact .inl rfl
    · exact (readBytes_error failed).imp_left orType

/-! ## Brackets alone -/

/-- The bracket with which a list begins. -/
def bracket : CodePoint := CodePoint.ofChar '['

/-- Each bracket takes a level before anything behind it is looked at. -/
theorem readValue_brackets (levels fuel : Nat) (rest : Text) :
    readValue (2 * levels + 1 + fuel) levels (List.replicate (levels + 1) bracket ++ rest) =
      .error .tooDeep := by
  induction levels with
  | zero =>
      rw [Nat.mul_zero, Nat.zero_add, Nat.add_comm]
      rfl
  | succ levels inductionHypothesis =>
      have steps : 2 * (levels + 1) + 1 + fuel = (2 * levels + 1 + fuel + 1) + 1 := by
        omega
      have begins :
          (List.replicate (levels + 1 + 1) bracket ++ rest : Text) =
            bracket :: (List.replicate (levels + 1) bracket ++ rest) := by
        rw [List.replicate_succ, List.cons_append]
      have skipped :
          skipBlanks (List.replicate (levels + 1) bracket ++ rest) =
            List.replicate (levels + 1) bracket ++ rest :=
        rfl
      have someItems :
          (List.replicate (levels + 1) bracket ++ rest).head? ≠ some (CodePoint.ofChar ']') := by
        rw [List.replicate_succ, List.cons_append, List.head?_cons]
        decide
      have isBracket : bracket = CodePoint.ofChar '[' := rfl
      rw [steps, begins, readValue, if_neg (by decide), if_pos isBracket]
      simp only [Nat.add_one_ne_zero, if_false, skipped, if_neg someItems, Nat.add_sub_cancel]
      rw [readItems, inductionHypothesis]
      rfl

theorem read_brackets {count : Nat} (many : deepestNesting < count) :
    read (List.replicate count bracket) = .error .tooDeep := by
  obtain ⟨more, rfl⟩ := Nat.exists_eq_add_of_lt many
  have split :
      List.replicate (deepestNesting + more + 1) bracket =
        List.replicate (deepestNesting + 1) bracket ++ List.replicate more bracket := by
    rw [List.replicate_append_replicate]
    congr 1
    omega
  have skipped :
      skipBlanks (List.replicate (deepestNesting + 1) bracket ++ List.replicate more bracket) =
        List.replicate (deepestNesting + 1) bracket ++ List.replicate more bracket :=
    rfl
  have steps :
      2 * (List.replicate (deepestNesting + 1) bracket ++
          List.replicate more bracket).length + 1 =
        2 * deepestNesting + 1 + (2 * more + 2) := by
    rw [List.length_append, List.length_replicate, List.length_replicate]
    omega
  rw [split, read, skipped, steps, readValue_brackets]

end Json

/-! ## Bodies -/

namespace Value

/-- The text that a body holds, if it is text or bytes in some encoding. -/
def bodyText? (body : Value) : Option Text :=
  match body with
  | .text content =>
      some content
  | other =>
      other.toBytes?.bind fun bytes => Text.ofEncoded? (Encoding.detect bytes) bytes

/-- A body is nested deeper than a reader can follow. -/
def NestsTooDeep (body : Value) : Prop :=
  Json.readBody body = .error .tooDeep

/-- A body begins more lists and objects than may be within one another. -/
def OpensTooMany (body : Value) : Prop :=
  ∃ text, body.bodyText? = some text ∧ Json.deepestNesting < Json.openings text

/-- Bytes that are no document are faulty as a value, if they can be followed. -/
theorem isBadValue_of_followable
    {bytes : Bytes}
    {fault : Fault}
    (followable : ¬ (Value.bytes bytes).NestsTooDeep)
    (failed : Json.readBytes bytes = .error fault) :
    fault.isBadValue = true :=
  (Json.readBytes_error failed).resolve_right fun isTooDeep =>
    followable (failed.trans (congrArg Except.error isTooDeep))

/-- A body that cannot be read is at fault in its type or its content, if it can be followed. -/
theorem isBadValueOrType_of_followable
    {body : Value}
    {fault : Fault}
    (followable : ¬ body.NestsTooDeep)
    (failed : Json.readBody body = .error fault) :
    fault.isBadValueOrType = true :=
  (Json.readBody_error failed).resolve_right fun isTooDeep =>
    followable (failed.trans (congrArg Except.error isTooDeep))

/-- Only what begins too many lists and objects is nested too deep. -/
theorem NestsTooDeep.opensTooMany {body : Value} (tooDeep : body.NestsTooDeep) :
    body.OpensTooMany := by
  have opens {text : Text} (failed : Json.read text = .error .tooDeep) :
      Json.deepestNesting < Json.openings text := by
    rcases Json.failsFor_of_read failed with isMalformed | ⟨_, more⟩
    · cases isMalformed
    · exact more
  have fromBytes
      {bytes : Bytes}
      (isBytes : body.bodyText? = Text.ofEncoded? (Encoding.detect bytes) bytes)
      (failed : Json.readBytes bytes = .error .tooDeep) :
      body.OpensTooMany := by
    unfold Json.readBytes at failed
    split at failed
    · cases failed
    · next text decoded =>
        exact ⟨text, isBytes.trans decoded, opens failed⟩
  unfold NestsTooDeep Json.readBody at tooDeep
  split at tooDeep
  · next content =>
      split at tooDeep
      · cases tooDeep
      · exact ⟨content, rfl, opens tooDeep⟩
  · next other notText =>
      split at tooDeep
      · cases tooDeep
      · next bytes isBytes =>
          refine fromBytes ?_ tooDeep
          unfold bodyText?
          split
          · next content =>
              exact (notText content rfl).elim
          · rw [isBytes]
            rfl

/-- A body of opening brackets alone. -/
def brackets (count : Nat) : Value :=
  .bytes (List.replicate count 0x5b)

/-- More brackets than levels are nested too deep. -/
theorem nestsTooDeep_brackets {count : Nat} (many : Json.deepestNesting < count) :
    (brackets count).NestsTooDeep := by
  have isPlain : Text.IsPlain (List.replicate count Json.bracket) := by
    intro point member
    rw [List.eq_of_mem_replicate member]
    decide
  have encoded :
      (List.replicate count 0x5b : Bytes) =
        (List.replicate count Json.bracket).flatMap CodePoint.utf8 := by
    rw [isPlain.flatMap_utf8, List.map_replicate]
    rfl
  change Json.readBytes (List.replicate count 0x5b) = .error .tooDeep
  rw [encoded, Json.readBytes, isPlain.ofEncoded?]
  exact Json.read_brackets many

end Value

end SessionHandshake
