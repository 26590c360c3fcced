import Mathlib.Data.List.Induction
import SessionHandshake.Json.Reader
import SessionHandshake.Proofs.Outcome
import SessionHandshake.Proofs.Value

namespace SessionHandshake

/-!
# What JSON can hold

A whole number in a document has at most as many digits as can be written again,
so every value that is read can be shown.
-/

namespace Text

/-- A numeral of decimal digits is less than the power of ten of its length. -/
theorem decimalValue_lt {digits : Text} (areDigits : ∀ digit ∈ digits, digit.isDigit) :
    decimalValue digits < Nat.pow 10 digits.length := by
  induction digits using List.reverseRecOn with
  | nil =>
      decide
  | append_singleton leading last inductionHypothesis =>
      have bound :=
        inductionHypothesis fun digit member => areDigits digit (List.mem_append_left [last] member)
      have isDigit := areDigits last (by simp)
      simp only [CodePoint.isDigit, CodePoint.isBetween, Bool.and_eq_true,
        decide_eq_true_eq] at isDigit
      have atMostNine : last.value - 0x30 ≤ 9 := by
        have upper : last.value ≤ 0x39 := isDigit.2
        omega
      have grown :
          decimalValue (leading ++ [last]) = 10 * decimalValue leading + (last.value - 0x30) := by
        simp only [decimalValue, List.foldl_append, List.foldl_cons, List.foldl_nil]
      have power : Nat.pow 10 (leading ++ [last]).length = 10 * Nat.pow 10 leading.length := by
        rw [List.length_append]
        exact (Nat.pow_succ 10 leading.length).trans (Nat.mul_comm _ _)
      rw [grown, power]
      omega

/-- A numeral of at most so many decimal digits is less than that power of ten. -/
theorem decimalValue_lt_of_length_le
    {digits : Text}
    {most : Nat}
    (areDigits : ∀ digit ∈ digits, digit.isDigit)
    (notLonger : digits.length ≤ most) :
    decimalValue digits < Nat.pow 10 most :=
  Nat.lt_of_lt_of_le (decimalValue_lt areDigits)
    (Nat.pow_le_pow_right (by decide) notLonger)

end Text

namespace Json

theorem readWhole?_isDigit
    {text whole rest : Text}
    (read : readWhole? text = some (whole, rest)) :
    ∀ digit ∈ whole, digit.isDigit := by
  cases text with
  | nil =>
      cases read
  | cons first others =>
      simp only [readWhole?] at read
      split at read
      · next isZero =>
          cases read
          intro digit member
          rw [List.mem_singleton.mp member, isZero]
          decide
      · split at read
        · cases read
          intro digit member
          exact List.all_eq_true.mp List.all_takeWhile digit member
        · cases read

/-- A whole number that is read has no more digits than can be written. -/
theorem readUnsigned_isShowable
    {isNegative : Bool}
    {text rest : Text}
    {value : Value}
    (read : readUnsigned isNegative text = some (value, rest)) :
    value.IsShowable := by
  unfold readUnsigned at read
  split at read
  · cases read
  · next whole others found =>
      simp only at read
      split at read
      · cases read
        intro part member
        rw [List.mem_singleton.mp member]
        rfl
      · split at read
        · cases read
        · next notTooLong =>
            cases read
            intro part member
            rw [List.mem_singleton.mp member]
            have short :
                ¬ Nat.pow 10 Numeral.maximalDigits ≤ Text.decimalValue whole :=
              Nat.not_le.mpr
                (Text.decimalValue_lt_of_length_le (readWhole?_isDigit found)
                  (Nat.not_lt.mp notTooLong))
            cases isNegative with
            | true =>
                simp only [Value.isTooLong, if_true, Int.natAbs_neg, Int.natAbs_natCast, short,
                  decide_false]
            | false =>
                simp only [Value.isTooLong, Bool.false_eq_true, if_false, Int.natAbs_natCast,
                  short, decide_false]

theorem readWord?_isShowable
    {text rest : Text}
    {value : Value}
    (read : readWord? text = some (value, rest)) :
    value.IsShowable := by
  obtain ⟨⟨word, meant⟩, isWord, dropped⟩ := List.exists_of_findSome?_eq_some read
  simp only [Option.map_eq_some_iff, Prod.mk.injEq] at dropped
  obtain ⟨_, _, rfl, _⟩ := dropped
  have wordsShowable : ∀ entry ∈ words, ∀ part ∈ entry.2.parts, part.isTooLong = false := by
    decide
  exact wordsShowable (word, meant) isWord

theorem readAtom_isShowable
    {text rest : Text}
    {value : Value}
    (read : readAtom text = some (value, rest)) :
    value.IsShowable := by
  unfold readAtom at read
  split at read
  · next found =>
      cases read
      exact readWord?_isShowable found
  · split at read
    · cases read
    · split at read
      · exact readUnsigned_isShowable read
      · exact readUnsigned_isShowable read

theorem orMalformed_eq_ok {Result : Type} {found : Read Result} {read : Result × Text}
    (isRead : orMalformed found = .ok read) :
    found = some read := by
  cases found with
  | none =>
      cases isRead
  | some other =>
      cases isRead
      rfl

/-- What the readers of values, items and members give back can be shown. -/
structure ReadersShow (fuel : Nat) : Prop where
  value :
    ∀ levels text value rest,
      readValue fuel levels text = .ok (value, rest) → value.IsShowable
  items :
    ∀ levels text items rest,
      readItems fuel levels text = .ok (items, rest) → ∀ item ∈ items, item.IsShowable
  members :
    ∀ levels text entries rest,
      readMembers fuel levels text = .ok (entries, rest) → Value.AreShowable entries

theorem ReadersShow.readValue
    {fuel levels : Nat}
    (inside : ReadersShow fuel)
    {text rest : Text}
    {value : Value}
    (read : readValue (fuel + 1) levels text = .ok (value, rest)) :
    value.IsShowable := by
  cases text with
  | nil =>
      cases read
  | cons point others =>
      unfold Json.readValue at read
      split at read
      · obtain ⟨⟨content, left⟩, _, same⟩ := map_eq_ok_iff.mp read
        cases same
        exact Value.isShowable_text content
      · split at read
        · simp only at read
          split at read
          · cases read
          · split at read
            · cases read
              exact Value.isShowable_list fun item member => nomatch member
            · obtain ⟨⟨items, left⟩, itemsRead, same⟩ := map_eq_ok_iff.mp read
              cases same
              exact Value.isShowable_list (inside.items _ _ _ _ itemsRead)
        · split at read
          · simp only at read
            split at read
            · cases read
            · split at read
              · cases read
                exact Value.isShowable_mapping.mpr fun entry member => nomatch member
              · obtain ⟨⟨entries, left⟩, membersRead, same⟩ := map_eq_ok_iff.mp read
                cases same
                exact Value.isShowable_mapping.mpr
                  (Value.AreShowable.insertAll (inside.members _ _ _ _ membersRead))
          · exact readAtom_isShowable (orMalformed_eq_ok read)

theorem ReadersShow.readItems
    {fuel levels : Nat}
    (inside : ReadersShow fuel)
    {text rest : Text}
    {items : List Value}
    (read : readItems (fuel + 1) levels text = .ok (items, rest)) :
    ∀ item ∈ items, item.IsShowable := by
  unfold Json.readItems at read
  split at read
  · cases read
  · next first left firstRead =>
      have firstShowable := inside.value _ _ _ _ firstRead
      split at read
      · cases read
      · split at read
        · cases read
          intro item member
          rw [List.mem_singleton.mp member]
          exact firstShowable
        · split at read
          · obtain ⟨⟨more, left⟩, moreRead, same⟩ := map_eq_ok_iff.mp read
            cases same
            intro item member
            rcases List.mem_cons.mp member with rfl | isMore
            · exact firstShowable
            · exact inside.items _ _ _ _ moreRead item isMore
          · cases read

theorem ReadersShow.readMembers
    {fuel levels : Nat}
    (inside : ReadersShow fuel)
    {text rest : Text}
    {entries : List (Value × Value)}
    (read : readMembers (fuel + 1) levels text = .ok (entries, rest)) :
    Value.AreShowable entries := by
  cases text with
  | nil =>
      cases read
  | cons quote others =>
      unfold Json.readMembers at read
      split at read
      · cases read
      · split at read
        · cases read
        · next name _ _ =>
            split at read
            · cases read
            · split at read
              · cases read
              · split at read
                · cases read
                · next value _ valueRead =>
                    have firstShowable :
                        (Value.text name).IsShowable ∧ value.IsShowable :=
                      ⟨Value.isShowable_text name, inside.value _ _ _ _ valueRead⟩
                    split at read
                    · cases read
                    · split at read
                      · cases read
                        intro entry member
                        rw [List.mem_singleton.mp member]
                        exact firstShowable
                      · split at read
                        · obtain ⟨⟨more, left⟩, moreRead, same⟩ := map_eq_ok_iff.mp read
                          cases same
                          intro entry member
                          rcases List.mem_cons.mp member with rfl | isMore
                          · exact firstShowable
                          · exact inside.members _ _ _ _ moreRead entry isMore
                        · cases read

theorem readersShow (fuel : Nat) : ReadersShow fuel := by
  induction fuel with
  | zero =>
      constructor <;> intro levels text result rest read <;> cases read
  | succ fuel inductionHypothesis =>
      exact {
        value := fun _ _ _ _ read => inductionHypothesis.readValue read
        items := fun _ _ _ _ read => inductionHypothesis.readItems read
        members := fun _ _ _ _ read => inductionHypothesis.readMembers read }

/-- Whatever a document holds can be shown. -/
theorem read_isShowable {text : Text} {value : Value} (isRead : read text = .ok value) :
    value.IsShowable := by
  unfold read at isRead
  split at isRead
  · cases isRead
  · next valueRead =>
      split at isRead
      · cases isRead
        exact (readersShow _).value _ _ _ _ valueRead
      · cases isRead

theorem readBytes_isShowable
    {bytes : Bytes}
    {value : Value}
    (isRead : readBytes bytes = .ok value) :
    value.IsShowable := by
  unfold readBytes at isRead
  split at isRead
  · cases isRead
  · exact read_isShowable isRead

end Json

end SessionHandshake
