import SessionHandshake.Profile.Uuid
import SessionHandshake.Proofs.Lowercase
import SessionHandshake.Proofs.Value

namespace SessionHandshake

/-!
# What is taken for an identifier

A text is taken for an identifier if thirty-two hexadecimal digits remain of it without its
hyphens.  Nothing else is: no letter beyond ASCII has one of these digits for its lower-case
form.  One line feed may stand behind the digits, and stays there.
-/

theorem Text.without_of_notMem {unwanted : CodePoint} {text : Text} (absent : unwanted ∉ text) :
    text.without unwanted = text :=
  List.filter_eq_self.mpr fun _ member =>
    decide_eq_true fun isUnwanted => absent (isUnwanted ▸ member)

namespace Uuid

/-- The digits of a normalised identifier. -/
def lowerDigits : Text := "0123456789abcdef"

/-- The digits that spell an identifier. -/
def spellingDigits : Text := "0123456789abcdefABCDEF"

/-- The hyphen, which may stand anywhere. -/
def hyphen : CodePoint := CodePoint.ofChar '-'

/-- The line feed that may stay behind the digits. -/
def lineFeed : Text := [CodePoint.ofChar '\n']

/-- A text of thirty-two code points, all of them from an alphabet. -/
structure IsWrittenIn (alphabet text : Text) : Prop where
  length : text.length = 32
  points : ∀ point ∈ text, point ∈ alphabet

theorem isWrittenIn_iff {alphabet text : Text} :
    IsWrittenIn alphabet text ↔ text.length = 32 ∧ ∀ point ∈ text, point ∈ alphabet :=
  ⟨fun written => ⟨written.length, written.points⟩, fun ⟨length, points⟩ => ⟨length, points⟩⟩

instance (alphabet text : Text) : Decidable (IsWrittenIn alphabet text) :=
  decidable_of_iff _ isWrittenIn_iff.symm

/-- A text is an identifier in its normal form. -/
def IsNormal (text : Text) : Prop :=
  IsWrittenIn lowerDigits text

/-- A text is an identifier with its letters in either case. -/
def IsSpelled (text : Text) : Prop :=
  IsWrittenIn spellingDigits text

instance (text : Text) : Decidable (IsNormal text) :=
  inferInstanceAs (Decidable (IsWrittenIn lowerDigits text))

instance (text : Text) : Decidable (IsSpelled text) :=
  inferInstanceAs (Decidable (IsWrittenIn spellingDigits text))

/-- What a text is normalised to: hyphens are left out and letters put in lower case. -/
inductive IsTakenFor (content : Text) : Text → Prop
  | digits
      (isSpelled : IsSpelled (content.without hyphen)) :
      IsTakenFor content (content.without hyphen).asciiLowercase
  | line {spelled : Text}
      (ends : content.without hyphen = spelled ++ lineFeed)
      (isSpelled : IsSpelled spelled) :
      IsTakenFor content (spelled.asciiLowercase ++ lineFeed)

/-! ## Digits -/

theorem isLowerHexDigit_iff {point : CodePoint} :
    isLowerHexDigit point = true ↔ point ∈ lowerDigits := by
  constructor
  · intro isDigit
    have isAscii : point.value < 128 := by
      rcases Bool.or_eq_true_iff.mp isDigit with isFigure | isLetter
      · exact Nat.lt_of_le_of_lt (CodePoint.mem_range_of_isBetween isFigure).2 (by decide)
      · exact Nat.lt_of_le_of_lt (CodePoint.mem_range_of_isBetween isLetter).2 (by decide)
    revert isDigit
    exact CodePoint.forall_ascii
      (fun point => isLowerHexDigit point = true → point ∈ lowerDigits) (by decide +kernel) isAscii
  · have allDigits : ∀ point ∈ lowerDigits, isLowerHexDigit point = true := by decide
    exact allDigits point

theorem isAscii_of_lowerPoint {point : CodePoint}
    (isAscii : (Text.lowerPoint point).value < 0x80) :
    point.value < 0x80 := by
  rw [Text.lowerPoint] at isAscii
  split at isAscii
  · next isCapital =>
      exact Nat.lt_of_le_of_lt (CodePoint.mem_range_of_isBetween isCapital).2 (by decide)
  · exact isAscii

theorem lowerPoint_mem_iff {point : CodePoint} :
    Text.lowerPoint point ∈ lowerDigits ↔ point ∈ spellingDigits := by
  have lowerAscii : ∀ point ∈ lowerDigits, point.value < 0x80 := by decide
  have checked {point : CodePoint} (isAscii : point.value < 0x80) :
      Text.lowerPoint point ∈ lowerDigits ↔ point ∈ spellingDigits :=
    CodePoint.forall_ascii
      (fun point => Text.lowerPoint point ∈ lowerDigits ↔ point ∈ spellingDigits)
      (by decide +kernel) isAscii
  constructor
  · intro isLower
    exact (checked (isAscii_of_lowerPoint (lowerAscii _ isLower))).mp isLower
  · have allDigits : ∀ point ∈ spellingDigits, Text.lowerPoint point ∈ lowerDigits := by decide
    exact allDigits point

theorem eq_lineFeed_of_lowerPoint {point : CodePoint}
    (isFeed : Text.lowerPoint point = CodePoint.ofChar '\n') :
    point = CodePoint.ofChar '\n' := by
  have isAscii : point.value < 0x80 := isAscii_of_lowerPoint (isFeed ▸ by decide)
  exact CodePoint.forall_ascii
    (fun point =>
      Text.lowerPoint point = CodePoint.ofChar '\n' → point = CodePoint.ofChar '\n')
    (by decide +kernel) isAscii isFeed

theorem IsSpelled.areAscii {text : Text} (isSpelled : IsSpelled text) :
    ∀ point ∈ text, point.value < 0x80 := by
  have allAscii : ∀ point ∈ spellingDigits, point.value < 0x80 := by decide
  exact fun point member => allAscii point (isSpelled.points point member)

/-- A text spells an identifier exactly if it is one in lower case. -/
theorem isNormal_asciiLowercase_iff {text : Text} :
    IsNormal text.asciiLowercase ↔ IsSpelled text := by
  rw [Text.asciiLowercase_eq_map]
  constructor
  · intro isNormal
    exact {
      length := (List.length_map Text.lowerPoint).symm.trans isNormal.length
      points := fun point member =>
        lowerPoint_mem_iff.mp (isNormal.points _ (List.mem_map_of_mem member)) }
  · intro isSpelled
    exact {
      length := (List.length_map Text.lowerPoint).trans isSpelled.length
      points := fun point member => by
        obtain ⟨letter, isLetter, rfl⟩ := List.mem_map.mp member
        exact lowerPoint_mem_iff.mpr (isSpelled.points letter isLetter) }

theorem IsNormal.hyphen_notMem {digits : Text} (isNormal : IsNormal digits) :
    hyphen ∉ digits := by
  have noDigit : hyphen ∉ lowerDigits := by decide
  exact fun member => noDigit (isNormal.points hyphen member)

theorem IsNormal.asciiLowercase_eq {digits : Text} (isNormal : IsNormal digits) :
    digits.asciiLowercase = digits := by
  have unchanged : ∀ point ∈ lowerDigits, Text.lowerPoint point = id point := by decide
  rw [Text.asciiLowercase_eq_map,
    List.map_congr_left fun point member => unchanged point (isNormal.points point member),
    List.map_id]

theorem IsNormal.isSpelled {digits : Text} (isNormal : IsNormal digits) : IsSpelled digits :=
  isNormal_asciiLowercase_iff.mp (isNormal.asciiLowercase_eq.symm ▸ isNormal)

/-! ## The check -/

/-- What passes the check is an identifier, with or without a line feed behind it. -/
theorem isNormalized_iff {text : Text} :
    isNormalized text = true ↔
      ∃ digits ending,
        text = digits ++ ending ∧ IsNormal digits ∧ (ending = [] ∨ ending = lineFeed) := by
  have lineFeed_eq : [CodePoint.ofNat 10] = lineFeed := by decide
  simp only [isNormalized, Bool.and_eq_true, Bool.or_eq_true, decide_eq_true_eq,
    List.all_eq_true, isLowerHexDigit_iff, lineFeed_eq]
  constructor
  · rintro ⟨⟨length, points⟩, isEnding⟩
    exact ⟨text.take digitCount, text.drop digitCount, (List.take_append_drop _ text).symm,
      ⟨length, points⟩, isEnding⟩
  · rintro ⟨digits, ending, rfl, isNormal, isEnding⟩
    have length : digits.length = digitCount := isNormal.length
    rw [List.take_left' length, List.drop_left' length]
    exact ⟨⟨length, isNormal.points⟩, isEnding⟩

/-- The check looks at letters in ASCII only, so a text that passes in lower case is in ASCII. -/
theorem areAscii_of_isNormalized
    {text : Text}
    (normalized : isNormalized text.lowercase = true) :
    ∀ point ∈ text, point.value < 0x80 := by
  refine Text.areAscii_of_lowercase fun point member => ?_
  have digitsAreOwn : ∀ point ∈ lowerDigits ++ lineFeed,
      ¬ (0x80 ≤ point.value ∨ point ∈ sharedLowercase) := by
    decide
  refine digitsAreOwn point (List.mem_append.mpr ?_)
  obtain ⟨digits, ending, split, isNormal, isEnding⟩ := isNormalized_iff.mp normalized
  rw [split] at member
  rcases List.mem_append.mp member with isDigit | isBehind
  · exact .inl (isNormal.points point isDigit)
  · rcases isEnding with rfl | rfl
    · cases isBehind
    · exact .inr isBehind

/-- The parts of a text that passes the check in lower case. -/
theorem exists_of_isNormalized_lowercase
    {text : Text}
    (normalized : isNormalized text.lowercase = true) :
    ∃ spelled ending,
      text = spelled ++ ending ∧ IsSpelled spelled ∧ (ending = [] ∨ ending = lineFeed) := by
  rw [Text.lowercase_eq_asciiLowercase (areAscii_of_isNormalized normalized),
    Text.asciiLowercase_eq_map] at normalized
  obtain ⟨_, _, split, isNormal, isEnding⟩ := isNormalized_iff.mp normalized
  obtain ⟨spelled, ending, rfl, rfl, rfl⟩ := List.map_eq_append_iff.mp split
  refine ⟨spelled, ending, rfl, isNormal_asciiLowercase_iff.mp isNormal, ?_⟩
  rcases isEnding with isNil | isLine
  · exact .inl (List.map_eq_nil_iff.mp isNil)
  · obtain ⟨point, rfl, isFeed⟩ := List.map_eq_singleton_iff.mp isLine
    rw [eq_lineFeed_of_lowerPoint isFeed]
    exact .inr rfl

theorem lowercase_of_isSpelled
    {spelled ending : Text}
    (isSpelled : IsSpelled spelled)
    (isEnding : ending = [] ∨ ending = lineFeed) :
    Text.lowercase (spelled ++ ending) = spelled.asciiLowercase ++ ending := by
  have lowered : ending.asciiLowercase = ending ∧ ∀ point ∈ ending, point.value < 0x80 := by
    rcases isEnding with rfl | rfl <;> decide
  have areAscii : ∀ point ∈ spelled ++ ending, point.value < 0x80 := by
    intro point member
    rcases List.mem_append.mp member with isDigit | isBehind
    · exact isSpelled.areAscii point isDigit
    · exact lowered.2 point isBehind
  rw [Text.lowercase_eq_asciiLowercase areAscii, Text.asciiLowercase_eq_map, List.map_append]
  exact congrArg (spelled.asciiLowercase ++ ·) lowered.1

theorem normalize_text (content : Text) :
    normalize (.text content) =
      if isNormalized (content.without hyphen).lowercase = true then
        .ok (content.without hyphen).lowercase
      else
        .error (.malformedResponse (.badUuid (.text content)) none) :=
  rfl

theorem normalize_of_isSpelled
    {content spelled ending : Text}
    (split : content.without hyphen = spelled ++ ending)
    (isSpelled : IsSpelled spelled)
    (isEnding : ending = [] ∨ ending = lineFeed) :
    normalize (.text content) = .ok (spelled.asciiLowercase ++ ending) := by
  have normalized : isNormalized (spelled.asciiLowercase ++ ending) = true :=
    isNormalized_iff.mpr ⟨_, ending, rfl, isNormal_asciiLowercase_iff.mpr isSpelled, isEnding⟩
  rw [normalize_text, split, lowercase_of_isSpelled isSpelled isEnding, if_pos normalized]

/-- A text is normalised exactly to what it is taken for. -/
theorem normalize_text_eq_ok_iff {content result : Text} :
    normalize (.text content) = .ok result ↔ IsTakenFor content result := by
  constructor
  · intro normalized
    have passes : isNormalized (content.without hyphen).lowercase = true := by
      rw [normalize_text] at normalized
      split at normalized
      · assumption
      · cases normalized
    obtain ⟨spelled, ending, split, isSpelled, isEnding⟩ :=
      exists_of_isNormalized_lowercase passes
    rw [normalize_of_isSpelled split isSpelled isEnding] at normalized
    cases normalized
    rcases isEnding with rfl | rfl
    · rw [List.append_nil] at split ⊢
      rw [← split] at isSpelled ⊢
      exact .digits isSpelled
    · exact .line split isSpelled
  · intro taken
    cases taken with
    | digits isSpelled =>
        have split := (List.append_nil (content.without hyphen)).symm
        rw [normalize_of_isSpelled split isSpelled (.inl rfl), List.append_nil]
    | line ends isSpelled =>
        exact normalize_of_isSpelled ends isSpelled (.inr rfl)

theorem normalize_text_of_not_isTakenFor
    {content : Text}
    (takenForNone : ∀ result, ¬ IsTakenFor content result) :
    normalize (.text content) = .error (.malformedResponse (.badUuid (.text content)) none) := by
  rw [normalize_text, if_neg]
  intro normalized
  have isResult : normalize (.text content) = .ok (content.without hyphen).lowercase := by
    rw [normalize_text, if_pos normalized]
  exact takenForNone _ (normalize_text_eq_ok_iff.mp isResult)

/-- What an identifier is normalised to is left as it is when it is normalised again. -/
theorem IsNormal.normalize_eq
    {digits ending : Text}
    (isNormal : IsNormal digits)
    (isEnding : ending = [] ∨ ending = lineFeed) :
    normalize (.text (digits ++ ending)) = .ok (digits ++ ending) := by
  have endingBare : hyphen ∉ ending := by
    rcases isEnding with rfl | rfl <;> decide
  have isBare : (digits ++ ending).without hyphen = digits ++ ending :=
    Text.without_of_notMem fun member =>
      (List.mem_append.mp member).elim isNormal.hyphen_notMem endingBare
  rw [normalize_of_isSpelled isBare isNormal.isSpelled isEnding, isNormal.asciiLowercase_eq]

/-! ## Values of any type -/

theorem normalize_of_not_isText {value : Value} (notText : value.isText = false) :
    normalize value =
      value.checkShown >>= fun _ => .error (.malformedResponse (.uuidNotText value) none) := by
  cases value with
  | text content =>
      cases notText
  | _ =>
      rfl

/-- What becomes of a value of any type that is given for an identifier. -/
inductive NormalizesTo : Value → Except Fault Text → Prop
  | taken {content result : Text}
      (isTaken : IsTakenFor content result) :
      NormalizesTo (.text content) (.ok result)
  | misspelled {content : Text}
      (takenForNone : ∀ result, ¬ IsTakenFor content result) :
      NormalizesTo (.text content)
        (.error (.malformedResponse (.badUuid (.text content)) none))
  | notText {value : Value}
      (notText : value.isText = false)
      (showable : value.IsShowable) :
      NormalizesTo value (.error (.malformedResponse (.uuidNotText value) none))
  | unshowable {value : Value}
      (notText : value.isText = false)
      (notShowable : ¬ value.IsShowable) :
      NormalizesTo value (.error (.badValue .unspecified))

theorem NormalizesTo.normalize_eq {value : Value} {outcome : Except Fault Text}
    (becomes : NormalizesTo value outcome) :
    normalize value = outcome := by
  cases becomes with
  | taken isTaken =>
      exact normalize_text_eq_ok_iff.mpr isTaken
  | misspelled takenForNone =>
      exact normalize_text_of_not_isTakenFor takenForNone
  | notText notText showable =>
      rw [normalize_of_not_isText notText, showable.checkShown]
      rfl
  | unshowable notText notShowable =>
      rw [normalize_of_not_isText notText, Value.checkShown_of_not_isShowable notShowable]
      rfl

/-- Something becomes of every value. -/
theorem exists_normalizesTo (value : Value) : ∃ outcome, NormalizesTo value outcome := by
  cases isText : value.isText with
  | true =>
      obtain ⟨content, rfl⟩ := Value.isText_iff.mp isText
      by_cases isTaken : ∃ result, IsTakenFor content result
      · obtain ⟨result, isTaken⟩ := isTaken
        exact ⟨_, .taken isTaken⟩
      · exact ⟨_, .misspelled (not_exists.mp isTaken)⟩
  | false =>
      by_cases showable : value.IsShowable
      · exact ⟨_, .notText isText showable⟩
      · exact ⟨_, .unshowable isText showable⟩

theorem normalize_eq_iff {value : Value} {outcome : Except Fault Text} :
    normalize value = outcome ↔ NormalizesTo value outcome := by
  constructor
  · rintro rfl
    obtain ⟨outcome, becomes⟩ := exists_normalizesTo value
    exact becomes.normalize_eq.symm ▸ becomes
  · exact NormalizesTo.normalize_eq

/-- Whatever identifier normalising gives is normalised already. -/
theorem normalize_idempotent
    {value : Value}
    {digits : Text}
    (given : normalize value = .ok digits) :
    normalize (.text digits) = .ok digits := by
  cases normalize_eq_iff.mp given with
  | taken isTaken =>
      cases isTaken with
      | digits isSpelled =>
          have again := (isNormal_asciiLowercase_iff.mpr isSpelled).normalize_eq (.inl rfl)
          rwa [List.append_nil] at again
      | line _ isSpelled =>
          exact (isNormal_asciiLowercase_iff.mpr isSpelled).normalize_eq (.inr rfl)

end Uuid

end SessionHandshake
