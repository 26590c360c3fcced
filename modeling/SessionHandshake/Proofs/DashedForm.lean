import SessionHandshake.Proofs.Entries
import SessionHandshake.Proofs.FixedWidth
import SessionHandshake.Proofs.Identifier
import SessionHandshake.Proofs.Profile

namespace SessionHandshake

/-!
# Dashed forms

The dashed form of an identifier is made by way of the number that its digits write.  The
digits come back out of the number, those in front that are zero included, and stand in
five groups between hyphens.  Normalising leaves the hyphens out again.
-/

namespace Text

/-- A pattern is not found in a text that lacks one of its points. -/
theorem withoutAll_of_notMem {pattern text : Text} {point : CodePoint}
    (isNeeded : point ∈ pattern)
    (absent : point ∉ text) :
    withoutAll pattern text = text := by
  induction text with
  | nil =>
      rw [withoutAll]
  | cons first rest inductionHypothesis =>
      have notHere : ¬ (pattern ≠ [] ∧ startsWith (first :: rest) pattern = true) := by
        rintro ⟨_, begins⟩
        exact absent ((List.isPrefixOf_iff_prefix.mp begins).subset isNeeded)
      rw [withoutAll, if_neg notHere,
        inductionHypothesis fun member => absent (List.mem_cons_of_mem first member)]

/-- Leaving the separator out undoes joining. -/
theorem without_joined {separator : CodePoint} {parts : List Text}
    (absent : ∀ part ∈ parts, separator ∉ part) :
    (joined [separator] parts).without separator = parts.flatten := by
  match parts with
  | [] =>
      rfl
  | [only] =>
      rw [joined, List.flatten_singleton, without_of_notMem (absent only List.mem_cons_self)]
  | first :: second :: others =>
      have rest : (joined [separator] (second :: others)).without separator =
          (second :: others).flatten :=
        without_joined fun part member => absent part (List.mem_cons_of_mem first member)
      have firstKept := without_of_notMem (absent first List.mem_cons_self)
      have isLeftOut : without [separator] separator = [] := by
        simp only [without, ne_eq, not_true, decide_false, List.filter_cons_of_neg,
          Bool.false_eq_true, not_false_eq_true, List.filter_nil]
      rw [without] at rest firstKept isLeftOut ⊢
      rw [joined, List.filter_append, List.filter_append, firstKept, isLeftOut, rest,
        List.append_nil]
      · rfl
      · exact List.cons_ne_nil second others

end Text

namespace Uuid

/-! ## Digits as a number -/

theorem exists_digit_of_mem {point : CodePoint} (isDigit : point ∈ lowerDigits) :
    ∃ digit < 16, CodePoint.hexDigit digit = point := by
  have checked : ∀ point ∈ lowerDigits, ∃ digit < 16, CodePoint.hexDigit digit = point := by
    decide
  exact checked point isDigit

theorem hexDigit_mem_lowerDigits {digit : Nat} (small : digit < 16) :
    CodePoint.hexDigit digit ∈ lowerDigits := by
  have checked : ∀ digit : Fin 16, CodePoint.hexDigit digit ∈ lowerDigits := by decide
  exact checked ⟨digit, small⟩

/-- A text of these digits writes a list of numbers below sixteen. -/
theorem exists_digits_of_points {text : Text} (points : ∀ point ∈ text, point ∈ lowerDigits) :
    ∃ digits : List Nat,
      (∀ digit ∈ digits, digit < 16) ∧ digits.map CodePoint.hexDigit = text := by
  induction text with
  | nil =>
      exact ⟨[], List.forall_mem_nil _, rfl⟩
  | cons first rest inductionHypothesis =>
      obtain ⟨digit, isDigit, rfl⟩ := exists_digit_of_mem (points first List.mem_cons_self)
      obtain ⟨digits, areDigits, rfl⟩ := inductionHypothesis fun point member =>
        points point (List.mem_cons_of_mem _ member)
      exact ⟨digit :: digits, List.forall_mem_cons.mpr ⟨isDigit, areDigits⟩, rfl⟩

/-- An identifier is written with thirty-two digits of base sixteen. -/
theorem IsNormal.exists_digits {text : Text} (isNormal : IsNormal text) :
    ∃ digits : List Nat,
      digits.length = 32 ∧ (∀ digit ∈ digits, digit < 16) ∧
        digits.map CodePoint.hexDigit = text := by
  obtain ⟨digits, areDigits, rfl⟩ := exists_digits_of_points isNormal.points
  exact ⟨digits, by rw [← isNormal.length, List.length_map], areDigits, rfl⟩

/-- An identifier writes a number of 128 bits, from which its digits are written again. -/
theorem IsNormal.exists_number {text : Text} (isNormal : IsNormal text) :
    ∃ number < 2 ^ 128,
      Numeral.value? 16 text = some (Int.ofNat number) ∧ Text.hexPadded 32 number = text := by
  obtain ⟨digits, length, areDigits, rfl⟩ := isNormal.exists_digits
  have someDigits : digits ≠ [] := by
    rintro rfl
    cases length
  refine ⟨Text.hexValue digits, ?_, Numeral.value?_map_hexDigit areDigits someDigits, ?_⟩
  · have bound := Text.hexValue_lt areDigits
    rw [length] at bound
    exact bound
  · have written := Text.hexPadded_hexValue someDigits areDigits
    rwa [length] at written

/-! ## Groups -/

/-- The groups of digits that stand between the hyphens. -/
def groups (digits : Text) : List Text :=
  [digits.take 8, (digits.drop 8).take 4, (digits.drop 12).take 4, (digits.drop 16).take 4,
    digits.drop 20]

theorem flatten_groups (digits : Text) : (groups digits).flatten = digits := by
  have continued (start count : Nat) :
      (digits.drop start).take count ++ digits.drop (start + count) = digits.drop start := by
    rw [← List.drop_drop, List.take_append_drop]
  have first : digits.take 8 ++ digits.drop 8 = digits := List.take_append_drop 8 digits
  have second := continued 8 4
  have third := continued 12 4
  have fourth := continued 16 4
  simp only [Nat.reduceAdd] at second third fourth
  simp only [groups, List.flatten_cons, List.flatten_nil, List.append_nil, fourth, third, second,
    first]

theorem length_groups {digits : Text} (length : digits.length = 32) :
    (groups digits).map List.length = [8, 4, 4, 4, 12] := by
  simp only [groups, List.map_cons, List.map_nil, List.length_take, List.length_drop, length]
  rfl

/-! ## The dashed form -/

/-- No label, brace or hyphen stands around or between digits, nor around a line feed. -/
theorem bare_of_points {text : Text} (points : ∀ point ∈ text, point ∈ lowerDigits ++ lineFeed) :
    bare text = text := by
  have absent : ∀ point, point ∉ lowerDigits ++ lineFeed → point ∉ text :=
    fun point isNone member => isNone (points point member)
  have colonAbsent : CodePoint.ofChar ':' ∉ text := absent _ (by decide)
  have hyphenAbsent : CodePoint.ofChar '-' ∉ text := absent _ (by decide)
  have noBrace : ∀ point ∈ lowerDigits ++ lineFeed, isBrace point = false := by decide
  have inUrn : CodePoint.ofChar ':' ∈ Text.ofString "urn:" := by decide
  have inUuid : CodePoint.ofChar ':' ∈ Text.ofString "uuid:" := by decide
  simp only [bare, Text.withoutAll_of_notMem inUrn colonAbsent,
    Text.withoutAll_of_notMem inUuid colonAbsent,
    Text.trim_of_forall fun point member => noBrace point (points point member),
    Text.without_of_notMem hyphenAbsent]

theorem dashedText_of_isNormal {digits : Text} (isNormal : IsNormal digits) :
    dashedText digits = .ok (grouped digits) := by
  have isBare : bare digits = digits :=
    bare_of_points fun point member => List.mem_append_left _ (isNormal.points point member)
  have length : digits.length = digitCount := isNormal.length
  obtain ⟨number, isSmall, isRead, isWritten⟩ := isNormal.exists_number
  have fits : number < Nat.pow 16 digitCount := isSmall
  have written : Text.hexPadded digitCount number = digits := isWritten
  simp only [dashedText, isBare, length, ne_eq, not_true, if_false, isRead, fits, if_true, written]

/-- A line feed behind the digits is one code point too many. -/
theorem dashedText_lineFeed {digits : Text} (isNormal : IsNormal digits) :
    dashedText (digits ++ lineFeed) = .error (.badValue .malformedUuid) := by
  have isBare : bare (digits ++ lineFeed) = digits ++ lineFeed := by
    refine bare_of_points fun point member => List.mem_append.mpr ?_
    exact (List.mem_append.mp member).imp_left (isNormal.points point)
  have tooLong : (digits ++ lineFeed).length ≠ digitCount := by
    rw [List.length_append, isNormal.length]
    decide
  simp only [dashedText, isBare, if_pos tooLong]

theorem grouped_without_hyphen {digits : Text} (isNormal : IsNormal digits) :
    (grouped digits).without hyphen = digits := by
  have absent : ∀ part ∈ groups digits, hyphen ∉ part := by
    intro part member isInside
    refine isNormal.hyphen_notMem ?_
    rw [← flatten_groups digits]
    exact List.mem_flatten_of_mem member isInside
  have joined : grouped digits = Text.joined [hyphen] (groups digits) := rfl
  rw [joined, Text.without_joined absent, flatten_groups]

/-! ## Spellings -/

/-- A text gives the digits of an identifier: hyphens do not count, nor the case of letters. -/
def Spells (content digits : Text) : Prop :=
  (content.without hyphen).asciiLowercase = digits

theorem Spells.normalize_eq
    {content digits : Text}
    (isNormal : IsNormal digits)
    (spells : Spells content digits) :
    normalize (.text content) = .ok digits := by
  rw [← spells] at isNormal ⊢
  exact normalize_text_eq_ok_iff.mpr (.digits (isNormal_asciiLowercase_iff.mp isNormal))

/-- The dashed form spells the identifier. -/
theorem IsNormal.spells_grouped {digits : Text} (isNormal : IsNormal digits) :
    Spells (grouped digits) digits := by
  rw [Spells, grouped_without_hyphen isNormal, isNormal.asciiLowercase_eq]

/-- A text that differs in the case of letters alone spells the identifier. -/
theorem IsNormal.spells_of_asciiLowercase
    {content digits : Text}
    (isNormal : IsNormal digits)
    (sameLetters : content.asciiLowercase = digits) :
    Spells content digits := by
  have noHyphen : hyphen ∉ content := by
    intro member
    have lowered : Text.lowerPoint hyphen = hyphen := by decide
    refine isNormal.hyphen_notMem ?_
    rw [← sameLetters, ← lowered]
    exact List.mem_map_of_mem member
  rw [Spells, Text.without_of_notMem noHyphen, sameLetters]

end Uuid

/-- A profile is read with the identifier that its answer spells. -/
theorem Profile.ofAnswer_of_spells
    {digits content name : Text}
    {entries : List (Value × Value)}
    {items : List Value}
    (isNormal : Uuid.IsNormal digits)
    (spells : Uuid.Spells content digits)
    (id : Value.member? entries "id" = some (.text content))
    (username : Value.member? entries "name" = some (.text name))
    (notEmpty : name ≠ [])
    (properties : Value.member? entries "properties" = some (.list items))
    (areMappings : ∀ item ∈ items, item.isMapping = true) :
    ofAnswer (.mapping entries) =
      .ok { uuid := .text digits, username := .text name, properties := .list items } :=
  ofAnswer_eq_ok_iff.mpr ⟨entries, rfl, {
    uuid := ⟨.text content, digits, id, spells.normalize_eq isNormal, rfl⟩
    username := ⟨name, username, notEmpty, rfl⟩
    properties := ⟨items, rfl, .inr ⟨properties, areMappings⟩⟩ }⟩

namespace Uuid

/-- An answer about a player whose identifier begins with zeros and is spelled in capitals. -/
def zeroLedAnswer : List (Value × Value) := [
  (Value.ofString "id", Value.ofString "00000000-0000-0000-0000-00-000A-BCDEF0"),
  (Value.ofString "name", Value.ofString "Notch"),
  (Value.ofString "properties", .list [.mapping []])]

theorem zeroLedAnswer_members :
    Value.member? zeroLedAnswer "id" =
        some (Value.ofString "00000000-0000-0000-0000-00-000A-BCDEF0") ∧
      Value.member? zeroLedAnswer "name" = some (Value.ofString "Notch") ∧
      Value.member? zeroLedAnswer "properties" = some (.list [.mapping []]) := by
  simp only [zeroLedAnswer, Value.member?_cons]
  exact ⟨rfl, rfl, rfl⟩

theorem zeroLed_spells :
    IsNormal "0000000000000000000000000abcdef0" ∧
      Spells "00000000-0000-0000-0000-00-000A-BCDEF0" "0000000000000000000000000abcdef0" := by
  unfold Spells
  decide

/--
An identifier survives its dashed form.  The form is made from a number of 128 bits, which
writes the same thirty-two digits, in groups of 8, 4, 4, 4 and 12; and normalising it, or any
other spelling of the identifier, gives the identifier.  So does reading a profile that has
a spelling for its identifier.
-/
theorem spellings_round_trip {digits : Text} (isNormal : IsNormal digits) :
    (∃ number < 2 ^ 128,
        Numeral.value? 16 digits = some (Int.ofNat number) ∧
          Text.hexPadded 32 number = digits) ∧
      (∃ parts : List Text,
        parts.map List.length = [8, 4, 4, 4, 12] ∧
          parts.flatten = digits ∧
          (∀ username properties,
            Profile.dashedUuid
                { uuid := .text digits, username := username, properties := properties } =
              .ok (Text.joined "-" parts)) ∧
          Spells (Text.joined "-" parts) digits ∧
          normalize (.text (Text.joined "-" parts)) = .ok digits) ∧
      (∀ content, content.asciiLowercase = digits → Spells content digits) ∧
      ∀ content,
        Spells content digits →
        normalize (.text content) = .ok digits ∧
          ∀ entries name items,
            Value.member? entries "id" = some (.text content) →
            Value.member? entries "name" = some (.text name) →
            name ≠ [] →
            Value.member? entries "properties" = some (.list items) →
            (∀ item ∈ items, item.isMapping = true) →
            Profile.ofAnswer (.mapping entries) =
              .ok { uuid := .text digits, username := .text name, properties := .list items } := by
  refine ⟨isNormal.exists_number, ⟨groups digits, length_groups isNormal.length,
    flatten_groups digits, fun _ _ => dashedText_of_isNormal isNormal, isNormal.spells_grouped,
    isNormal.spells_grouped.normalize_eq isNormal⟩,
    fun _ => isNormal.spells_of_asciiLowercase, fun content spells =>
      ⟨spells.normalize_eq isNormal, ?_⟩⟩
  intro entries name items id username notEmpty properties areMappings
  exact Profile.ofAnswer_of_spells isNormal spells id username notEmpty properties areMappings

/-- The zeros in front are still there when the profile has been read. -/
theorem spellings_round_trip_zeros :
    IsNormal "0000000000000000000000000abcdef0" ∧
      Spells "00000000-0000-0000-0000-00-000A-BCDEF0" "0000000000000000000000000abcdef0" ∧
      Profile.ofAnswer (.mapping zeroLedAnswer) =
        .ok {
          uuid := Value.ofString "0000000000000000000000000abcdef0"
          username := Value.ofString "Notch"
          properties := .list [.mapping []]
        } := by
  obtain ⟨id, username, properties⟩ := zeroLedAnswer_members
  obtain ⟨isNormal, spells⟩ := zeroLed_spells
  obtain ⟨_, _, _, isRead⟩ := spellings_round_trip isNormal
  exact ⟨isNormal, spells,
    (isRead _ spells).2 zeroLedAnswer _ _ id username (by decide) properties (by decide)⟩

end Uuid

end SessionHandshake
