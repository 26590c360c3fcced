import SessionHandshake.Json.Reader
import SessionHandshake.Json.Writer
import SessionHandshake.Proofs.Entries
import SessionHandshake.Proofs.Numeral
import SessionHandshake.Proofs.Outcome
import SessionHandshake.Proofs.Utf8
import SessionHandshake.Proofs.Value

namespace SessionHandshake

/-!
# Reading what was written as JSON

A document is written in visible ASCII alone, and reading it gives back the value
that was written: a text of scalar values with all its quotes, control characters
and characters beyond ASCII, and an object with each of its members.
-/

/-! ## Escaped units -/

namespace Text

/-- A 16-bit unit has four hexadecimal digits. -/
theorem hexPadded_four {unit : Nat} (isUnit : unit < 0x10000) :
    hexPadded 4 unit =
      [unit / 4096, unit / 256 % 16, unit / 16 % 16, unit % 16].map CodePoint.hexDigit := by
  have split :
      unit =
        16 * (16 * (16 * (unit / 4096) + unit / 256 % 16) + unit / 16 % 16) + unit % 16 := by
    omega
  have single : hexPadded 1 (unit / 4096) = [CodePoint.hexDigit (unit / 4096)] := by
    rw [hexPadded, digits_of_lt (by omega)]
    rfl
  conv_lhs => rw [split]
  rw [hexPadded_concat (by decide) (by omega), hexPadded_concat (by decide) (by omega),
    hexPadded_concat (by decide) (by omega), single]
  rfl

end Text

namespace Json

/-- The quotation mark. -/
def quote : CodePoint := CodePoint.ofChar '"'

/-- The backslash. -/
def backslash : CodePoint := CodePoint.ofChar '\\'

theorem readUnit_hexPadded {unit : Nat} (isUnit : unit < 0x10000) (rest : Text) :
    readUnit (Text.hexPadded 4 unit ++ rest) = some (unit, rest) := by
  have sum :
      ((unit / 4096 * 16 + unit / 256 % 16) * 16 + unit / 16 % 16) * 16 + unit % 16 = unit := by
    omega
  rw [Text.hexPadded_four isUnit]
  simp only [List.map_cons, List.map_nil, List.cons_append, List.nil_append, readUnit]
  rw [CodePoint.hexDigit_hexValue? (by omega), CodePoint.hexDigit_hexValue? (by omega),
    CodePoint.hexDigit_hexValue? (by omega), CodePoint.hexDigit_hexValue? (by omega)]
  simp only [sum]

theorem escapedUnit_append (unit : Nat) (rest : Text) :
    escapedUnit unit ++ rest =
      backslash :: CodePoint.ofChar 'u' :: (Text.hexPadded 4 unit ++ rest) :=
  rfl

theorem isPlain_escapedUnit {unit : Nat} (isUnit : unit < 0x10000) :
    (escapedUnit unit).IsPlain := by
  have front : Text.IsPlain ("\\u" : Text) := by decide
  refine front.append ?_
  rw [Text.hexPadded_four isUnit]
  intro point member
  obtain ⟨digit, isDigit, rfl⟩ := List.mem_map.mp member
  refine Text.isPlainPoint_hexDigit ?_
  simp only [List.mem_cons, List.not_mem_nil, or_false] at isDigit
  omega

/-! ## Texts -/

section Points

variable {point : CodePoint} {fuel : Nat} {rest : Text}

/-- Reading one escape and then what follows it. -/
theorem readQuoted_escape
    {escape : Text}
    (escaped : readEscape (escape ++ rest) = some (point, rest)) :
    readQuoted (fuel + 1) (backslash :: (escape ++ rest)) =
      (readQuoted fuel rest).map fun (content, rest) => (point :: content, rest) := by
  have isBackslash : backslash = CodePoint.ofChar '\\' := rfl
  rw [readQuoted, if_neg (by decide), if_pos isBackslash, escaped]

/-- An escape of one letter. -/
theorem readEscape_letter
    {letter : CodePoint}
    (notUnit : letter ≠ CodePoint.ofChar 'u')
    (escapes : simpleEscape? letter = some point) :
    readEscape ([letter] ++ rest) = some (point, rest) := by
  rw [List.singleton_append, readEscape, if_neg notUnit, escapes]
  rfl

/-- A unit that is no surrogate. -/
theorem readEscape_unit (isUnit : point.value < 0x10000) (isScalar : point.IsScalar) :
    readEscape (CodePoint.ofChar 'u' :: Text.hexPadded 4 point.value ++ rest) =
      some (point, rest) := by
  have notHigh : isHighSurrogate point.value = false := by
    simp only [isHighSurrogate, Bool.and_eq_false_iff, decide_eq_false_iff_not, Nat.not_le]
    have apart := CodePoint.isScalar_iff.mp isScalar
    omega
  rw [List.cons_append, readEscape, if_pos rfl, readUnit_hexPadded isUnit]
  simp only [notHigh, Bool.false_eq_true, if_false, CodePoint.ofNat_value]

/-- Two units that are a pair. -/
theorem readEscape_pair (isWide : 0x10000 ≤ point.value) :
    readEscape
        (CodePoint.ofChar 'u' :: Text.hexPadded 4 (0xd800 + (point.value - 0x10000) / 1024) ++
          escapedUnit (0xdc00 + (point.value - 0x10000) % 1024) ++ rest) =
      some (point, rest) := by
  have bound := point.isBounded
  generalize isHigh : 0xd800 + (point.value - 0x10000) / 1024 = high
  generalize isLow : 0xdc00 + (point.value - 0x10000) % 1024 = low
  have highUnit : isHighSurrogate high = true := by
    simp only [isHighSurrogate, Bool.and_eq_true, decide_eq_true_eq]
    omega
  have lowUnit : isLowSurrogate low = true := by
    simp only [isLowSurrogate, Bool.and_eq_true, decide_eq_true_eq]
    omega
  have paired : pairedSurrogates high low = point.value := by
    unfold pairedSurrogates
    omega
  have lowRead : readLowSurrogate? (escapedUnit low ++ rest) = some (low, rest) := by
    rw [escapedUnit_append, readLowSurrogate?, if_pos ⟨rfl, rfl⟩, readUnit_hexPadded (by omega)]
    simp only [lowUnit, if_true]
  rw [List.append_assoc, List.cons_append, readEscape, if_pos rfl, readUnit_hexPadded (by omega)]
  simp only [highUnit, if_true, lowRead, paired, CodePoint.ofNat_value]

/-- A written point is read back, and reading goes on behind it. -/
theorem readQuoted_writePoint (isScalar : point.IsScalar) :
    readQuoted (fuel + 1) (writePoint point ++ rest) =
      (readQuoted fuel rest).map fun (content, rest) => (point :: content, rest) := by
  have simple :
      ∀ (letter : CodePoint) {value : Nat},
        letter ≠ CodePoint.ofChar 'u' → simpleEscape? letter = some (CodePoint.ofNat value) →
        point.value = value →
        readQuoted (fuel + 1) ([backslash, letter] ++ rest) =
          (readQuoted fuel rest).map fun (content, rest) => (point :: content, rest) := by
    intro letter value notUnit escapes same
    rw [← same, CodePoint.ofNat_value] at escapes
    exact readQuoted_escape (readEscape_letter notUnit escapes)
  unfold writePoint
  split
  · next isMark =>
      have escapes : point ≠ CodePoint.ofChar 'u' ∧ simpleEscape? point = some point := by
        rcases isMark with rfl | rfl <;> decide
      exact readQuoted_escape (readEscape_letter escapes.1 escapes.2)
  · next notMark =>
      obtain ⟨notQuote, notBackslash⟩ := not_or.mp notMark
      split
      · next isValue =>
          exact simple (CodePoint.ofChar 'n') (by decide) (by decide) isValue
      split
      · next isValue =>
          exact simple (CodePoint.ofChar 'r') (by decide) (by decide) isValue
      split
      · next isValue =>
          exact simple (CodePoint.ofChar 't') (by decide) (by decide) isValue
      split
      · next isValue =>
          exact simple (CodePoint.ofChar 'f') (by decide) (by decide) isValue
      split
      · next isValue =>
          exact simple (CodePoint.ofChar 'b') (by decide) (by decide) isValue
      split
      · next isVisible =>
          rw [List.singleton_append, readQuoted, if_neg notQuote, if_neg notBackslash,
            if_neg (by omega)]
      split
      · next isUnit =>
          exact readQuoted_escape (readEscape_unit isUnit isScalar)
      · next isWide =>
          exact readQuoted_escape (readEscape_pair (Nat.not_lt.mp isWide))

end Points

theorem isPlain_writePoint (point : CodePoint) : (writePoint point).IsPlain := by
  unfold writePoint
  split
  · next isMark =>
      rcases isMark with rfl | rfl <;> decide
  -- the five control characters that have a letter of their own
  iterate 5
    split
    · decide
  split
  · next isVisible =>
      intro other member
      rw [List.mem_singleton.mp member]
      exact isVisible
  split
  · next isUnit =>
      exact isPlain_escapedUnit isUnit
  · have bound := point.isBounded
    exact (isPlain_escapedUnit (by omega)).append (isPlain_escapedUnit (by omega))

theorem writePoint_ne_nil (point : CodePoint) : writePoint point ≠ [] := by
  intro isEmpty
  unfold writePoint at isEmpty
  repeat' split at isEmpty
  all_goals cases isEmpty

theorem length_le_flatMap_writePoint (content : Text) :
    content.length ≤ (content.flatMap writePoint).length := by
  induction content with
  | nil =>
      exact Nat.le_refl 0
  | cons point rest inductionHypothesis =>
      have positive := List.length_pos_iff.mpr (writePoint_ne_nil point)
      rw [List.flatMap_cons, List.length_append, List.length_cons]
      omega

theorem readQuoted_flatMap
    {content : Text}
    (isScalar : content.IsScalar)
    {fuel : Nat}
    (enough : content.length < fuel)
    (rest : Text) :
    readQuoted fuel (content.flatMap writePoint ++ quote :: rest) = some (content, rest) := by
  induction content generalizing fuel with
  | nil =>
      obtain ⟨fuel, rfl⟩ := Nat.exists_eq_add_one_of_ne_zero (Nat.ne_of_gt enough)
      have isQuote : quote = CodePoint.ofChar '"' := rfl
      rw [List.flatMap_nil, List.nil_append, readQuoted, if_pos isQuote]
  | cons point others inductionHypothesis =>
      obtain ⟨fuel, rfl⟩ := Nat.exists_eq_add_one_of_ne_zero (Nat.ne_zero_of_lt enough)
      have othersScalar : Text.IsScalar others :=
        fun other member => isScalar other (List.mem_cons_of_mem point member)
      have othersEnough : others.length < fuel := Nat.lt_of_succ_lt_succ enough
      rw [List.flatMap_cons, List.append_assoc,
        readQuoted_writePoint (isScalar point List.mem_cons_self),
        inductionHypothesis othersScalar othersEnough]
      rfl

theorem writeText_append (content rest : Text) :
    writeText content ++ rest = quote :: (content.flatMap writePoint ++ quote :: rest) := by
  have split : writeText content = quote :: (content.flatMap writePoint ++ [quote]) := rfl
  rw [split, List.cons_append, List.append_assoc, List.singleton_append]

theorem isPlain_writeText (content : Text) : (writeText content).IsPlain := by
  have mark : Text.IsPlain ("\"" : Text) := by decide
  refine (mark.append fun point member => ?_).append mark
  obtain ⟨written, _, isPoint⟩ := List.mem_flatMap.mp member
  exact isPlain_writePoint written point isPoint

/-- What reading a quoted text makes of what was written, whatever follows. -/
theorem readQuoted_writeText {content : Text} (isScalar : content.IsScalar) (rest : Text) :
    readQuoted ((content.flatMap writePoint ++ quote :: rest).length + 1)
      (content.flatMap writePoint ++ quote :: rest) = some (content, rest) := by
  refine readQuoted_flatMap isScalar ?_ rest
  have atLeast := length_le_flatMap_writePoint content
  rw [List.length_append]
  omega

/-! ## Values -/

/-- What may stand behind a value inside a document: nothing, a comma or a brace. -/
def MayFollow (rest : Text) : Prop :=
  ∀ point ∈ rest.head?, point = CodePoint.ofChar ',' ∨ point = CodePoint.ofChar '\x7d'

/-- A text is the document of a value, and reading it gives the value back, to some depth. -/
structure IsDocumentOf (depth : Nat) (written : Text) (value : Value) : Prop where
  isWritten : write value = .ok written
  isPlain : written.IsPlain
  begins : ∃ first rest, written = first :: rest ∧ isBlank first = false
  isRead :
    ∀ fuel levels rest,
      written.length ≤ fuel →
      depth ≤ levels →
      MayFollow rest →
      readValue fuel levels (written ++ rest) = .ok (value, rest)

/-- A value that is read back as it was written where there are so many levels. -/
def IsReadBack (depth : Nat) (value : Value) : Prop :=
  ∃ written, IsDocumentOf depth written value

theorem isReadBack_text {content : Text} (isScalar : content.IsScalar) (depth : Nat) :
    IsReadBack depth (.text content) := by
  refine ⟨writeText content, ?_, isPlain_writeText content, ⟨quote, _, rfl, by decide⟩, ?_⟩
  · rw [write]
  · intro fuel levels rest enough _ _
    obtain ⟨fuel, rfl⟩ : ∃ less, fuel = less + 1 :=
      Nat.exists_eq_add_one_of_ne_zero (Nat.ne_zero_of_lt enough)
    have isQuote : quote = CodePoint.ofChar '"' := rfl
    rw [writeText_append, readValue, if_pos isQuote, readQuoted_writeText isScalar]
    rfl

/-- A value that is written as a word is read back from it. -/
theorem isReadBack_of_word
    {word : Text}
    {value : Value}
    (isWritten : write value = .ok word)
    (isPlain : word.IsPlain)
    (begins : ∃ first rest, word = first :: rest ∧ isBlank first = false)
    (isRead :
      ∀ fuel levels rest, readValue (fuel + 1) levels (word ++ rest) = .ok (value, rest))
    (depth : Nat) :
    IsReadBack depth value := by
  refine ⟨word, isWritten, isPlain, begins, fun fuel levels rest enough _ _ => ?_⟩
  obtain ⟨first, others, rfl, _⟩ := begins
  obtain ⟨fuel, rfl⟩ := Nat.exists_eq_add_one_of_ne_zero (Nat.ne_zero_of_lt enough)
  exact isRead fuel levels rest

theorem isReadBack_null (depth : Nat) : IsReadBack depth .null := by
  have isWritten : write .null = .ok ("null" : Text) := by simp only [write, writeAtom]
  exact isReadBack_of_word isWritten (by decide) ⟨_, _, rfl, by decide⟩ (fun _ _ _ => rfl) depth

theorem isReadBack_bool (truth : Bool) (depth : Nat) : IsReadBack depth (.bool truth) := by
  cases truth with
  | true =>
      have isWritten : write (.bool true) = .ok ("true" : Text) := by simp only [write, writeAtom]
      exact isReadBack_of_word isWritten (by decide) ⟨_, _, rfl, by decide⟩ (fun _ _ _ => rfl)
        depth
  | false =>
      have isWritten : write (.bool false) = .ok ("false" : Text) := by simp only [write, writeAtom]
      exact isReadBack_of_word isWritten (by decide) ⟨_, _, rfl, by decide⟩ (fun _ _ _ => rfl)
        depth

/-! ### Digits -/

/-- A digit is neither the sign of a number nor white space. -/
theorem hexDigit_begins {digit : Nat} (small : digit < 10) :
    CodePoint.hexDigit digit ≠ CodePoint.ofChar '-' ∧
      isBlank (CodePoint.hexDigit digit) = false := by
  have checked :
      ∀ digit : Fin 10,
        CodePoint.hexDigit digit ≠ CodePoint.ofChar '-' ∧
          isBlank (CodePoint.hexDigit digit) = false := by
    decide
  exact checked ⟨digit, small⟩

theorem ne_of_isDigit {point mark : CodePoint} (isDigit : point.isDigit = true)
    (notDigit : mark.isDigit = false) :
    point ≠ mark := by
  rintro rfl
  rw [notDigit] at isDigit
  cases isDigit

/-- No word begins with a digit. -/
theorem readWord?_of_isDigit {first : CodePoint} (isDigit : first.isDigit = true) (rest : Text) :
    readWord? (first :: rest) = none := by
  have eachWord :
      ∀ word ∈ words, ∃ letter others, word.1 = letter :: others ∧ letter.isDigit = false := by
    intro word member
    simp only [words, List.mem_cons, List.not_mem_nil, or_false] at member
    rcases member with rfl | rfl | rfl | rfl | rfl | rfl <;> exact ⟨_, _, rfl, by decide⟩
  refine List.findSome?_eq_none_iff.mpr fun word member => ?_
  obtain ⟨letter, others, begins, notDigit⟩ := eachWord word member
  have different : (letter == first) = false :=
    beq_eq_false_iff_ne.mpr (ne_of_isDigit isDigit notDigit).symm
  have notFront : Text.startsWith (first :: rest) (letter :: others) = false := by
    simp only [Text.startsWith, List.isPrefixOf, different, Bool.false_and]
  simp only [begins, Text.dropPrefix?, notFront, Bool.false_eq_true, if_false, Option.map_none]

/-- Behind a whole number that ends there, there is no fraction and no exponent. -/
theorem MayFollow.ends {rest : Text} (mayFollow : MayFollow rest) :
    rest.takeWhile CodePoint.isDigit = [] ∧ readFraction? rest = none ∧
      readExponent? rest = none := by
  cases rest with
  | nil =>
      exact ⟨rfl, rfl, rfl⟩
  | cons point others =>
      have isMark :
          point.isDigit = false ∧ point ≠ CodePoint.ofChar '.' ∧ point.isOneOf "eE" = false := by
        rcases mayFollow point rfl with rfl | rfl <;> decide
      obtain ⟨notDigit, notPoint, notLetter⟩ := isMark
      refine ⟨List.takeWhile_cons_of_neg (by rw [notDigit]; exact Bool.false_ne_true), ?_, ?_⟩
      · simp only [readFraction?, notPoint, false_and, if_false]
      · simp only [readExponent?, notLetter, Bool.false_eq_true, false_and, if_false]

theorem readUnsigned_digit
    {digit : Nat}
    (small : digit < 10)
    {rest : Text}
    (mayFollow : MayFollow rest) :
    readUnsigned false (CodePoint.hexDigit digit :: rest) = some (.int digit, rest) := by
  have isDigit := CodePoint.isDigit_hexDigit small
  have number := Text.decimalValue_hexDigit small
  obtain ⟨noDigits, noFraction, noExponent⟩ := mayFollow.ends
  have remaining : rest.dropWhile CodePoint.isDigit = rest := by
    have split := List.takeWhile_append_dropWhile (p := CodePoint.isDigit) (l := rest)
    rwa [noDigits, List.nil_append] at split
  have whole :
      readWhole? (CodePoint.hexDigit digit :: rest) = some ([CodePoint.hexDigit digit], rest) := by
    simp only [readWhole?, isDigit, if_true, readDigits, List.takeWhile_cons_of_pos isDigit,
      List.dropWhile_cons_of_pos isDigit, noDigits, remaining, ite_self]
  have short : ¬ Numeral.maximalDigits < [CodePoint.hexDigit digit].length := by
    rw [List.length_singleton]
    decide
  rw [readUnsigned, whole]
  simp only [noFraction, noExponent, Option.getD_none, Option.isSome_none, Bool.or_self,
    Bool.false_eq_true, if_false, if_neg short, number]

theorem isReadBack_digit {digit : Nat} (small : digit < 10) (depth : Nat) :
    IsReadBack depth (.int digit) := by
  have isDigit := CodePoint.isDigit_hexDigit small
  obtain ⟨notMinus, notBlank⟩ := hexDigit_begins small
  refine ⟨[CodePoint.hexDigit digit], ?_, ?_, ⟨_, [], rfl, notBlank⟩, ?_⟩
  · have short : ¬ Nat.pow 10 Numeral.maximalDigits ≤ digit := by
      have someDigits : 1 ≤ Numeral.maximalDigits := by decide
      generalize Numeral.maximalDigits = most at someDigits
      exact Nat.not_le.mpr
        (Nat.lt_of_lt_of_le small (Nat.pow_le_pow_right (Nat.zero_lt_succ 9) someDigits))
    have showable : (Value.int digit).IsShowable := by
      intro part member
      rw [List.mem_singleton.mp member]
      simp only [Value.isTooLong, Int.natAbs_natCast, short, decide_false]
    simp only [write, writeAtom, showable.checkShown, ok_bind]
    exact congrArg (fun digits => Except.ok (digits.map CodePoint.hexDigit))
      (Text.digits_of_lt small)
  · intro point member
    rw [List.mem_singleton.mp member]
    exact Text.isPlainPoint_hexDigit (by omega)
  · intro fuel levels rest enough _ mayFollow
    obtain ⟨fuel, rfl⟩ := Nat.exists_eq_add_one_of_ne_zero (Nat.ne_zero_of_lt enough)
    rw [List.singleton_append, readValue, if_neg (ne_of_isDigit isDigit (by decide)),
      if_neg (ne_of_isDigit isDigit (by decide)), if_neg (ne_of_isDigit isDigit (by decide)),
      readAtom, readWord?_of_isDigit isDigit]
    simp only [if_neg notMinus, readUnsigned_digit small mayFollow]
    rfl

/-! ### Objects -/

/-- Members of a mapping with textual names. -/
def entriesOf (members : List (Text × Value)) : List (Value × Value) :=
  members.map fun member => (.text member.1, member.2)

/-- A member as it is written. -/
def memberText (name written : Text) : Text :=
  writeText name ++ (": " : Text) ++ written

/-- The names are texts of scalar values, and the values are read back. -/
def AreReadBack (depth : Nat) (members : List (Text × Value)) : Prop :=
  ∀ member ∈ members, member.1.IsScalar ∧ IsReadBack depth member.2

theorem AreReadBack.tail {depth : Nat} {member : Text × Value} {members : List (Text × Value)}
    (areReadBack : AreReadBack depth (member :: members)) :
    AreReadBack depth members :=
  fun other isMember => areReadBack other (List.mem_cons_of_mem member isMember)

theorem skipBlanks_of_not_isBlank {first : CodePoint} (notBlank : isBlank first = false)
    (rest : Text) :
    skipBlanks (first :: rest) = first :: rest :=
  List.dropWhile_cons_of_neg (by rw [notBlank]; exact Bool.false_ne_true)

/-- The space behind a colon or a comma is skipped. -/
theorem skipBlanks_space {first : CodePoint} (notBlank : isBlank first = false) (rest : Text) :
    skipBlanks (CodePoint.ofChar ' ' :: first :: rest) = first :: rest :=
  (List.dropWhile_cons_of_pos (by decide)).trans (skipBlanks_of_not_isBlank notBlank rest)

/-- What is made of a member once the mark behind it is seen. -/
def afterMember
    (fuel levels : Nat)
    (entry : Value × Value)
    (mark : CodePoint)
    (rest : Text) :
    Reading (List (Value × Value)) :=
  if mark = CodePoint.ofChar '\x7d' then
    .ok ([entry], rest)
  else
    (readMembers fuel levels (skipBlanks rest)).map fun (entries, rest) =>
      (entry :: entries, rest)

theorem readMembers_memberText
    {name written : Text}
    {value : Value}
    {depth : Nat}
    (isScalar : name.IsScalar)
    (document : IsDocumentOf depth written value)
    {fuel levels : Nat}
    (enough : written.length ≤ fuel)
    (enoughLevels : depth ≤ levels)
    {mark : CodePoint}
    (isMark : mark = CodePoint.ofChar ',' ∨ mark = CodePoint.ofChar '\x7d')
    (rest : Text) :
    readMembers (fuel + 1) levels (memberText name written ++ mark :: rest) =
      afterMember fuel levels (.text name, value) mark rest := by
  obtain ⟨first, others, begins, notBlank⟩ := document.begins
  have colonNotBlank : isBlank (CodePoint.ofChar ':') = false := by decide
  have isRead : readValue fuel levels (written ++ mark :: rest) = .ok (value, mark :: rest) :=
    document.isRead fuel levels (mark :: rest) enough enoughLevels fun point isHead => by
      cases isHead
      exact isMark
  have written_append :
      memberText name written ++ mark :: rest =
        quote :: (name.flatMap writePoint ++ quote ::
          (CodePoint.ofChar ':' :: CodePoint.ofChar ' ' :: (written ++ mark :: rest))) := by
    rw [memberText, List.append_assoc, List.append_assoc, writeText_append]
    rfl
  have skipped :
      skipBlanks (CodePoint.ofChar ' ' :: (written ++ mark :: rest)) = written ++ mark :: rest := by
    rw [begins, List.cons_append]
    exact skipBlanks_space notBlank _
  have markKept : skipBlanks (mark :: rest) = mark :: rest := by
    refine skipBlanks_of_not_isBlank ?_ rest
    rcases isMark with rfl | rfl <;> decide
  have isQuote : ¬ quote ≠ CodePoint.ofChar '"' := fun different => different rfl
  rw [written_append, readMembers, if_neg isQuote, readQuoted_writeText isScalar]
  simp only [skipBlanks_of_not_isBlank colonNotBlank, ne_eq, not_true, if_false, skipped, isRead,
    markKept]
  rcases isMark with rfl | rfl
  · rfl
  · rfl

/-- Texts that are read as the members of an object, to some depth. -/
structure AreMembersOf
    (depth : Nat)
    (written : Text)
    (members : List (Text × Value)) : Prop where
  isPlain : written.IsPlain
  begins : ∃ rest, written = quote :: rest
  isRead :
    ∀ fuel levels rest,
      written.length < fuel →
      depth ≤ levels →
      readMembers fuel levels (written ++ CodePoint.ofChar '\x7d' :: rest) =
        .ok (entriesOf members, rest)

theorem isPlain_memberText {name written : Text} (isPlain : written.IsPlain) :
    (memberText name written).IsPlain := by
  have colon : Text.IsPlain (": " : Text) := by decide
  exact ((isPlain_writeText name).append colon).append isPlain

theorem length_lt_memberText (name written : Text) :
    written.length + 4 ≤ (memberText name written).length := by
  have split : (memberText name written).length =
      ((1 + (name.flatMap writePoint).length + 1) + 2) + written.length := by
    rw [memberText, List.length_append, List.length_append, writeText, List.length_append,
      List.length_append]
    rfl
  omega

theorem areMembersOf_singleton
    {name written : Text}
    {value : Value}
    {depth : Nat}
    (isScalar : name.IsScalar)
    (document : IsDocumentOf depth written value) :
    AreMembersOf depth (memberText name written) [(name, value)] where
  isPlain := isPlain_memberText document.isPlain
  begins := ⟨_, rfl⟩
  isRead fuel levels rest enough enoughLevels := by
    obtain ⟨fuel, rfl⟩ := Nat.exists_eq_add_one_of_ne_zero (Nat.ne_zero_of_lt enough)
    have longer := length_lt_memberText name written
    exact readMembers_memberText isScalar document (by omega) enoughLevels (.inr rfl) rest

theorem AreMembersOf.cons
    {name written others : Text}
    {value : Value}
    {members : List (Text × Value)}
    {depth : Nat}
    (rest : AreMembersOf depth others members)
    (isScalar : name.IsScalar)
    (document : IsDocumentOf depth written value) :
    AreMembersOf depth (memberText name written ++ (", " : Text) ++ others)
      ((name, value) :: members) where
  isPlain := by
    have comma : Text.IsPlain (", " : Text) := by decide
    exact ((isPlain_memberText document.isPlain).append comma).append rest.isPlain
  begins := ⟨_, rfl⟩
  isRead fuel levels following enough enoughLevels := by
    obtain ⟨fuel, rfl⟩ := Nat.exists_eq_add_one_of_ne_zero (Nat.ne_zero_of_lt enough)
    obtain ⟨tail, begins⟩ := rest.begins
    have longer := length_lt_memberText name written
    have sum :
        (memberText name written ++ (", " : Text) ++ others).length =
          (memberText name written).length + 2 + others.length := by
      rw [List.length_append, List.length_append]
      rfl
    have split :
        memberText name written ++ (", " : Text) ++ others ++ CodePoint.ofChar '\x7d' :: following =
          memberText name written ++ CodePoint.ofChar ',' ::
            (CodePoint.ofChar ' ' :: (others ++ CodePoint.ofChar '\x7d' :: following)) := by
      rw [List.append_assoc, List.append_assoc]
      rfl
    have skipped :
        skipBlanks (CodePoint.ofChar ' ' :: (others ++ CodePoint.ofChar '\x7d' :: following)) =
          others ++ CodePoint.ofChar '\x7d' :: following := by
      rw [begins, List.cons_append]
      exact skipBlanks_space (by decide) _
    rw [split, readMembers_memberText isScalar document (by omega) enoughLevels (.inl rfl),
      afterMember, if_neg (by decide), skipped,
      rest.isRead fuel levels following (by omega) enoughLevels]
    rfl

/-- Members that are read back are written one after the other and read as they were. -/
theorem AreReadBack.areMembersOf
    {depth : Nat}
    {members : List (Text × Value)}
    (areReadBack : AreReadBack depth members)
    (someMembers : members ≠ []) :
    ∃ parts,
      writeMembers (entriesOf members) = .ok parts ∧
        AreMembersOf depth (Text.joined ", " parts) members := by
  match members, someMembers with
  | [(name, value)], _ =>
      obtain ⟨isScalar, written, document⟩ := areReadBack (name, value) List.mem_cons_self
      refine ⟨[memberText name written], ?_, areMembersOf_singleton isScalar document⟩
      simp only [entriesOf, List.map_cons, List.map_nil, writeMembers, writeName,
        document.isWritten, ok_bind]
      rfl
  | (name, value) :: second :: others, _ =>
      obtain ⟨isScalar, written, document⟩ := areReadBack (name, value) List.mem_cons_self
      obtain ⟨parts, isWritten, areMembers⟩ :=
        AreReadBack.areMembersOf areReadBack.tail (List.cons_ne_nil second others)
      have someParts : ∃ part rest, parts = part :: rest := by
        cases parts with
        | nil =>
            obtain ⟨rest, begins⟩ := areMembers.begins
            cases begins
        | cons part rest =>
            exact ⟨part, rest, rfl⟩
      obtain ⟨part, rest, rfl⟩ := someParts
      refine ⟨memberText name written :: part :: rest, ?_, areMembers.cons isScalar document⟩
      have split :
          entriesOf ((name, value) :: second :: others) =
            (.text name, value) :: entriesOf (second :: others) :=
        rfl
      rw [split, writeMembers, writeName, document.isWritten, isWritten]
      rfl

/-- An object with distinct names is read back member by member. -/
theorem isReadBack_object
    {depth : Nat}
    {members : List (Text × Value)}
    (areReadBack : AreReadBack depth members)
    (someMembers : members ≠ [])
    (distinct : (members.map Prod.fst).Nodup) :
    IsReadBack (depth + 1) (.mapping (entriesOf members)) := by
  obtain ⟨parts, isWritten, areMembers⟩ := areReadBack.areMembersOf someMembers
  obtain ⟨tail, begins⟩ := areMembers.begins
  have brace : Text.IsPlain ("\x7b" : Text) ∧ Text.IsPlain ("\x7d" : Text) := by decide
  refine ⟨("\x7b" : Text) ++ Text.joined ", " parts ++ ("\x7d" : Text), ?_,
    (brace.1.append areMembers.isPlain).append brace.2,
    ⟨CodePoint.ofChar '\x7b', _, rfl, by decide⟩, ?_⟩
  · rw [write, isWritten]
    rfl
  · intro fuel levels rest enough enoughLevels _
    have sum :
        (("\x7b" : Text) ++ Text.joined ", " parts ++ ("\x7d" : Text)).length =
          1 + (Text.joined ", " parts).length + 1 := by
      rw [List.length_append, List.length_append]
      rfl
    obtain ⟨fuel, rfl⟩ : ∃ less, fuel = less + 1 :=
      Nat.exists_eq_add_one_of_ne_zero (by omega)
    have split :
        ("\x7b" : Text) ++ Text.joined ", " parts ++ ("\x7d" : Text) ++ rest =
          CodePoint.ofChar '\x7b' ::
            (Text.joined ", " parts ++ CodePoint.ofChar '\x7d' :: rest) := by
      rw [List.append_assoc, List.append_assoc]
      rfl
    have skipped :
        skipBlanks (Text.joined ", " parts ++ CodePoint.ofChar '\x7d' :: rest) =
          Text.joined ", " parts ++ CodePoint.ofChar '\x7d' :: rest := by
      rw [begins, List.cons_append]
      exact skipBlanks_of_not_isBlank (by decide) _
    have notEmpty :
        (Text.joined ", " parts ++ CodePoint.ofChar '\x7d' :: rest).head? ≠
          some (CodePoint.ofChar '\x7d') := by
      rw [begins, List.cons_append, List.head?_cons]
      decide
    have isBrace : CodePoint.ofChar '\x7b' = CodePoint.ofChar '\x7b' := rfl
    have someLevels : levels ≠ 0 := by
      omega
    have isRead := areMembers.isRead fuel (levels - 1) rest (by omega) (by omega)
    rw [split, readValue, if_neg (by decide), if_neg (by decide), if_pos isBrace]
    simp only [skipped, if_neg someLevels, if_neg notEmpty, isRead, Except.map]
    rw [entriesOf, Value.insertAll_of_nodup distinct]

/-! ## Whole documents -/

/-- The bytes of a document of a value are read as that value. -/
theorem IsDocumentOf.readBytes {depth : Nat} {written : Text} {value : Value}
    (document : IsDocumentOf depth written value)
    (notTooDeep : depth ≤ deepestNesting) :
    readBytes (written.flatMap CodePoint.utf8) = .ok value := by
  obtain ⟨first, others, begins, notBlank⟩ := document.begins
  have skipped : skipBlanks written = written := by
    rw [begins]
    exact skipBlanks_of_not_isBlank notBlank others
  have isRead :=
    document.isRead (2 * written.length + 1) deepestNesting [] (by omega) notTooDeep
      fun _ isHead => nomatch isHead
  rw [List.append_nil] at isRead
  rw [Json.readBytes, document.isPlain.ofEncoded?]
  simp only [read, skipped, isRead]
  rfl

end Json

end SessionHandshake
