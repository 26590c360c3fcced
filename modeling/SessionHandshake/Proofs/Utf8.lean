import SessionHandshake.Text.WideUnits

namespace SessionHandshake

/-!
# Reading what was written in UTF-8

A text without surrogates is read back from its bytes, one code point after the
other, whatever bytes follow.  A body in ASCII without zero bytes has the same
meaning in the encoding that its bytes suggest, because they suggest UTF-8.
-/

namespace CodePoint

theorem ofNat_of_lt {number : Nat} (isBounded : number < 0x110000) :
    ofNat number = ⟨number, isBounded⟩ := by
  simp only [ofNat, ofNat?, dif_pos isBounded, Option.getD_some]

theorem ofNat_value (point : CodePoint) : ofNat point.value = point :=
  ofNat_of_lt point.isBounded

theorem value_ofNat_of_lt {number : Nat} (isBounded : number < 0x110000) :
    (ofNat number).value = number := by
  rw [ofNat_of_lt isBounded]

/-- The code point stands for a character by itself. -/
def IsScalar (point : CodePoint) : Prop :=
  point.isSurrogate = false

theorem isScalar_iff {point : CodePoint} :
    point.IsScalar ↔ point.value < 0xd800 ∨ 0xdfff < point.value := by
  simp only [IsScalar, isSurrogate, Bool.and_eq_false_iff, decide_eq_false_iff_not, Nat.not_le]

end CodePoint

namespace Text

/-- A text of Unicode scalar values. -/
def IsScalar (text : Text) : Prop :=
  ∀ point ∈ text, point.IsScalar

theorem isScalar_ofString (string : String) : (ofString string).IsScalar := by
  intro point member
  obtain ⟨character, _, rfl⟩ := List.mem_map.mp member
  refine CodePoint.isScalar_iff.mpr ?_
  have valid := character.valid
  simp only [CodePoint.ofChar, Char.toNat, UInt32.isValidChar, Nat.isValidChar] at *
  omega

theorem utf8?_of_isScalar {text : Text} (isScalar : text.IsScalar) :
    text.utf8? = some (text.flatMap CodePoint.utf8) := by
  have noSurrogate : text.any CodePoint.isSurrogate = false :=
    List.any_eq_false.mpr fun point member => by
      rw [isScalar point member]
      exact Bool.false_ne_true
  rw [utf8?, noSurrogate]
  rfl

/-! ## One code point in front of other bytes -/

section OnePoint

variable {point : CodePoint} (letsSurrogates : Bool) (rest : Bytes)

theorem toNat_ofNat_of_lt {number : Nat} (isByte : number < 256) :
    (UInt8.ofNat number).toNat = number := by
  rw [UInt8.toNat_ofNat']
  exact Nat.mod_eq_of_lt isByte

theorem ofUtf8?_one_byte (short : point.value < 0x80) :
    ofUtf8? letsSurrogates (point.utf8 ++ rest) =
      (ofUtf8? letsSurrogates rest).map (point :: ·) := by
  have byte : (UInt8.ofNat point.value).toNat = point.value :=
    toNat_ofNat_of_lt (by omega)
  rw [CodePoint.utf8, if_pos short, List.singleton_append, ofUtf8?.eq_def]
  simp only [byte, if_pos short, CodePoint.ofNat_value]

/-- A byte with six bits behind its mark continues a sequence and gives the bits back. -/
theorem continuation (number : Nat) :
    isContinuation (UInt8.ofNat (0x80 + number % 64)) = true ∧
      continuationBits (UInt8.ofNat (0x80 + number % 64)) = number % 64 := by
  have byte : (UInt8.ofNat (0x80 + number % 64)).toNat = 0x80 + number % 64 :=
    toNat_ofNat_of_lt (by omega)
  constructor
  · rw [isContinuation, byte, Bool.and_eq_true, decide_eq_true_eq, decide_eq_true_eq]
    omega
  · exact Nat.sub_eq_of_eq_add (byte.trans (Nat.add_comm 0x80 (number % 64)))

theorem ofUtf8?_two_bytes (notShort : 0x80 ≤ point.value) (isTwo : point.value < 0x800) :
    ofUtf8? letsSurrogates (point.utf8 ++ rest) =
      (ofUtf8? letsSurrogates rest).map (point :: ·) := by
  have first : (UInt8.ofNat (0xc0 + point.value / 64)).toNat = 0xc0 + point.value / 64 :=
    toNat_ofNat_of_lt (by omega)
  obtain ⟨continues, bits⟩ := continuation point.value
  have number :
      twoByteNumber (UInt8.ofNat (0xc0 + point.value / 64))
        (UInt8.ofNat (0x80 + point.value % 64)) = point.value := by
    rw [twoByteNumber, first, bits]
    omega
  rw [CodePoint.utf8, if_neg (by omega), if_pos isTwo, List.cons_append, List.singleton_append,
    ofUtf8?.eq_def]
  simp only [number, continues, first, Bool.not_true, Bool.false_eq_true, if_false,
    CodePoint.ofNat_value]
  rw [if_neg (by omega), if_pos (by omega)]

theorem ofUtf8?_three_bytes
    (notShort : 0x800 ≤ point.value)
    (isThree : point.value < 0x10000)
    (isScalar : point.IsScalar) :
    ofUtf8? letsSurrogates (point.utf8 ++ rest) =
      (ofUtf8? letsSurrogates rest).map (point :: ·) := by
  have first : (UInt8.ofNat (0xe0 + point.value / 4096)).toNat = 0xe0 + point.value / 4096 :=
    toNat_ofNat_of_lt (by omega)
  obtain ⟨secondContinues, secondBits⟩ := continuation (point.value / 64)
  obtain ⟨thirdContinues, thirdBits⟩ := continuation point.value
  have number :
      threeByteNumber (UInt8.ofNat (0xe0 + point.value / 4096))
        (UInt8.ofNat (0x80 + point.value / 64 % 64))
        (UInt8.ofNat (0x80 + point.value % 64)) = point.value := by
    rw [threeByteNumber, first, secondBits, thirdBits]
    omega
  rw [CodePoint.utf8, if_neg (by omega), if_neg (by omega), if_pos isThree, List.cons_append,
    List.cons_append, List.singleton_append, ofUtf8?.eq_def]
  simp only [number, secondContinues, thirdContinues, first, Bool.not_true, Bool.false_eq_true,
    if_false, CodePoint.ofNat_value]
  rw [if_neg (by omega), if_neg (by omega), if_pos (by omega), if_neg]
  rw [isScalar]
  simp only [Bool.false_and, Bool.or_false, decide_eq_true_eq, Nat.not_lt, notShort]

theorem ofUtf8?_four_bytes (isFour : 0x10000 ≤ point.value) :
    ofUtf8? letsSurrogates (point.utf8 ++ rest) =
      (ofUtf8? letsSurrogates rest).map (point :: ·) := by
  have bound := point.isBounded
  have first : (UInt8.ofNat (0xf0 + point.value / 262144)).toNat = 0xf0 + point.value / 262144 :=
    toNat_ofNat_of_lt (by omega)
  obtain ⟨secondContinues, secondBits⟩ := continuation (point.value / 4096)
  obtain ⟨thirdContinues, thirdBits⟩ := continuation (point.value / 64)
  obtain ⟨fourthContinues, fourthBits⟩ := continuation point.value
  have number :
      fourByteNumber (UInt8.ofNat (0xf0 + point.value / 262144))
        (UInt8.ofNat (0x80 + point.value / 4096 % 64))
        (UInt8.ofNat (0x80 + point.value / 64 % 64))
        (UInt8.ofNat (0x80 + point.value % 64)) = point.value := by
    rw [fourByteNumber, first, secondBits, thirdBits, fourthBits]
    omega
  rw [CodePoint.utf8, if_neg (by omega), if_neg (by omega), if_neg (by omega), List.cons_append,
    List.cons_append, List.cons_append, List.singleton_append, ofUtf8?.eq_def]
  simp only [number, secondContinues, thirdContinues, fourthContinues, first, Bool.not_true,
    Bool.false_eq_true, if_false, true_and, CodePoint.ofNat_value]
  rw [if_neg (by omega), if_neg (by omega), if_neg (by omega), if_pos (by omega)]

/-- A scalar value is read back from its bytes, and reading goes on behind them. -/
theorem ofUtf8?_utf8_append (isScalar : point.IsScalar) :
    ofUtf8? letsSurrogates (point.utf8 ++ rest) =
      (ofUtf8? letsSurrogates rest).map (point :: ·) := by
  rcases Nat.lt_or_ge point.value 0x80 with isOne | notOne
  · exact ofUtf8?_one_byte letsSurrogates rest isOne
  · rcases Nat.lt_or_ge point.value 0x800 with isTwo | notTwo
    · exact ofUtf8?_two_bytes letsSurrogates rest notOne isTwo
    · rcases Nat.lt_or_ge point.value 0x10000 with isThree | isFour
      · exact ofUtf8?_three_bytes letsSurrogates rest notTwo isThree isScalar
      · exact ofUtf8?_four_bytes letsSurrogates rest isFour

end OnePoint

/-! ## Whole texts -/

/-- A text of scalar values is read back from its bytes. -/
theorem ofUtf8?_flatMap_utf8
    (letsSurrogates : Bool)
    {text : Text}
    (isScalar : text.IsScalar) :
    ofUtf8? letsSurrogates (text.flatMap CodePoint.utf8) = some text := by
  induction text with
  | nil =>
      rfl
  | cons point rest inductionHypothesis =>
      have restScalar : Text.IsScalar rest :=
        fun other member => isScalar other (List.mem_cons_of_mem point member)
      rw [List.flatMap_cons,
        ofUtf8?_utf8_append letsSurrogates _ (isScalar point List.mem_cons_self),
        inductionHypothesis restScalar]
      rfl

/-- A point of ASCII that can be seen. -/
def IsPlainPoint (point : CodePoint) : Prop :=
  0x20 ≤ point.value ∧ point.value ≤ 0x7e

instance (point : CodePoint) : Decidable (IsPlainPoint point) :=
  inferInstanceAs (Decidable (0x20 ≤ point.value ∧ point.value ≤ 0x7e))

theorem isPlainPoint_hexDigit {digit : Nat} (small : digit < 16) :
    IsPlainPoint (CodePoint.hexDigit digit) := by
  have checked : ∀ digit : Fin 16, IsPlainPoint (CodePoint.hexDigit digit) := by decide
  exact checked ⟨digit, small⟩

/-- A text in which every point can be seen and is in ASCII. -/
def IsPlain (text : Text) : Prop :=
  ∀ point ∈ text, IsPlainPoint point

instance (text : Text) : Decidable text.IsPlain :=
  inferInstanceAs (Decidable (∀ point ∈ text, IsPlainPoint point))

theorem IsPlain.isScalar {text : Text} (isPlain : text.IsPlain) : text.IsScalar := by
  intro point member
  have bound := (isPlain point member).2
  exact CodePoint.isScalar_iff.mpr (.inl (by omega))

theorem IsPlain.append {first second : Text} (one : first.IsPlain) (other : second.IsPlain) :
    (first ++ second : Text).IsPlain := by
  intro point member
  rcases List.mem_append.mp member with isFirst | isSecond
  · exact one point isFirst
  · exact other point isSecond

theorem IsPlain.flatMap_utf8 {text : Text} (isPlain : text.IsPlain) :
    text.flatMap CodePoint.utf8 = text.map fun point => UInt8.ofNat point.value := by
  induction text with
  | nil =>
      rfl
  | cons point rest inductionHypothesis =>
      have bound := (isPlain point List.mem_cons_self).2
      rw [List.flatMap_cons, List.map_cons, CodePoint.utf8, if_pos (by omega),
        inductionHypothesis fun other member => isPlain other (List.mem_cons_of_mem point member)]
      rfl

end Text

namespace Encoding

theorem detectUnmarked_of_ne_zero {bytes : Bytes} (noZero : ∀ byte ∈ bytes, byte ≠ 0) :
    detectUnmarked bytes = .utf8 0 := by
  unfold detectUnmarked
  split
  · next first second third fourth rest =>
      rw [if_neg (noZero first (by simp)), if_neg (noZero second (by simp))]
  · next first second =>
      rw [if_neg (noZero first (by simp)), if_neg (noZero second (by simp))]
  · rfl

theorem not_isPrefixOf_of_le
    {mark bytes : Bytes}
    {first : UInt8}
    {rest : Bytes}
    (begins : mark = first :: rest)
    (none : first ∉ bytes) :
    mark.isPrefixOf bytes = false := by
  subst begins
  cases bytes with
  | nil =>
      rfl
  | cons other others =>
      have different : (first == other) = false :=
        beq_eq_false_iff_ne.mpr fun same => none (by rw [same]; exact List.mem_cons_self)
      simp only [List.isPrefixOf, different, Bool.false_and]

/-- Bytes in ASCII without a zero suggest UTF-8 without a mark. -/
theorem detect_of_ascii
    {bytes : Bytes}
    (isAscii : ∀ byte ∈ bytes, byte.toNat < 0x80)
    (noZero : ∀ byte ∈ bytes, byte ≠ 0) :
    detect bytes = .utf8 0 := by
  have unmarked :
      ∀ (mark : Bytes) (first : UInt8) (rest : Bytes),
        mark = first :: rest →
        (first = 0 ∨ 0x80 ≤ first.toNat) →
        mark.isPrefixOf bytes = false := by
    intro mark first rest begins isMark
    refine not_isPrefixOf_of_le begins fun member => ?_
    rcases isMark with isZero | isHigh
    · exact noZero first member isZero
    · exact Nat.not_le.mpr (isAscii first member) isHigh
  unfold detect
  rw [unmarked _ 0x00 _ rfl (.inl rfl), unmarked _ 0xff _ rfl (.inr (by decide)),
    unmarked _ 0xfe _ rfl (.inr (by decide)), unmarked _ 0xff _ rfl (.inr (by decide)),
    unmarked _ 0xef _ rfl (.inr (by decide))]
  exact detectUnmarked_of_ne_zero noZero

end Encoding

namespace Text

/-- A plain text is read back from its bytes in the encoding that they suggest. -/
theorem IsPlain.ofEncoded? {text : Text} (isPlain : text.IsPlain) :
    Text.ofEncoded? (Encoding.detect (text.flatMap CodePoint.utf8))
      (text.flatMap CodePoint.utf8) = some text := by
  have fromPoint :
      ∀ byte ∈ text.flatMap CodePoint.utf8, ∃ point ∈ text, byte.toNat = point.value := by
    rw [isPlain.flatMap_utf8]
    intro byte member
    obtain ⟨point, isPoint, rfl⟩ := List.mem_map.mp member
    have bound := (isPlain point isPoint).2
    exact ⟨point, isPoint, toNat_ofNat_of_lt (by omega)⟩
  have isUtf8 : Encoding.detect (text.flatMap CodePoint.utf8) = .utf8 0 := by
    apply Encoding.detect_of_ascii
    · intro byte member
      obtain ⟨point, isPoint, same⟩ := fromPoint byte member
      have bound := (isPlain point isPoint).2
      omega
    · intro byte member isZero
      obtain ⟨point, isPoint, same⟩ := fromPoint byte member
      have bound := (isPlain point isPoint).1
      rw [isZero] at same
      simp only [UInt8.toNat_zero] at same
      omega
  rw [isUtf8, Text.ofEncoded?, List.drop_zero]
  exact ofUtf8?_flatMap_utf8 true isPlain.isScalar

end Text

end SessionHandshake
