import Mathlib.Data.Nat.Digits.Defs
import Mathlib.Data.Set.Function
import SessionHandshake.Proofs.DashedForm

namespace SessionHandshake

/-!
# Canonical numerals

A whole number has one canonical numeral in base sixteen: its digits in lower case without
a zero in front of them, and a minus sign if the number is negative.  The digest text of a
hash is such a numeral, and each of them whose number can be written in two's complement
with the bytes of a hash is the digest text of exactly one hash.
-/

namespace Hash

/-- A whole number in two's complement, most significant byte first, cut to a number of bytes. -/
def signedBytes (count : Nat) (number : Int) : Bytes :=
  bigEndian count (number % (256 ^ count : Nat)).toNat

/-- A whole number can be written in two's complement with a number of bytes. -/
def FitsSigned (count : Nat) (number : Int) : Prop :=
  -(256 ^ count : Nat) ≤ 2 * number ∧ 2 * number < (256 ^ count : Nat)

theorem signedBytes_length (count : Nat) (number : Int) :
    (signedBytes count number).length = count :=
  bigEndian_length _ _

theorem fitsSigned_signedNumberOf (bytes : Bytes) :
    FitsSigned bytes.length (signedNumberOf bytes) := by
  have bound := numberOf_lt bytes
  unfold FitsSigned signedNumberOf
  generalize 256 ^ bytes.length = base at bound ⊢
  split
  · constructor <;> omega
  · constructor <;> omega

/-- Bytes are written back as they were read. -/
theorem signedBytes_signedNumberOf (bytes : Bytes) :
    signedBytes bytes.length (signedNumberOf bytes) = bytes := by
  have bound : (numberOf bytes : Int) < (256 ^ bytes.length : Nat) :=
    Int.ofNat_lt.mpr (numberOf_lt bytes)
  have reduced :
      signedNumberOf bytes % (256 ^ bytes.length : Nat) = numberOf bytes := by
    unfold signedNumberOf
    split
    · exact Int.emod_eq_of_lt (Int.natCast_nonneg _) bound
    · rw [Int.sub_emod_right, Int.emod_eq_of_lt (Int.natCast_nonneg _) bound]
  rw [signedBytes, reduced, Int.toNat_natCast, bigEndian_numberOf]

/-- A number that fits is read back as it was written. -/
theorem signedNumberOf_signedBytes {count : Nat} {number : Int} (fits : FitsSigned count number) :
    signedNumberOf (signedBytes count number) = number := by
  obtain ⟨atLeast, below⟩ := fits
  rw [signedNumberOf, signedBytes_length, signedBytes, numberOf_bigEndian]
  generalize 256 ^ count = base at atLeast below ⊢
  -- The remainder is the number itself, or the number and the base if it is negative.
  rcases lt_or_ge number 0 with isNegative | notNegative
  · have reduced : number % (base : Int) = number + base := by
      rw [← Int.add_emod_right]
      exact Int.emod_eq_of_lt (by omega) (by omega)
    rw [reduced, Nat.mod_eq_of_lt (by omega), if_neg (by omega)]
    omega
  · have reduced : number % (base : Int) = number :=
      Int.emod_eq_of_lt notNegative (by omega)
    rw [reduced, Nat.mod_eq_of_lt (by omega), if_pos (by omega)]
    omega

end Hash

namespace Text

/-- A text is the numeral of a natural number: digits, and no zero in front of them. -/
structure IsHexNumeral (text : Text) : Prop where
  points : ∀ point ∈ text, point ∈ Uuid.lowerDigits
  notEmpty : text ≠ []
  noZeroInFront : ∀ rest, text = CodePoint.ofChar '0' :: rest → rest = []

/-- A text is the numeral of a whole number: zero has no minus sign. -/
inductive IsSignedHexNumeral : Text → Prop where
  | natural {numeral : Text} :
      IsHexNumeral numeral →
      IsSignedHexNumeral numeral
  | negative {numeral : Text} :
      IsHexNumeral numeral →
      numeral ≠ "0" →
      IsSignedHexNumeral (CodePoint.ofChar '-' :: numeral)

/-! ## Numerals of natural numbers -/

theorem hexNumeral_zero : hexNumeral 0 = "0" :=
  rfl

/-- A numeral is made of digits that write its number. -/
theorem exists_digits_hexNumeral (number : Nat) :
    ∃ digits : List Nat,
      digits ≠ [] ∧ (∀ digit ∈ digits, digit < 16) ∧
        digits.map CodePoint.hexDigit = hexNumeral number ∧ hexValue digits = number := by
  induction number using Nat.strongRecOn with
  | ind number inductionHypothesis =>
      rcases Nat.lt_or_ge number 16 with isDigit | notDigit
      · have checked :
            ∀ digit : Fin 16,
              [digit.val].map CodePoint.hexDigit = hexNumeral digit ∧
                hexValue [digit.val] = digit := by
          decide
        obtain ⟨written, value⟩ := checked ⟨number, isDigit⟩
        exact ⟨[number], List.cons_ne_nil _ _, List.forall_mem_singleton.mpr isDigit, written,
          value⟩
      · obtain ⟨digits, _, areDigits, written, value⟩ :=
          inductionHypothesis (number / 16) (by omega)
        have isLast : number % 16 < 16 := Nat.mod_lt number (by decide)
        refine ⟨digits ++ [number % 16], List.append_ne_nil_of_right_ne_nil _
          (List.cons_ne_nil _ _), ?_, ?_, ?_⟩
        · exact List.forall_mem_append.mpr ⟨areDigits, List.forall_mem_singleton.mpr isLast⟩
        · rw [List.map_append, List.map_singleton, written,
            ← hexNumeral_concat (by omega) isLast, Nat.div_add_mod]
        · rw [hexValue_concat, value, Nat.div_add_mod]

theorem isHexNumeral_hexNumeral (number : Nat) : IsHexNumeral (hexNumeral number) := by
  obtain ⟨digits, _, areDigits, written, value⟩ := exists_digits_hexNumeral number
  constructor
  case points =>
    rw [← written]
    intro point member
    obtain ⟨digit, isDigit, rfl⟩ := List.mem_map.mp member
    exact Uuid.hexDigit_mem_lowerDigits (areDigits digit isDigit)
  case notEmpty =>
    exact hexNumeral_ne_nil number
  case noZeroInFront =>
    intro rest begins
    rcases Nat.eq_zero_or_pos number with rfl | positive
    · cases begins
      rfl
    · -- Nothing is dropped from the front of the numeral of a number that is not zero.
      have dropped := dropWhile_zero_map_hexDigit areDigits
      rw [value, if_neg (Nat.ne_of_gt positive), written, begins,
        List.dropWhile_cons_of_pos (by simp only [decide_true])] at dropped
      have shorter :
          (rest.dropWhile fun point => decide (point = CodePoint.ofChar '0')).length ≤
            rest.length :=
        (List.dropWhile_suffix _).length_le
      rw [dropped, List.length_cons] at shorter
      omega

/-- Nothing else is a numeral of a natural number. -/
theorem IsHexNumeral.exists_number {text : Text} (isNumeral : IsHexNumeral text) :
    ∃ number, hexNumeral number = text := by
  obtain ⟨digits, areDigits, rfl⟩ := Uuid.exists_digits_of_points isNumeral.points
  have dropped := dropWhile_zero_map_hexDigit areDigits
  match digits with
  | [] =>
      exact (isNumeral.notEmpty rfl).elim
  | first :: rest =>
      by_cases isZero : CodePoint.hexDigit first = CodePoint.ofChar '0'
      · have noRest : rest.map CodePoint.hexDigit = [] :=
          isNumeral.noZeroInFront _ (by rw [List.map_cons, isZero])
        refine ⟨0, ?_⟩
        rw [hexNumeral_zero, List.map_cons, noRest, isZero]
        rfl
      · rw [List.map_cons, List.dropWhile_cons_of_neg (by simpa only [decide_eq_true_eq])]
          at dropped
        refine ⟨hexValue (first :: rest), ?_⟩
        by_cases noValue : hexValue (first :: rest) = 0
        · rw [if_pos noValue] at dropped
          cases dropped
        · rw [if_neg noValue] at dropped
          exact dropped.symm

namespace IsSignedHexNumeral

variable {text : Text} (isNumeral : IsSignedHexNumeral text)
include isNumeral

theorem notEmpty : text ≠ [] := by
  cases isNumeral with
  | natural isNatural =>
      exact isNatural.notEmpty
  | negative _ _ =>
      exact List.cons_ne_nil _ _

theorem noZeroInFront (rest : Text) (begins : text = CodePoint.ofChar '0' :: rest) : rest = [] := by
  cases isNumeral with
  | natural isNatural =>
      exact isNatural.noZeroInFront rest begins
  | negative _ _ =>
      have notMinus : CodePoint.ofChar '-' ≠ CodePoint.ofChar '0' := by decide
      exact (notMinus (List.cons.inj begins).1).elim

theorem noZeroAfterSign (rest : Text) :
    text ≠ CodePoint.ofChar '-' :: CodePoint.ofChar '0' :: rest := by
  intro begins
  cases isNumeral with
  | natural isNatural =>
      have notDigit : CodePoint.ofChar '-' ∉ Uuid.lowerDigits := by decide
      exact notDigit (isNatural.points _ (begins ▸ List.mem_cons_self))
  | negative isNatural notZero =>
      have zeroInFront := (List.cons.inj begins).2
      refine notZero ?_
      rw [zeroInFront, isNatural.noZeroInFront rest zeroInFront]
      rfl

end IsSignedHexNumeral

theorem length_hexNumeral_le {number count : Nat} (fits : number < 16 ^ (count + 1)) :
    (hexNumeral number).length ≤ count + 1 := by
  rw [hexNumeral, List.length_map]
  exact Nat.toDigits_length 16 number (count + 1) (Nat.succ_pos count) fits

end Text

namespace Numeral

/-- A minus sign in front of digits is read as such. -/
theorem value?_minus {digits : List Nat}
    (areDigits : ∀ digit ∈ digits, digit < 16)
    (someDigits : digits ≠ []) :
    value? 16 (CodePoint.ofChar '-' :: digits.map CodePoint.hexDigit) =
      some (-(Text.hexValue digits : Int)) := by
  have isPlain :
      plain (CodePoint.ofChar '-' :: digits.map CodePoint.hexDigit) =
        CodePoint.ofChar '-' :: digits.map CodePoint.hexDigit := by
    have kept : plainPoint (CodePoint.ofChar '-') = CodePoint.ofChar '-' := by decide
    have points :
        (digits.map CodePoint.hexDigit).map plainPoint = digits.map CodePoint.hexDigit := by
      rw [List.map_map]
      exact List.map_congr_left fun digit member => (hexDigit_isPlain (areDigits digit member)).1
    rw [plain, List.map_cons, kept, points]
    refine Text.trim_of_forall (List.forall_mem_cons.mpr ⟨by decide, fun point member => ?_⟩)
    obtain ⟨digit, isDigit, rfl⟩ := List.mem_map.mp member
    exact (hexDigit_isPlain (areDigits digit isDigit)).2.1
  have unsigned :
      dropSign (CodePoint.ofChar '-' :: digits.map CodePoint.hexDigit) =
        (true, digits.map CodePoint.hexDigit) :=
    rfl
  have notTooLong : isTooLong 16 (digits.map CodePoint.hexDigit) = false := rfl
  simp only [value?, isPlain, unsigned, dropMark_map_hexDigit areDigits, notTooLong,
    Bool.false_eq_true, if_false, digitsValue?_map_hexDigit someDigits areDigits]
  rfl

end Numeral

namespace Text

/-! ## Numerals of whole numbers -/

/-- A whole number is read back from its numeral. -/
theorem value?_signedHexNumeral (number : Int) :
    Numeral.value? 16 (signedHexNumeral number) = some number := by
  obtain ⟨digits, someDigits, areDigits, written, value⟩ :=
    exists_digits_hexNumeral number.natAbs
  rw [signedHexNumeral, ← written]
  split
  · next isNegative =>
      rw [Numeral.value?_minus areDigits someDigits, value]
      congr 1
      omega
  · next notNegative =>
      rw [Numeral.value?_map_hexDigit areDigits someDigits, value]
      congr 1
      exact Int.natAbs_of_nonneg (Int.not_lt.mp notNegative)

/-- The canonical numerals are those of the whole numbers. -/
theorem isSignedHexNumeral_iff {text : Text} :
    IsSignedHexNumeral text ↔ ∃ number, signedHexNumeral number = text := by
  constructor
  · rintro (isNumeral | ⟨isNumeral, notZero⟩)
    · obtain ⟨number, rfl⟩ := isNumeral.exists_number
      exact ⟨number, if_neg (by omega)⟩
    · obtain ⟨number, rfl⟩ := isNumeral.exists_number
      have positive : 0 < number := Nat.pos_of_ne_zero fun isZero =>
        notZero (by rw [isZero, hexNumeral_zero])
      refine ⟨-number, ?_⟩
      rw [signedHexNumeral, if_pos (by omega), Int.natAbs_neg, Int.natAbs_natCast]
  · rintro ⟨number, rfl⟩
    rw [signedHexNumeral]
    split
    · next isNegative =>
        refine .negative (isHexNumeral_hexNumeral _) fun isZero => ?_
        -- The numeral of zero is read as zero, and no other number is.
        have read := value?_signedHexNumeral number.natAbs
        rw [signedHexNumeral, if_neg (by omega), Int.natAbs_natCast, isZero] at read
        have readZero := value?_signedHexNumeral 0
        rw [signedHexNumeral, if_neg (by omega), Int.natAbs_zero, hexNumeral_zero] at readZero
        have sameNumber := Option.some.inj (readZero.symm.trans read)
        omega
    · exact .natural (isHexNumeral_hexNumeral _)

/-- Twenty bytes take forty digits and a sign. -/
theorem length_signedHexNumeral_le {number : Int} (fits : Hash.FitsSigned 20 number) :
    (signedHexNumeral number).length ≤ 41 := by
  have small : number.natAbs < 16 ^ (39 + 1) := by
    obtain ⟨atLeast, below⟩ := fits
    norm_num at atLeast below ⊢
    omega
  have length := length_hexNumeral_le small
  rw [signedHexNumeral]
  split
  · exact Nat.succ_le_succ length
  · exact Nat.le_succ_of_le length

end Text

namespace Digest

/-- The numerals of the whole numbers that twenty bytes write in two's complement. -/
def digestTexts : Set Text :=
  { text |
    Text.IsSignedHexNumeral text ∧
      ∃ number, Numeral.value? 16 text = some number ∧ -2 ^ 159 ≤ number ∧ number < 2 ^ 159 }

theorem fitsSigned_iff {number : Int} :
    Hash.FitsSigned 20 number ↔ -2 ^ 159 ≤ number ∧ number < 2 ^ 159 := by
  have base : (256 ^ 20 : Nat) = (2 * 2 ^ 159 : Int) := by norm_num
  rw [Hash.FitsSigned, base]
  constructor
  · rintro ⟨atLeast, below⟩
    constructor <;> omega
  · rintro ⟨atLeast, below⟩
    constructor <;> omega

theorem mem_digestTexts_iff {text : Text} :
    text ∈ digestTexts ↔
      ∃ number, Hash.FitsSigned 20 number ∧ Text.signedHexNumeral number = text := by
  constructor
  · rintro ⟨isNumeral, number, read, range⟩
    obtain ⟨other, rfl⟩ := Text.isSignedHexNumeral_iff.mp isNumeral
    cases (Text.value?_signedHexNumeral other).symm.trans read
    exact ⟨number, fitsSigned_iff.mpr range, rfl⟩
  · rintro ⟨number, fits, rfl⟩
    exact ⟨Text.isSignedHexNumeral_iff.mpr ⟨number, rfl⟩, number,
      Text.value?_signedHexNumeral number, fitsSigned_iff.mp fits⟩

/-- What a digest text tells of the hash that it was made of, and what it looks like. -/
structure Restores (hash : Bytes) (text : Text) : Prop where
  /-- The number that the text writes is, in two's complement, the hash. -/
  read : ∃ number, Numeral.value? 16 text = some number ∧ Hash.signedBytes 20 number = hash
  notEmpty : text ≠ []
  noZeroInFront : ∀ rest, text = CodePoint.ofChar '0' :: rest → rest = []
  noZeroAfterSign : ∀ rest, text ≠ CodePoint.ofChar '-' :: CodePoint.ofChar '0' :: rest
  length_le : text.length ≤ 41

section Hash

variable {hash : Bytes} (isHash : hash.length = 20)
include isHash

theorem signedHex_of_length :
    signedHex hash = Text.signedHexNumeral (Hash.signedNumberOf hash) := by
  refine signedHex_eq ?_
  rintro rfl
  cases isHash

theorem ofHashValue_of_length :
    ofHashValue (.bytes hash) =
      .ok (Text.signedHexNumeral (Hash.signedNumberOf hash)) := by
  have fits : hash.length = hashLength := isHash
  change ofHash hash = _
  rw [ofHash, if_pos fits, signedHex_of_length isHash]

theorem fitsSigned_of_length : Hash.FitsSigned 20 (Hash.signedNumberOf hash) := by
  have fits := Hash.fitsSigned_signedNumberOf hash
  rwa [isHash] at fits

theorem signedBytes_of_length : Hash.signedBytes 20 (Hash.signedNumberOf hash) = hash := by
  have written := Hash.signedBytes_signedNumberOf hash
  rwa [isHash] at written

theorem restores_of_length :
    Restores hash (Text.signedHexNumeral (Hash.signedNumberOf hash)) := by
  have isNumeral :
      Text.IsSignedHexNumeral (Text.signedHexNumeral (Hash.signedNumberOf hash)) :=
    Text.isSignedHexNumeral_iff.mpr ⟨_, rfl⟩
  exact {
    read := ⟨_, Text.value?_signedHexNumeral _, signedBytes_of_length isHash⟩
    notEmpty := isNumeral.notEmpty
    noZeroInFront := isNumeral.noZeroInFront
    noZeroAfterSign := isNumeral.noZeroAfterSign
    length_le := Text.length_signedHexNumeral_le (fitsSigned_of_length isHash) }

end Hash

/--
The digest text loses nothing of a hash.

Hashes are in one-to-one correspondence with the canonical numerals of the numbers that
they can be, and the number that a text writes gives the hash back.
-/
theorem ofHashValue_bijOn :
    Set.BijOn (fun hash : Bytes => ofHashValue (.bytes hash)) { hash | hash.length = 20 }
        (Except.ok '' digestTexts) ∧
      ∀ hash text,
        hash.length = 20 →
        ofHashValue (.bytes hash) = .ok text →
        Restores hash text := by
  refine ⟨⟨?mapsTo, ?injective, ?surjective⟩, ?restores⟩
  case mapsTo =>
    intro hash isHash
    exact ⟨_, mem_digestTexts_iff.mpr ⟨_, fitsSigned_of_length isHash, rfl⟩,
      (ofHashValue_of_length isHash).symm⟩
  case injective =>
    intro one oneIsHash other otherIsHash same
    -- The texts are the same, so the numbers that are read from them are.
    have sameText :=
      Except.ok.inj ((ofHashValue_of_length oneIsHash).symm.trans
        (same.trans (ofHashValue_of_length otherIsHash)))
    have sameNumber := Text.value?_signedHexNumeral (Hash.signedNumberOf one)
    rw [sameText, Text.value?_signedHexNumeral] at sameNumber
    rw [← signedBytes_of_length oneIsHash, ← signedBytes_of_length otherIsHash,
      Option.some.inj sameNumber]
  case surjective =>
    rintro _ ⟨text, isDigest, rfl⟩
    obtain ⟨number, fits, rfl⟩ := mem_digestTexts_iff.mp isDigest
    have isHash : (Hash.signedBytes 20 number).length = 20 := Hash.signedBytes_length 20 number
    refine ⟨Hash.signedBytes 20 number, isHash, ?_⟩
    exact (ofHashValue_of_length isHash).trans (by rw [Hash.signedNumberOf_signedBytes fits])
  case restores =>
    intro hash text isHash made
    cases (ofHashValue_of_length isHash).symm.trans made
    exact restores_of_length isHash

/-- The least number of all has the longest text, from which its hash is read back. -/
theorem ofHashValue_bijOn_least :
    let least : Bytes := 0x80 :: List.replicate 19 0
    let text : Text := ("-8" : Text) ++ List.replicate 39 (CodePoint.ofChar '0')
    ofHashValue (.bytes least) = .ok text ∧ text ∈ digestTexts ∧ Restores least text := by
  intro least text
  have made : ofHashValue (.bytes least) = .ok text := by
    have written : signedHex least = text := by decide
    exact congrArg Except.ok written
  obtain ⟨⟨mapsTo, _⟩, restores⟩ := ofHashValue_bijOn
  obtain ⟨other, isDigest, same⟩ := mapsTo (show least.length = 20 by decide)
  cases same.trans made
  exact ⟨made, isDigest, restores least text (by decide) made⟩

end Digest

end SessionHandshake
