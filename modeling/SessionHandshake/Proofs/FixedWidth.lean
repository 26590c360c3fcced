import SessionHandshake.Proofs.SignedHex
import SessionHandshake.Text.Numeral

namespace SessionHandshake

/-!
# Hexadecimal numerals of a fixed width

Digits in base sixteen are read as one number, and the number is written with zeros in
front to a width.  As long as the width is the number of digits, the digits come back,
zeros in front included.
-/

namespace Text

theorem trim_of_forall {drops : CodePoint → Bool} {text : Text}
    (kept : ∀ point ∈ text, drops point = false) :
    trim drops text = text := by
  have untouched : ∀ text : Text,
      (∀ point ∈ text, drops point = false) → text.dropWhile drops = text := by
    intro text kept
    cases text with
    | nil =>
        rfl
    | cons first rest =>
        refine List.dropWhile_cons_of_neg ?_
        rw [kept first List.mem_cons_self]
        exact Bool.false_ne_true
  have reversed : ∀ point ∈ text.reverse, drops point = false :=
    fun point member => kept point (List.mem_reverse.mp member)
  rw [trim, untouched text kept, untouched text.reverse reversed, List.reverse_reverse]

theorem hexValue_lt {digits : List Nat} (areDigits : ∀ digit ∈ digits, digit < 16) :
    hexValue digits < 16 ^ digits.length := by
  induction digits using List.reverseRecOn with
  | nil =>
      decide
  | append_singleton leading last inductionHypothesis =>
      have bound :=
        inductionHypothesis fun digit member => areDigits digit (List.mem_append_left [last] member)
      have isDigit := areDigits last (List.mem_append_right leading List.mem_cons_self)
      rw [hexValue_concat, List.length_append, List.length_singleton, Nat.pow_succ]
      omega

/-- Digits are written back as they were read. -/
theorem hexPadded_hexValue
    {digits : List Nat}
    (someDigits : digits ≠ [])
    (areDigits : ∀ digit ∈ digits, digit < 16) :
    hexPadded digits.length (hexValue digits) = digits.map CodePoint.hexDigit := by
  induction digits using List.reverseRecOn with
  | nil =>
      exact (someDigits rfl).elim
  | append_singleton leading last inductionHypothesis =>
      have isDigit := areDigits last (List.mem_append_right leading List.mem_cons_self)
      by_cases someLeading : leading = []
      · rw [someLeading, List.nil_append, hexValue, List.foldl_cons, List.foldl_nil, Nat.mul_zero,
          Nat.zero_add, hexPadded, digits_of_lt isDigit]
        rfl
      · have written := inductionHypothesis someLeading fun digit member =>
          areDigits digit (List.mem_append_left [last] member)
        rw [hexValue_concat, List.length_append, List.length_singleton,
          hexPadded_concat (List.length_pos_iff.mpr someLeading) isDigit, written,
          List.map_append, List.map_singleton]

end Text

namespace Numeral

/-- What the reader of numerals asks of a digit in base sixteen. -/
theorem hexDigit_isPlain {digit : Nat} (isDigit : digit < 16) :
    plainPoint (CodePoint.hexDigit digit) = CodePoint.hexDigit digit ∧
      isPlainBlank (CodePoint.hexDigit digit) = false ∧
      CodePoint.hexDigit digit ∉ Text.ofString "+-_" ∧
      (CodePoint.hexDigit digit).isOneOf (markLetters 16) = false := by
  have checked :
      ∀ digit : Fin 16,
        plainPoint (CodePoint.hexDigit digit) = CodePoint.hexDigit digit ∧
          isPlainBlank (CodePoint.hexDigit digit) = false ∧
          CodePoint.hexDigit digit ∉ Text.ofString "+-_" ∧
          (CodePoint.hexDigit digit).isOneOf (markLetters 16) = false := by
    decide
  exact checked ⟨digit, isDigit⟩

theorem digit?_hexDigit {digit : Nat} (isDigit : digit < 16) :
    digit? 16 (CodePoint.hexDigit digit) = some digit := by
  rw [digit?, CodePoint.hexDigit_hexValue? isDigit]
  exact Option.filter_some_pos (decide_eq_true isDigit)

/-- Digits count sixteenfold for each digit that follows, whatever went before. -/
theorem digitsValue?_map_hexDigit
    {digits : List Nat}
    (someDigits : digits ≠ [])
    (areDigits : ∀ digit ∈ digits, digit < 16)
    (total : Nat) :
    digitsValue? 16 total (digits.map CodePoint.hexDigit) =
      some (digits.foldl (fun total digit => 16 * total + digit) total) := by
  induction digits generalizing total with
  | nil =>
      exact (someDigits rfl).elim
  | cons first rest inductionHypothesis =>
      have isFirst := digit?_hexDigit (areDigits first List.mem_cons_self)
      cases rest with
      | nil =>
          simp only [List.map_cons, List.map_nil, digitsValue?, isFirst, Option.map_some,
            List.foldl_cons, List.foldl_nil, Nat.mul_comm]
      | cons second others =>
          have restDigits : ∀ digit ∈ second :: others, digit < 16 :=
            fun digit member => areDigits digit (List.mem_cons_of_mem first member)
          have notUnderscore : CodePoint.hexDigit second ≠ CodePoint.ofChar '_' := by
            intro isUnderscore
            refine (hexDigit_isPlain (restDigits second List.mem_cons_self)).2.2.1 ?_
            rw [isUnderscore]
            decide
          simp only [List.map_cons, digitsValue?, isFirst, notUnderscore, if_false]
          exact (inductionHypothesis (List.cons_ne_nil second others) restDigits
            (total * 16 + first)).trans (by rw [Nat.mul_comm total 16]; rfl)

section Digits

variable {digits : List Nat} (areDigits : ∀ digit ∈ digits, digit < 16)
include areDigits

theorem plain_map_hexDigit :
    plain (digits.map CodePoint.hexDigit) = digits.map CodePoint.hexDigit := by
  have isPlain : ∀ digit ∈ digits,
      (plainPoint ∘ CodePoint.hexDigit) digit = CodePoint.hexDigit digit :=
    fun digit member => (hexDigit_isPlain (areDigits digit member)).1
  rw [plain, List.map_map, List.map_congr_left isPlain]
  refine Text.trim_of_forall fun point member => ?_
  obtain ⟨digit, isDigit, rfl⟩ := List.mem_map.mp member
  exact (hexDigit_isPlain (areDigits digit isDigit)).2.1

theorem dropSign_map_hexDigit :
    dropSign (digits.map CodePoint.hexDigit) = (false, digits.map CodePoint.hexDigit) := by
  cases digits with
  | nil =>
      rfl
  | cons first rest =>
      have noSign := (hexDigit_isPlain (areDigits first List.mem_cons_self)).2.2.1
      have noPlus : CodePoint.hexDigit first ≠ CodePoint.ofChar '+' := by
        intro isPlus
        exact noSign (isPlus ▸ by decide)
      have noMinus : CodePoint.hexDigit first ≠ CodePoint.ofChar '-' := by
        intro isMinus
        exact noSign (isMinus ▸ by decide)
      rw [List.map_cons, dropSign, if_neg noPlus, if_neg noMinus]

theorem dropMark_map_hexDigit :
    dropMark 16 (digits.map CodePoint.hexDigit) = digits.map CodePoint.hexDigit := by
  match digits, areDigits with
  | [], _ =>
      rfl
  | [_], _ =>
      rfl
  | first :: second :: rest, areDigits =>
      have isDigit := areDigits second (List.mem_cons_of_mem first List.mem_cons_self)
      have noMark := (hexDigit_isPlain isDigit).2.2.2
      simp only [List.map_cons, dropMark, noMark, Bool.false_eq_true, and_false, if_false]

/-- Digits of base sixteen, at least one, are read as the number that they write. -/
theorem value?_map_hexDigit (someDigits : digits ≠ []) :
    value? 16 (digits.map CodePoint.hexDigit) = some (Int.ofNat (Text.hexValue digits)) := by
  have notTooLong : isTooLong 16 (digits.map CodePoint.hexDigit) = false := rfl
  simp only [value?, plain_map_hexDigit areDigits, dropSign_map_hexDigit areDigits,
    dropMark_map_hexDigit areDigits, notTooLong, Bool.false_eq_true, if_false,
    digitsValue?_map_hexDigit someDigits areDigits]
  rfl

end Digits

end Numeral

end SessionHandshake
