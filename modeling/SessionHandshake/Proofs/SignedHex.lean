import Mathlib.Data.List.Induction
import SessionHandshake.Digest
import SessionHandshake.Proofs.Bytes
import SessionHandshake.Proofs.Numeral

namespace SessionHandshake

/-!
# Signed numbers in hexadecimal

The digest of a hash is made byte by byte: every bit is inverted, a carry travels
through the bytes, and the zeros in front of the digits are dropped.  What comes
out is the numeral of one number, the bytes of the hash read in two's complement.
-/

namespace Hash

/-- The first byte counts as often as the bytes after it have values. -/
theorem numberOf_cons (first : UInt8) (rest : Bytes) :
    numberOf (first :: rest) = first.toNat * 256 ^ rest.length + numberOf rest := by
  induction rest using List.reverseRecOn with
  | nil =>
      simp only [numberOf, List.foldl_cons, List.foldl_nil, List.length_nil, Nat.pow_zero]
      omega
  | append_singleton leading last inductionHypothesis =>
      rw [← List.cons_append, numberOf_concat, inductionHypothesis, numberOf_concat,
        List.length_append, List.length_singleton, Nat.pow_succ, Nat.add_mul, Nat.mul_assoc,
        Nat.add_assoc]

/-- The number that bytes write in two's complement, most significant first. -/
def signedNumberOf (bytes : Bytes) : Int :=
  if 2 * numberOf bytes < 256 ^ bytes.length then
    numberOf bytes
  else
    numberOf bytes - (256 ^ bytes.length : Nat)

end Hash

namespace Text

/-- A natural number in hexadecimal. -/
def hexNumeral (number : Nat) : Text :=
  (Nat.toDigits 16 number).map CodePoint.ofChar

/-- A whole number in hexadecimal, with a minus sign if it is negative. -/
def signedHexNumeral (number : Int) : Text :=
  if number < 0 then
    CodePoint.ofChar '-' :: hexNumeral number.natAbs
  else
    hexNumeral number.natAbs

/-- One more digit makes a number sixteen times as large and adds the digit. -/
theorem hexNumeral_concat {number digit : Nat} (positive : 0 < number) (isDigit : digit < 16) :
    hexNumeral (16 * number + digit) = hexNumeral number ++ [CodePoint.hexDigit digit] := by
  have last : CodePoint.ofChar digit.digitChar = CodePoint.hexDigit digit := by
    have checked :
        ∀ digit : Fin 16,
          CodePoint.ofChar (Nat.digitChar digit) = CodePoint.hexDigit digit := by
      decide
    exact checked ⟨digit, isDigit⟩
  rw [hexNumeral, ← Nat.toDigits_append_toDigits (by decide) positive isDigit, List.map_append,
    Nat.toDigits_of_lt_base isDigit, List.map_singleton, last, hexNumeral]

theorem hexNumeral_ne_nil (number : Nat) : hexNumeral number ≠ [] :=
  fun isNil => Nat.toDigits_ne_nil (List.map_eq_nil_iff.mp isNil)

/-- The digits of bytes, two for each. -/
def hexDigits (bytes : Bytes) : List Nat :=
  bytes.flatMap fun byte => [byte.toNat / 16, byte.toNat % 16]

/-- The number that hexadecimal digits write, most significant first. -/
def hexValue (digits : List Nat) : Nat :=
  digits.foldl (fun total digit => 16 * total + digit) 0

theorem hexValue_concat (leading : List Nat) (last : Nat) :
    hexValue (leading ++ [last]) = 16 * hexValue leading + last := by
  simp only [hexValue, List.foldl_append, List.foldl_cons, List.foldl_nil]

theorem ofBytes_eq_map (bytes : Bytes) :
    ofBytes bytes = (hexDigits bytes).map CodePoint.hexDigit := by
  simp only [ofBytes, hexDigits, List.map_flatMap, List.map_cons, List.map_nil]

theorem lt_of_mem_hexDigits
    {bytes : Bytes}
    {digit : Nat}
    (member : digit ∈ hexDigits bytes) :
    digit < 16 := by
  obtain ⟨byte, _, isDigit⟩ := List.mem_flatMap.mp member
  have isByte := byte.toNat_lt
  simp only [List.mem_cons, List.not_mem_nil, or_false] at isDigit
  omega

/-- The digits of bytes write the number of the bytes. -/
theorem hexValue_hexDigits (bytes : Bytes) : hexValue (hexDigits bytes) = Hash.numberOf bytes := by
  induction bytes using List.reverseRecOn with
  | nil =>
      rfl
  | append_singleton leading last inductionHypothesis =>
      have split :
          hexDigits (leading ++ [last]) =
            hexDigits leading ++ [last.toNat / 16] ++ [last.toNat % 16] := by
        simp [hexDigits]
      rw [split, hexValue_concat, hexValue_concat, inductionHypothesis, Hash.numberOf_concat]
      omega

/-- Without the zeros in front, digits are the numeral of their number, and nothing for zero. -/
theorem dropWhile_zero_map_hexDigit
    {digits : List Nat}
    (areDigits : ∀ digit ∈ digits, digit < 16) :
    (digits.map CodePoint.hexDigit).dropWhile (· = CodePoint.ofChar '0') =
      if hexValue digits = 0 then [] else hexNumeral (hexValue digits) := by
  induction digits using List.reverseRecOn with
  | nil =>
      rfl
  | append_singleton leading last inductionHypothesis =>
      have isDigit := areDigits last (List.mem_append_right leading List.mem_cons_self)
      have leadingDropped :=
        inductionHypothesis fun digit member => areDigits digit (List.mem_append_left [last] member)
      rw [List.map_append, List.dropWhile_append, leadingDropped, hexValue_concat,
        List.map_singleton]
      by_cases isZero : hexValue leading = 0
      · have lastDropped :
            ∀ last : Fin 16,
              [CodePoint.hexDigit last].dropWhile (· = CodePoint.ofChar '0') =
                if last.val = 0 then [] else hexNumeral last := by
          decide
        simp only [isZero, if_true, List.isEmpty_nil, Nat.mul_zero, Nat.zero_add]
        exact lastDropped ⟨last, isDigit⟩
      · have positive : 0 < hexValue leading := Nat.pos_of_ne_zero isZero
        have notZero : 16 * hexValue leading + last ≠ 0 := by omega
        rw [if_neg isZero, if_neg notZero, hexNumeral_concat positive isDigit,
          List.isEmpty_eq_false_iff.mpr (hexNumeral_ne_nil _)]
        rfl

end Text

namespace Digest

/-- A magnitude is the numeral of its number. -/
theorem magnitude_eq (bytes : Bytes) : magnitude bytes = Text.hexNumeral (Hash.numberOf bytes) := by
  have significant :
      (Text.ofBytes bytes).dropWhile (· = CodePoint.ofChar '0') =
        if Hash.numberOf bytes = 0 then [] else Text.hexNumeral (Hash.numberOf bytes) := by
    rw [Text.ofBytes_eq_map,
      Text.dropWhile_zero_map_hexDigit fun _ member => Text.lt_of_mem_hexDigits member,
      Text.hexValue_hexDigits]
  simp only [magnitude, significant]
  by_cases isZero : Hash.numberOf bytes = 0
  · simp only [isZero, if_true, List.isEmpty_nil]
    rfl
  · have notEmpty := List.isEmpty_eq_false_iff.mpr (Text.hexNumeral_ne_nil (Hash.numberOf bytes))
    simp only [isZero, if_false, notEmpty, Bool.false_eq_true]

/-! ## Negation -/

theorem increment_length (bytes : Bytes) : (increment bytes).length = bytes.length := by
  induction bytes with
  | nil =>
      rfl
  | cons byte rest inductionHypothesis =>
      rw [increment]
      split
      · rw [List.length_cons, inductionHypothesis, List.length_cons]
      · rfl

/-- The carry out of the last byte is all that is lost when one is added. -/
theorem numberOf_increment (bytes : Bytes) :
    Hash.numberOf (increment bytes).reverse =
      (Hash.numberOf bytes.reverse + 1) % 256 ^ bytes.length := by
  induction bytes with
  | nil =>
      rfl
  | cons byte rest inductionHypothesis =>
      have bound := Hash.numberOf_lt rest.reverse
      rw [List.length_reverse] at bound
      rw [increment, List.reverse_cons, Hash.numberOf_concat, List.length_cons, Nat.pow_succ]
      -- Only a byte of all ones hands the carry on to the bytes before it.
      split
      · next overflows =>
          have isLast : byte.toNat = 255 := congrArg UInt8.toNat overflows
          have carried :
              Hash.numberOf rest.reverse * 256 + byte.toNat + 1 =
                (Hash.numberOf rest.reverse + 1) * 256 := by
            omega
          rw [List.reverse_cons, Hash.numberOf_concat, inductionHypothesis, carried,
            Nat.mul_mod_mul_right, UInt8.toNat_zero, Nat.add_zero]
      · next fits =>
          have isByte := byte.toNat_lt
          have notLast : byte.toNat ≠ 255 := fun isLast => fits (UInt8.toNat_inj.mp isLast)
          have added : (byte + 1).toNat = byte.toNat + 1 := by
            rw [UInt8.toNat_add]
            exact Nat.mod_eq_of_lt (by change byte.toNat + 1 < 256; omega)
          rw [List.reverse_cons, Hash.numberOf_concat, added, Nat.mod_eq_of_lt (by omega)]
          omega

/-- A number and the number with every bit inverted add up to all bits set. -/
theorem numberOf_inverted (bytes : Bytes) :
    Hash.numberOf (bytes.map (· ^^^ 0xff)) + Hash.numberOf bytes + 1 = 256 ^ bytes.length := by
  induction bytes using List.reverseRecOn with
  | nil =>
      rfl
  | append_singleton leading last inductionHypothesis =>
      have isByte := last.toNat_lt
      have flipped : last ^^^ 0xff = ~~~last := UInt8.xor_neg_one
      have inverted : (last ^^^ 0xff).toNat = 255 - last.toNat := by
        rw [flipped, UInt8.toNat_not]
        rfl
      rw [List.map_append, List.map_singleton, Hash.numberOf_concat, Hash.numberOf_concat,
        List.length_append, List.length_singleton, Nat.pow_succ, ← inductionHypothesis]
      omega

theorem length_twosComplement (bytes : Bytes) :
    (twosComplement bytes).length = bytes.length := by
  rw [twosComplement, List.length_reverse, increment_length, List.length_reverse, List.length_map]

/-- The negation of a number is what is missing to the next power of its base. -/
theorem numberOf_twosComplement (bytes : Bytes) :
    Hash.numberOf (twosComplement bytes) =
      (256 ^ bytes.length - Hash.numberOf bytes) % 256 ^ bytes.length := by
  have inverted := numberOf_inverted bytes
  have missing :
      Hash.numberOf (bytes.map (· ^^^ 0xff)) + 1 =
        256 ^ bytes.length - Hash.numberOf bytes := by
    omega
  rw [twosComplement, numberOf_increment, List.reverse_reverse, List.length_reverse,
    List.length_map, missing]

/-- The first bit is set exactly if the bytes write at least half of the power of their base. -/
theorem isNegative_iff {bytes : Bytes} (notEmpty : bytes ≠ []) :
    isNegative bytes = true ↔ 256 ^ bytes.length ≤ 2 * Hash.numberOf bytes := by
  cases bytes with
  | nil =>
      exact (notEmpty rfl).elim
  | cons first rest =>
      have bound := Hash.numberOf_lt rest
      have isByte := first.toNat_lt
      rw [isNegative, List.headD_cons, decide_eq_true_eq, Hash.numberOf_cons, List.length_cons,
        Nat.pow_succ]
      -- With the first bit set, the first byte alone makes up half of the power.
      generalize 256 ^ rest.length = base at bound ⊢
      constructor
      · intro isHigh
        have atLeast : 0x80 * base ≤ first.toNat * base := Nat.mul_le_mul_right base isHigh
        omega
      · intro isHalf
        by_contra isLow
        have atMost : first.toNat * base ≤ 0x7f * base :=
          Nat.mul_le_mul_right base (by omega)
        omega

/-- Bytes are written as the numeral of their number in two's complement. -/
theorem signedHex_eq {bytes : Bytes} (notEmpty : bytes ≠ []) :
    signedHex bytes = Text.signedHexNumeral (Hash.signedNumberOf bytes) := by
  have bound := Hash.numberOf_lt bytes
  rw [signedHex, Text.signedHexNumeral, Hash.signedNumberOf]
  by_cases isHalf : 256 ^ bytes.length ≤ 2 * Hash.numberOf bytes
  · -- Half of the power is its own negation, so the least number needs no case of its own.
    have negated :
        Hash.numberOf (twosComplement bytes) = 256 ^ bytes.length - Hash.numberOf bytes := by
      rw [numberOf_twosComplement]
      exact Nat.mod_eq_of_lt (by omega)
    rw [if_pos ((isNegative_iff notEmpty).mpr isHalf), if_neg (Nat.not_lt.mpr isHalf),
      if_pos (by omega), magnitude_eq, negated]
    congr 2
    omega
  · have isPositive : ¬ isNegative bytes = true := fun isNegative =>
      isHalf ((isNegative_iff notEmpty).mp isNegative)
    rw [if_neg isPositive, if_pos (Nat.not_le.mp isHalf), if_neg (by omega), magnitude_eq,
      Int.natAbs_natCast]

/--
A hash of twenty bytes is written as the hexadecimal numeral of the number that it is in
two's complement; bytes of any other length are not a hash.
-/
theorem ofHashValue_bytes (hash : Bytes) :
    ofHashValue (.bytes hash) =
      if hash.length = 20 then
        .ok (Text.signedHexNumeral (Hash.signedNumberOf hash))
      else
        .error (.badValue (.digestLength hash.length)) := by
  change ofHash hash = _
  rw [ofHash, hashLength]
  by_cases fits : hash.length = 20
  · have notEmpty : hash ≠ [] := by
      rintro rfl
      cases fits
    rw [if_pos fits, if_pos fits, signedHex_eq notEmpty]
  · rw [if_neg fits, if_neg fits]

/-- Zero, minus one, and the least number, whose negation takes a bit more. -/
example :
    signedHex (List.replicate 20 0) = "0" ∧
      signedHex (List.replicate 20 0xff) = "-1" ∧
      signedHex (0x80 :: List.replicate 19 0) =
        ("-8" : Text) ++ List.replicate 39 (CodePoint.ofChar '0') := by
  decide

end Digest

end SessionHandshake
