import Mathlib.Algebra.Ring.Nat
import Mathlib.Data.List.Induction
import SessionHandshake.Key.Der

namespace SessionHandshake

/-!
# Numbers as bytes

A number is written in base 256 in two ways: with as many bytes as it takes, or
with a given number of them.  Reading gives the number back in either case, and
bytes of a given length are the only ones that write their number.
-/

namespace Hash

theorem numberOf_concat (bytes : Bytes) (last : UInt8) :
    numberOf (bytes ++ [last]) = numberOf bytes * 256 + last.toNat := by
  simp only [numberOf, List.foldl_append, List.foldl_cons, List.foldl_nil]

theorem numberOf_zero_cons (bytes : Bytes) : numberOf (0 :: bytes) = numberOf bytes :=
  rfl

theorem numberOf_lt (bytes : Bytes) : numberOf bytes < 256 ^ bytes.length := by
  induction bytes using List.reverseRecOn with
  | nil =>
      decide
  | append_singleton leading last inductionHypothesis =>
      have isByte := last.toNat_lt
      rw [numberOf_concat, List.length_append, List.length_singleton, Nat.pow_succ]
      omega

theorem bigEndian_length (count number : Nat) : (bigEndian count number).length = count := by
  simp [bigEndian, littleEndian]

/-- The last byte is the remainder, and the bytes before it write the quotient. -/
theorem bigEndian_succ (count number : Nat) :
    bigEndian (count + 1) number =
      bigEndian count (number / 256) ++ [UInt8.ofNat (number % 256)] := by
  have digits :
      littleEndian (count + 1) number =
        UInt8.ofNat (number % 256) :: littleEndian count (number / 256) := by
    simp only [littleEndian, List.range_succ_eq_map, List.map_cons, List.map_map, Nat.pow_eq,
      Nat.pow_zero, Nat.div_one, List.cons.injEq, true_and]
    apply List.map_congr_left
    intro index _
    simp only [Function.comp_apply, Nat.succ_eq_add_one, Nat.pow_succ, Nat.div_div_eq_div_mul,
      Nat.mul_comm]
  rw [bigEndian, digits, List.reverse_cons, bigEndian]

/-- Reading what was written with a number of bytes keeps what fits into them. -/
theorem numberOf_bigEndian (count number : Nat) :
    numberOf (bigEndian count number) = number % 256 ^ count := by
  induction count generalizing number with
  | zero =>
      rw [Nat.pow_zero, Nat.mod_one]
      rfl
  | succ count inductionHypothesis =>
      have isByte : (UInt8.ofNat (number % 256)).toNat = number % 256 := by
        rw [UInt8.toNat_ofNat']
        omega
      rw [bigEndian_succ, numberOf_concat, inductionHypothesis, isByte, Nat.pow_succ,
        Nat.mul_comm (256 ^ count), Nat.mod_mul]
      omega

theorem numberOf_bigEndian_of_lt {count number : Nat} (fits : number < 256 ^ count) :
    numberOf (bigEndian count number) = number := by
  rw [numberOf_bigEndian, Nat.mod_eq_of_lt fits]

/-- Bytes are the only ones of their length that write their number. -/
theorem bigEndian_numberOf (bytes : Bytes) :
    bigEndian bytes.length (numberOf bytes) = bytes := by
  induction bytes using List.reverseRecOn with
  | nil =>
      rfl
  | append_singleton leading last inductionHypothesis =>
      have isByte := last.toNat_lt
      have quotient : (numberOf leading * 256 + last.toNat) / 256 = numberOf leading := by
        omega
      have remainder : (numberOf leading * 256 + last.toNat) % 256 = last.toNat := by
        omega
      rw [numberOf_concat, List.length_append, List.length_singleton, bigEndian_succ, quotient,
        remainder, inductionHypothesis, UInt8.ofNat_toNat]

end Hash

namespace Der

theorem significantBytes_of_lt {number : Nat} (isByte : number < 256) :
    significantBytes number = [UInt8.ofNat number] := by
  rw [significantBytes, Text.digits, dif_neg (by omega)]
  rfl

theorem significantBytes_of_le {number : Nat} (isLonger : 256 ≤ number) :
    significantBytes number =
      significantBytes (number / 256) ++ [UInt8.ofNat (number % 256)] := by
  rw [significantBytes, Text.digits, dif_pos ⟨by decide, isLonger⟩, List.map_append]
  rfl

/-- What is true of one byte and stays true with one byte more is true of every number. -/
theorem significantBytes_induction
    (holds : Nat → Bytes → Prop)
    (single : ∀ number, number < 256 → holds number [UInt8.ofNat number])
    (longer :
      ∀ number,
        256 ≤ number →
        holds (number / 256) (significantBytes (number / 256)) →
        holds number (significantBytes (number / 256) ++ [UInt8.ofNat (number % 256)]))
    (number : Nat) :
    holds number (significantBytes number) := by
  induction number using Nat.strongRecOn with
  | ind number inductionHypothesis =>
      by_cases isByte : number < 256
      · rw [significantBytes_of_lt isByte]
        exact single number isByte
      · have isLonger : 256 ≤ number := Nat.not_lt.mp isByte
        rw [significantBytes_of_le isLonger]
        exact longer number isLonger (inductionHypothesis (number / 256) (by omega))

theorem numberOf_significantBytes (number : Nat) :
    Hash.numberOf (significantBytes number) = number := by
  refine significantBytes_induction (fun number bytes => Hash.numberOf bytes = number)
    ?_ ?_ number
  · intro number isByte
    have same : (UInt8.ofNat number).toNat = number := by
      rw [UInt8.toNat_ofNat']
      omega
    exact (Nat.zero_add _).trans same
  · intro number _ quotient
    have same : (UInt8.ofNat (number % 256)).toNat = number % 256 := by
      rw [UInt8.toNat_ofNat']
      omega
    rw [Hash.numberOf_concat, quotient, same]
    omega

/-- The first byte of a number is not zero, unless the number is. -/
theorem significantBytes_head
    {number : Nat}
    (positive : number ≠ 0) :
    ∃ first rest, significantBytes number = first :: rest ∧ first ≠ 0 := by
  refine significantBytes_induction
    (fun number bytes => number ≠ 0 → ∃ first rest, bytes = first :: rest ∧ first ≠ 0)
    ?_ ?_ number positive
  · intro number isByte positive
    refine ⟨UInt8.ofNat number, [], rfl, ?_⟩
    intro isZero
    have same : (UInt8.ofNat number).toNat = number := by
      rw [UInt8.toNat_ofNat']
      omega
    rw [isZero] at same
    exact positive same.symm
  · intro number isLonger quotient _
    obtain ⟨first, rest, split, notZero⟩ := quotient (by omega)
    exact ⟨first, rest ++ [UInt8.ofNat (number % 256)], by rw [split]; rfl, notZero⟩

theorem significantBytes_ne_nil (number : Nat) : significantBytes number ≠ [] := by
  refine significantBytes_induction (fun _ bytes => bytes ≠ []) ?_ ?_ number
  · intro number _
    exact List.cons_ne_nil _ _
  · intro number _ _
    exact List.append_ne_nil_of_right_ne_nil _ (List.cons_ne_nil _ _)

theorem significantBytes_length_le
    {count number : Nat}
    (fits : number < 256 ^ (count + 1)) :
    (significantBytes number).length ≤ count + 1 := by
  induction count generalizing number with
  | zero =>
      rw [significantBytes_of_lt fits]
      exact Nat.le_refl 1
  | succ count inductionHypothesis =>
      by_cases isByte : number < 256
      · rw [significantBytes_of_lt isByte, List.length_singleton]
        omega
      · have quotientFits : number / 256 < 256 ^ (count + 1) :=
          Nat.div_lt_of_lt_mul (by rwa [Nat.pow_succ, Nat.mul_comm] at fits)
        rw [significantBytes_of_le (Nat.not_lt.mp isByte), List.length_append,
          List.length_singleton]
        exact Nat.succ_le_succ (inductionHypothesis quotientFits)

end Der

end SessionHandshake
