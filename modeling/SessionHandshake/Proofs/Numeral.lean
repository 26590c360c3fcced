import Mathlib.Algebra.Ring.Nat
import SessionHandshake.Text.Basic

namespace SessionHandshake

/-!
# Numbers in digits

A digit is read back from the letter or the figure that writes it, and a whole
number from its decimal digits, of which there are as many as its size needs.  In
base sixteen a number may be filled with zeros to a width.
-/

namespace CodePoint

theorem hexDigit_hexValue? {digit : Nat} (small : digit < 16) :
    (hexDigit digit).hexValue? = some digit := by
  have checked : ∀ digit : Fin 16, (hexDigit digit).hexValue? = some digit.val := by decide
  exact checked ⟨digit, small⟩

theorem isDigit_hexDigit {digit : Nat} (small : digit < 10) : (hexDigit digit).isDigit = true := by
  have checked : ∀ digit : Fin 10, (hexDigit digit).isDigit = true := by decide
  exact checked ⟨digit, small⟩

end CodePoint

namespace Text

theorem digits_of_lt {base number : Nat} (isDigit : number < base) :
    digits base number = [number] := by
  rw [digits, dif_neg (by omega)]

theorem digits_of_le {base number : Nat} (isBase : 1 < base) (notLess : base ≤ number) :
    digits base number = digits base (number / base) ++ [number % base] := by
  rw [digits, dif_pos ⟨isBase, notLess⟩]

theorem decimalValue_hexDigit {digit : Nat} (small : digit < 10) :
    decimalValue [CodePoint.hexDigit digit] = digit := by
  have checked : ∀ digit : Fin 10, decimalValue [CodePoint.hexDigit digit] = digit.val := by decide
  exact checked ⟨digit, small⟩

theorem ofNat_of_lt {number : Nat} (isDigit : number < 10) :
    ofNat number = [CodePoint.hexDigit number] := by
  rw [ofNat, digits_of_lt isDigit]
  rfl

theorem ofNat_of_le {number : Nat} (notDigit : 10 ≤ number) :
    ofNat number = ofNat (number / 10) ++ [CodePoint.hexDigit (number % 10)] := by
  rw [ofNat, digits_of_le (by decide) notDigit, List.map_append]
  rfl

theorem decimalValue_concat (leading : Text) (last : CodePoint) :
    decimalValue (leading ++ [last]) = 10 * decimalValue leading + decimalValue [last] := by
  simp only [decimalValue, List.foldl_append, List.foldl_cons, List.foldl_nil, Nat.mul_zero,
    Nat.zero_add]

/-- A number is read back from its decimal digits. -/
theorem decimalValue_ofNat (number : Nat) : decimalValue (ofNat number) = number := by
  induction number using Nat.strongRecOn with
  | ind number inductionHypothesis =>
      rcases Nat.lt_or_ge number 10 with isDigit | notDigit
      · rw [ofNat_of_lt isDigit]
        exact decimalValue_hexDigit isDigit
      · rw [ofNat_of_le notDigit, decimalValue_concat, inductionHypothesis _ (by omega),
          decimalValue_hexDigit (Nat.mod_lt number (by decide))]
        omega

theorem isDigit_ofNat (number : Nat) : ∀ point ∈ ofNat number, point.isDigit = true := by
  induction number using Nat.strongRecOn with
  | ind number inductionHypothesis =>
      intro point member
      rcases Nat.lt_or_ge number 10 with isDigit | notDigit
      · rw [ofNat_of_lt isDigit] at member
        rw [List.mem_singleton.mp member]
        exact CodePoint.isDigit_hexDigit isDigit
      · rw [ofNat_of_le notDigit] at member
        rcases List.mem_append.mp member with isLeading | isLast
        · exact inductionHypothesis _ (by omega) point isLeading
        · rw [List.mem_singleton.mp isLast]
          exact CodePoint.isDigit_hexDigit (Nat.mod_lt number (by decide))

theorem length_ofNat_le {number : Nat} (count : Nat) (fits : number < 10 ^ (count + 1)) :
    (ofNat number).length ≤ count + 1 := by
  induction count generalizing number with
  | zero =>
      rw [ofNat_of_lt fits]
      exact Nat.le_refl 1
  | succ count inductionHypothesis =>
      rcases Nat.lt_or_ge number 10 with isDigit | notDigit
      · rw [ofNat_of_lt isDigit, List.length_singleton]
        omega
      · have quotientFits : number / 10 < 10 ^ (count + 1) :=
          Nat.div_lt_of_lt_mul (by rwa [Nat.pow_succ, Nat.mul_comm] at fits)
        rw [ofNat_of_le notDigit, List.length_append, List.length_singleton]
        exact Nat.succ_le_succ (inductionHypothesis quotientFits)

/-- A zero of some width is written with zeros alone. -/
theorem hexPadded_zero {width : Nat} (someWidth : 0 < width) :
    hexPadded width 0 = List.replicate width (CodePoint.ofChar '0') := by
  have isZero : (digits 16 0).map CodePoint.hexDigit = [CodePoint.ofChar '0'] := by
    rw [digits_of_lt (by decide)]
    decide
  obtain ⟨others, rfl⟩ := Nat.exists_eq_add_one_of_ne_zero (Nat.ne_of_gt someWidth)
  rw [hexPadded, isZero, List.replicate_succ']
  rfl

/-- One more digit takes one more place. -/
theorem hexPadded_concat {width number digit : Nat} (someWidth : 0 < width) (isDigit : digit < 16) :
    hexPadded (width + 1) (16 * number + digit) =
      hexPadded width number ++ [CodePoint.hexDigit digit] := by
  rcases Nat.eq_zero_or_pos number with rfl | positive
  · rw [hexPadded_zero someWidth, Nat.mul_zero, Nat.zero_add, hexPadded, digits_of_lt isDigit]
    rfl
  · have quotient : (16 * number + digit) / 16 = number := by omega
    have remainder : (16 * number + digit) % 16 = digit := by omega
    rw [hexPadded, digits_of_le (by decide) (by omega), quotient, remainder, List.map_append,
      List.map_singleton, List.length_append, List.length_singleton, Nat.add_sub_add_right,
      hexPadded, List.append_assoc]

theorem ofNat_ne_nil (number : Nat) : ofNat number ≠ [] := by
  rcases Nat.lt_or_ge number 10 with isDigit | notDigit
  · rw [ofNat_of_lt isDigit]
    exact List.cons_ne_nil _ _
  · rw [ofNat_of_le notDigit]
    exact List.append_ne_nil_of_right_ne_nil _ (List.cons_ne_nil _ _)

end Text

end SessionHandshake
