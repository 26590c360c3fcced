import SessionHandshake.Proofs.Utf8
import SessionHandshake.Transport.Percent

namespace SessionHandshake

/-!
# Texts that an address leaves alone

A text made of address points and of escapes of bytes that need them is its own
usual form, wherever in an address it stands.  A mark that is no part of an
escape separates an address into two parts that are normalized one by one.
-/

namespace CodePoint

theorem mem_range_of_isBetween {point : CodePoint} {first last : Char}
    (between : point.isBetween first last = true) :
    first.toNat ≤ point.value ∧ point.value ≤ last.toNat := by
  simpa only [isBetween, Bool.and_eq_true, decide_eq_true_eq] using between

theorem isOneOf_iff {point : CodePoint} {candidates : String} :
    point.isOneOf candidates = true ↔ point ∈ Text.ofString candidates := by
  simp only [isOneOf, Text.ofString, List.any_eq_true, List.mem_map, decide_eq_true_eq,
    eq_comm (a := point)]

theorem isOneOf_eq_false_iff {point : CodePoint} {candidates : String} :
    point.isOneOf candidates = false ↔ point ∉ Text.ofString candidates := by
  rw [← isOneOf_iff, Bool.not_eq_true]

/-- A property of all points of ASCII can be checked point by point. -/
theorem forall_ascii
    (holds : CodePoint → Prop)
    (checked : ∀ number : Fin 128, holds (ofNat number))
    {point : CodePoint}
    (isAscii : point.value < 128) :
    holds point := by
  rw [← ofNat_value point]
  exact checked ⟨point.value, isAscii⟩

end CodePoint

namespace Percent

theorem upperDigit_hexValue? {digit : Nat} (small : digit < 16) :
    (upperDigit digit).hexValue? = some digit := by
  have checked : ∀ digit : Fin 16, (upperDigit digit).hexValue? = some digit.val := by decide
  exact checked ⟨digit, small⟩

theorem upperDigit_isUnreserved {digit : Nat} (small : digit < 16) :
    isUnreserved (upperDigit digit) = true := by
  have checked : ∀ digit : Fin 16, isUnreserved (upperDigit digit) = true := by decide
  exact checked ⟨digit, small⟩

theorem upperDigit_value_lt {digit : Nat} (small : digit < 16) :
    (upperDigit digit).value < 0x80 := by
  have checked : ∀ digit : Fin 16, (upperDigit digit).value < 0x80 := by decide
  exact checked ⟨digit, small⟩

theorem upperDigit_ne_sign {digit : Nat} (small : digit < 16) : upperDigit digit ≠ sign := by
  have checked : ∀ digit : Fin 16, upperDigit digit ≠ sign := by decide
  exact checked ⟨digit, small⟩

theorem anyHexValue?_upperDigit {digit : Nat} (small : digit < 16) :
    anyHexValue? (upperDigit digit) = some digit := by
  rw [anyHexValue?, Numeral.plainPoint, if_pos (upperDigit_value_lt small)]
  exact upperDigit_hexValue? small

/-- The two digits of a byte. -/
theorem byte_digits (byte : UInt8) :
    byte.toNat / 16 < 16 ∧ byte.toNat % 16 < 16 ∧
      16 * (byte.toNat / 16) + byte.toNat % 16 = byte.toNat := by
  have isByte := byte.toNat_lt
  omega

theorem isOneOf_value_lt
    {point : CodePoint}
    {candidates : String}
    (areAscii : ∀ mark ∈ Text.ofString candidates, mark.value < 0x80)
    (isOne : point.isOneOf candidates = true) :
    point.value < 0x80 :=
  areAscii point (CodePoint.isOneOf_iff.mp isOne)

theorem isUnreserved_value_lt {point : CodePoint} (unreserved : isUnreserved point = true) :
    point.value < 0x80 := by
  simp only [isUnreserved, CodePoint.isLetter, CodePoint.isDigit, Bool.or_eq_true] at unreserved
  rcases unreserved with ((isLower | isUpper) | isDigit) | isMark
  · exact Nat.lt_of_le_of_lt (CodePoint.mem_range_of_isBetween isLower).2 (by decide)
  · exact Nat.lt_of_le_of_lt (CodePoint.mem_range_of_isBetween isUpper).2 (by decide)
  · exact Nat.lt_of_le_of_lt (CodePoint.mem_range_of_isBetween isDigit).2 (by decide)
  · exact isOneOf_value_lt (by decide) isMark

theorem isAddressPoint_value_lt {point : CodePoint} (isPoint : isAddressPoint point = true) :
    point.value < 0x80 := by
  rcases Bool.or_eq_true_iff.mp isPoint with unreserved | isMark
  · exact isUnreserved_value_lt unreserved
  · exact isOneOf_value_lt (by decide) isMark

theorem ne_sign_of_isAddressPoint {point : CodePoint} (isPoint : isAddressPoint point = true) :
    point ≠ sign := by
  rintro rfl
  exact absurd isPoint (by decide)

/-! ## One unit at the front -/

theorem hasFalseEscape_cons_of_ne_sign
    {point : CodePoint}
    (notSign : point ≠ sign)
    (rest : Text) :
    hasFalseEscape (point :: rest) = hasFalseEscape rest := by
  match rest with
  | [] =>
      rfl
  | [_] =>
      rfl
  | first :: second :: others =>
      rw [hasFalseEscape, decide_eq_false notSign, Bool.false_and, Bool.false_or]

theorem decodeUnreserved_nil (digit? : CodePoint → Option Nat) : decodeUnreserved digit? [] = [] :=
  rfl

theorem decodeUnreserved_cons_of_ne_sign
    (digit? : CodePoint → Option Nat)
    {point : CodePoint}
    (notSign : point ≠ sign)
    (rest : Text) :
    decodeUnreserved digit? (point :: rest) = point :: decodeUnreserved digit? rest := by
  match rest with
  | [] =>
      rfl
  | [_] =>
      rfl
  | first :: second :: others =>
      rw [decodeUnreserved, if_neg notSign]

theorem bytesOf_cons_of_ne_sign
    {point : CodePoint}
    (notSign : point ≠ sign)
    (rest : Text) :
    bytesOf (point :: rest) = point.utf8 ++ bytesOf rest := by
  match rest with
  | [] =>
      rfl
  | [_] =>
      rfl
  | first :: second :: others =>
      rw [bytesOf, if_neg notSign]

theorem hasFalseEscape_escape_append (byte : UInt8) (rest : Text) :
    hasFalseEscape (escape byte ++ rest) = hasFalseEscape rest := by
  obtain ⟨isHigh, isLow, _⟩ := byte_digits byte
  have isPair :
      isFalsePair (upperDigit (byte.toNat / 16)) (upperDigit (byte.toNat % 16)) = false := by
    rw [isFalsePair, anyHexValue?_upperDigit isHigh, anyHexValue?_upperDigit isLow]
    exact Bool.and_false _
  rw [escape, List.cons_append, List.cons_append, List.singleton_append, hasFalseEscape, isPair,
    Bool.and_false, Bool.false_or, hasFalseEscape_cons_of_ne_sign (upperDigit_ne_sign isHigh),
    hasFalseEscape_cons_of_ne_sign (upperDigit_ne_sign isLow)]

theorem decodeUnreserved_escape_append
    {byte : UInt8}
    (needed : isUnreserved (CodePoint.ofNat byte.toNat) = false)
    (rest : Text) :
    decodeUnreserved anyHexValue? (escape byte ++ rest) =
      escape byte ++ decodeUnreserved anyHexValue? rest := by
  obtain ⟨isHigh, isLow, joined⟩ := byte_digits byte
  rw [escape, List.cons_append, List.cons_append, List.singleton_append, decodeUnreserved,
    if_pos rfl, anyHexValue?_upperDigit isHigh, anyHexValue?_upperDigit isLow]
  simp only [joined, needed, Bool.false_eq_true, if_false]
  rfl

theorem bytesOf_escape_append (byte : UInt8) (rest : Text) :
    bytesOf (escape byte ++ rest) = byte :: bytesOf rest := by
  obtain ⟨isHigh, isLow, joined⟩ := byte_digits byte
  rw [escape, List.cons_append, List.cons_append, List.singleton_append, bytesOf, if_pos rfl,
    upperDigit_hexValue? isHigh, upperDigit_hexValue? isLow]
  simp only [joined, UInt8.ofNat_toNat]

theorem encodeText_append (accepts : CodePoint → Bool) (first second : Text) :
    encodeText accepts (first ++ second) =
      encodeText accepts first ++ encodeText accepts second := by
  simp only [encodeText, encode, List.flatMap_append]

theorem encodeText_singleton
    {accepts : CodePoint → Bool}
    {point : CodePoint}
    (isAscii : point.value < 0x80)
    (isAccepted : accepts point = true) :
    encodeText accepts [point] = [point] := by
  have byte : (UInt8.ofNat point.value).toNat = point.value :=
    Text.toNat_ofNat_of_lt (by omega)
  have asByte : [point].flatMap CodePoint.utf8 = [UInt8.ofNat point.value] := by
    rw [List.flatMap_singleton, CodePoint.utf8, if_pos isAscii]
  have kept :
      (decide (point.value < 0x80) && accepts point) = true := by
    rw [decide_eq_true isAscii, isAccepted]
    rfl
  rw [encodeText, asByte, encode, List.flatMap_singleton, encodeByte]
  simp only [byte, CodePoint.ofNat_value, kept, if_true]

/-! ## Texts without escapes -/

theorem decodeUnreserved_of_notMem
    (digit? : CodePoint → Option Nat)
    {text : Text}
    (noSign : sign ∉ text) :
    decodeUnreserved digit? text = text := by
  induction text with
  | nil =>
      rfl
  | cons point rest inductionHypothesis =>
      rw [decodeUnreserved_cons_of_ne_sign digit? (List.ne_of_not_mem_cons noSign).symm,
        inductionHypothesis (List.not_mem_of_not_mem_cons noSign)]

theorem upperEscapes_of_notMem {text : Text} (noSign : sign ∉ text) : upperEscapes text = text := by
  induction text with
  | nil =>
      rfl
  | cons point rest inductionHypothesis =>
      have notSign : point ≠ sign := (List.ne_of_not_mem_cons noSign).symm
      have restKept := inductionHypothesis (List.not_mem_of_not_mem_cons noSign)
      match rest, restKept with
      | [], _ =>
          rfl
      | [_], _ =>
          rfl
      | first :: second :: others, restKept =>
          rw [upperEscapes, if_neg notSign, restKept]

theorem isEscaped_of_notMem {text : Text} (noSign : sign ∉ text) : isEscaped text = true := by
  induction text with
  | nil =>
      rfl
  | cons point rest inductionHypothesis =>
      rw [isEscaped.eq_def]
      simp only [if_neg (List.ne_of_not_mem_cons noSign).symm]
      exact inductionHypothesis (List.not_mem_of_not_mem_cons noSign)

theorem encodeText_of_accepted
    {accepts : CodePoint → Bool}
    {text : Text}
    (accepted : ∀ point ∈ text, point.value < 0x80 ∧ accepts point = true) :
    encodeText accepts text = text := by
  induction text with
  | nil =>
      rfl
  | cons point rest inductionHypothesis =>
      obtain ⟨isAscii, isAccepted⟩ := accepted point List.mem_cons_self
      rw [← List.singleton_append, encodeText_append, encodeText_singleton isAscii isAccepted,
        inductionHypothesis fun other member => accepted other (List.mem_cons_of_mem point member)]

/-- A part of accepted points without a percent sign is left as it is. -/
theorem encodePart_of_accepted
    {accepts : CodePoint → Bool}
    {text : Text}
    (noSign : sign ∉ text)
    (accepted : ∀ point ∈ text, point.value < 0x80 ∧ accepts point = true) :
    encodePart accepts text = text := by
  rw [encodePart, upperEscapes_of_notMem noSign, isEscaped_of_notMem noSign]
  refine encodeText_of_accepted fun point member => ?_
  obtain ⟨isAscii, isAccepted⟩ := accepted point member
  exact ⟨isAscii, by rw [isAccepted]; rfl⟩

/-! ## Texts in their usual form -/

/-- A text made of address points and of escapes of bytes that need them. -/
inductive IsUsual : Text → Prop where
  | nil : IsUsual []
  | point {point : CodePoint} {rest : Text}
      (isPoint : isAddressPoint point = true) (restUsual : IsUsual rest) :
      IsUsual (point :: rest)
  | escape {byte : UInt8} {rest : Text}
      (needed : isUnreserved (CodePoint.ofNat byte.toNat) = false) (restUsual : IsUsual rest) :
      IsUsual (Percent.escape byte ++ rest)

namespace IsUsual

theorem append {first second : Text} (one : IsUsual first) (other : IsUsual second) :
    IsUsual (first ++ second) := by
  induction one with
  | nil =>
      exact other
  | point isPoint _ inductionHypothesis =>
      exact .point isPoint inductionHypothesis
  | escape needed _ inductionHypothesis =>
      rw [List.append_assoc]
      exact .escape needed inductionHypothesis

theorem of_points {text : Text} (arePoints : ∀ point ∈ text, isAddressPoint point = true) :
    IsUsual text := by
  induction text with
  | nil =>
      exact .nil
  | cons point rest inductionHypothesis =>
      exact .point (arePoints point List.mem_cons_self)
        (inductionHypothesis fun other member =>
          arePoints other (List.mem_cons_of_mem point member))

theorem hasFalseEscape_append {usual : Text} (isUsual : IsUsual usual) (rest : Text) :
    hasFalseEscape (usual ++ rest) = hasFalseEscape rest := by
  induction isUsual with
  | nil =>
      rfl
  | point isPoint _ inductionHypothesis =>
      exact (hasFalseEscape_cons_of_ne_sign (ne_sign_of_isAddressPoint isPoint) _).trans
        inductionHypothesis
  | escape _ _ inductionHypothesis =>
      rw [List.append_assoc, hasFalseEscape_escape_append, inductionHypothesis]

theorem decodeUnreserved_append {usual : Text} (isUsual : IsUsual usual) (rest : Text) :
    decodeUnreserved anyHexValue? (usual ++ rest) =
      usual ++ decodeUnreserved anyHexValue? rest := by
  induction isUsual with
  | nil =>
      rfl
  | point isPoint _ inductionHypothesis =>
      rw [List.cons_append,
        decodeUnreserved_cons_of_ne_sign anyHexValue? (ne_sign_of_isAddressPoint isPoint),
        inductionHypothesis, List.cons_append]
  | escape needed _ inductionHypothesis =>
      rw [List.append_assoc, decodeUnreserved_escape_append needed, inductionHypothesis,
        List.append_assoc]

/-- What an address writes for the points that may stand in it and for the sign of an escape. -/
theorem encodeText_escape (byte : UInt8) :
    encodeText (fun point => isAddressPoint point || point = sign) (Percent.escape byte) =
      Percent.escape byte := by
  obtain ⟨isHigh, isLow, _⟩ := byte_digits byte
  have isDigit :
      ∀ {digit : Nat}, digit < 16 →
        encodeText (fun point => isAddressPoint point || point = sign) [upperDigit digit] =
          [upperDigit digit] := by
    intro digit small
    refine encodeText_singleton (upperDigit_value_lt small) ?_
    rw [isAddressPoint, upperDigit_isUnreserved small]
    rfl
  have split :
      Percent.escape byte =
        [sign] ++ [upperDigit (byte.toNat / 16)] ++ [upperDigit (byte.toNat % 16)] :=
    rfl
  rw [split, encodeText_append, encodeText_append, encodeText_singleton (by decide) (by decide),
    isDigit isHigh, isDigit isLow]

theorem encodeText {usual : Text} (isUsual : IsUsual usual) :
    Percent.encodeText (fun point => isAddressPoint point || point = sign) usual = usual := by
  induction isUsual with
  | nil =>
      rfl
  | @point point rest isPoint _ inductionHypothesis =>
      have accepted : (isAddressPoint point || decide (point = sign)) = true := by
        rw [isPoint]
        rfl
      rw [← List.singleton_append, encodeText_append,
        encodeText_singleton (isAddressPoint_value_lt isPoint) accepted, inductionHypothesis]
  | escape _ _ inductionHypothesis =>
      rw [encodeText_append, encodeText_escape, inductionHypothesis]

/-- A text in its usual form is left as it is. -/
theorem normalizeAddress {usual : Text} (isUsual : IsUsual usual) :
    Percent.normalizeAddress usual = usual := by
  have noFalseEscape : hasFalseEscape usual = false := by
    have alone := isUsual.hasFalseEscape_append []
    rwa [List.append_nil] at alone
  have decoded : decodeUnreserved anyHexValue? usual = usual := by
    have alone := isUsual.decodeUnreserved_append []
    rwa [List.append_nil, decodeUnreserved_nil, List.append_nil] at alone
  rw [Percent.normalizeAddress, noFalseEscape, decoded]
  exact isUsual.encodeText

end IsUsual

/-! ## Marks between the parts of an address -/

/-- A mark that is no part of an escape, so that no escape reaches across it. -/
structure IsMark (mark : CodePoint) : Prop where
  isPoint : isAddressPoint mark = true
  notAlphanumeric : mark.isAlphanumeric = false
  noDigit : anyHexValue? mark = none

theorem isMark_of_isOneOf {mark : CodePoint} (isOne : mark.isOneOf ":/?#&=" = true) :
    IsMark mark := by
  have checked :
      ∀ mark ∈ Text.ofString ":/?#&=",
        isAddressPoint mark = true ∧ mark.isAlphanumeric = false ∧ anyHexValue? mark = none := by
    decide +kernel
  obtain ⟨isPoint, notAlphanumeric, noDigit⟩ := checked mark (CodePoint.isOneOf_iff.mp isOne)
  exact ⟨isPoint, notAlphanumeric, noDigit⟩

/-- The next two points are a false pair behind a percent sign. -/
def beginsFalsePair : Text → Bool
  | first :: second :: _ =>
      isFalsePair first second
  | _ =>
      false

theorem hasFalseEscape_cons (point : CodePoint) (rest : Text) :
    hasFalseEscape (point :: rest) =
      ((point = sign && beginsFalsePair rest) || hasFalseEscape rest) := by
  match rest with
  | [] =>
      rw [beginsFalsePair, Bool.and_false]
      rfl
      intro first second others isLong
      cases isLong
  | [_] =>
      rw [beginsFalsePair, Bool.and_false]
      rfl
      intro first second others isLong
      cases isLong
  | first :: second :: others =>
      rfl

namespace IsMark

variable {mark : CodePoint} (isMark : IsMark mark)
include isMark

theorem ne_sign : mark ≠ sign :=
  ne_sign_of_isAddressPoint isMark.isPoint

/-- Behind a percent sign, a mark and what follows it are no false pair. -/
theorem beginsFalsePair_append (before after : Text) :
    beginsFalsePair (before ++ mark :: after) = beginsFalsePair before := by
  match before with
  | [] =>
      cases after with
      | nil =>
          rfl
      | cons next others =>
          rw [List.nil_append, beginsFalsePair, isFalsePair, isMark.notAlphanumeric]
          rfl
  | [first] =>
      rw [List.singleton_append, beginsFalsePair, isFalsePair, isMark.notAlphanumeric,
        Bool.and_false]
      rfl
  | first :: second :: others =>
      rfl

theorem hasFalseEscape_append (before after : Text) :
    hasFalseEscape (before ++ mark :: after) =
      (hasFalseEscape before || hasFalseEscape after) := by
  induction before with
  | nil =>
      exact hasFalseEscape_cons_of_ne_sign isMark.ne_sign after
  | cons point rest inductionHypothesis =>
      rw [List.cons_append, hasFalseEscape_cons, isMark.beginsFalsePair_append,
        inductionHypothesis, hasFalseEscape_cons point rest, Bool.or_assoc]

/-- No escape begins right before a mark, nor one point before it. -/
theorem decodeUnreserved_cons_append
    (point : CodePoint)
    (before : Text)
    (isShort : before.length < 2)
    (after : Text) :
    decodeUnreserved anyHexValue? (point :: (before ++ mark :: after)) =
      point :: decodeUnreserved anyHexValue? (before ++ mark :: after) := by
  by_cases isSign : point = sign
  · subst isSign
    match before, isShort with
    | [], _ =>
        cases after with
        | nil =>
            rfl
        | cons next others =>
            rw [List.nil_append, decodeUnreserved, if_pos rfl, isMark.noDigit]
    | [first], _ =>
        rw [List.singleton_append, decodeUnreserved, if_pos rfl, isMark.noDigit]
        cases anyHexValue? first <;> rfl
  · exact decodeUnreserved_cons_of_ne_sign anyHexValue? isSign _

theorem decodeUnreserved_append (before after : Text) :
    decodeUnreserved anyHexValue? (before ++ mark :: after) =
      decodeUnreserved anyHexValue? before ++ mark :: decodeUnreserved anyHexValue? after := by
  have markFirst :
      decodeUnreserved anyHexValue? (mark :: after) =
        mark :: decodeUnreserved anyHexValue? after :=
    decodeUnreserved_cons_of_ne_sign anyHexValue? isMark.ne_sign after
  fun_induction decodeUnreserved anyHexValue? before with
  | case1 first second rest high low isLow isHigh point unreserved inductionHypothesis =>
      simp only [List.cons_append, decodeUnreserved, if_pos, isHigh, isLow, point, unreserved,
        inductionHypothesis]
  | case2 first second rest high low isLow isHigh point reserved inductionHypothesis =>
      simp only [List.cons_append, decodeUnreserved, if_pos, isHigh, isLow, point, reserved,
        inductionHypothesis, if_neg, Bool.false_eq_true, not_false_eq_true]
  | case3 first second rest noEscape inductionHypothesis =>
      rw [List.cons_append, List.cons_append, List.cons_append, decodeUnreserved, if_pos rfl]
      cases isHigh : anyHexValue? first with
      | none =>
          exact congrArg (sign :: ·) inductionHypothesis
      | some high =>
          cases isLow : anyHexValue? second with
          | none =>
              exact congrArg (sign :: ·) inductionHypothesis
          | some low =>
              exact (noEscape high low isHigh isLow).elim
  | case4 percent first second rest notSign inductionHypothesis =>
      exact (decodeUnreserved_cons_of_ne_sign anyHexValue? notSign _).trans
        (congrArg (percent :: ·) inductionHypothesis)
  -- Too short for an escape by itself, but not with the mark and what is behind it.
  | case5 rest isShort =>
      match rest, isShort with
      | [], _ =>
          exact markFirst
      | [point], _ =>
          exact (isMark.decodeUnreserved_cons_append point [] Nat.zero_lt_two after).trans
            (congrArg (point :: ·) markFirst)
      | [point, other], _ =>
          exact (isMark.decodeUnreserved_cons_append point [other] Nat.one_lt_two
            after).trans (congrArg (point :: ·)
              ((isMark.decodeUnreserved_cons_append other [] Nat.zero_lt_two
                after).trans (congrArg (other :: ·) markFirst)))
      | point :: first :: second :: others, isShort =>
          exact (isShort point first second others rfl).elim

end IsMark

/-- A part of an address as it is settled where some escape of the address is false, or none. -/
def settled (isFalse : Bool) (part : Text) : Text :=
  if isFalse then
    encodeText isAddressPoint part
  else
    encodeText (fun point => isAddressPoint point || point = sign)
      (decodeUnreserved anyHexValue? part)

theorem normalizeAddress_eq_settled (address : Text) :
    normalizeAddress address = settled (hasFalseEscape address) address :=
  rfl

/-- The parts on both sides of a mark are settled one by one. -/
theorem IsMark.settled_append
    {mark : CodePoint}
    (isMark : IsMark mark)
    (isFalse : Bool)
    (before after : Text) :
    settled isFalse (before ++ mark :: after) =
      settled isFalse before ++ mark :: settled isFalse after := by
  have isAscii := isAddressPoint_value_lt isMark.isPoint
  cases isFalse with
  | false =>
      have kept :
          encodeText (fun point => isAddressPoint point || point = sign) [mark] = [mark] :=
        encodeText_singleton isAscii (by rw [isMark.isPoint]; rfl)
      simp only [settled, Bool.false_eq_true, if_false]
      rw [isMark.decodeUnreserved_append, encodeText_append, ← List.singleton_append,
        encodeText_append, kept, List.singleton_append]
  | true =>
      simp only [settled, if_true]
      rw [encodeText_append, ← List.singleton_append, encodeText_append,
        encodeText_singleton isAscii isMark.isPoint, List.singleton_append]

end Percent

end SessionHandshake
