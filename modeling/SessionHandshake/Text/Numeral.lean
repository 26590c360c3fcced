import SessionHandshake.Text.Blank
import SessionHandshake.Text.DecimalDigit

namespace SessionHandshake

/-!
# Numerals

A numeral in a base is read liberally: white space around it, a sign, the mark
of its base, digits of any script and a single underscore between two digits
are all allowed.
-/

namespace Numeral

/-- A code point of a numeral with digits and blanks of any script made plain. -/
def plainPoint (point : CodePoint) : CodePoint :=
  if point.value < 0x80 then
    point
  else if point.isBlank then
    CodePoint.ofChar ' '
  else
    match point.decimalValue? with
    | some value =>
        CodePoint.hexDigit value
    | none =>
        CodePoint.ofChar '?'

/-- White space that may surround a numeral once it has been made plain. -/
def isPlainBlank (point : CodePoint) : Bool :=
  isAsciiBlank point.value

/-- A numeral made plain, without the white space around it. -/
def plain (text : Text) : Text :=
  Text.trim isPlainBlank (text.map plainPoint)

/-- The value of a digit in a base of at most sixteen. -/
def digit? (base : Nat) (point : CodePoint) : Option Nat :=
  point.hexValue?.filter (· < base)

/-- A numeral after its sign and mark: digits, single underscores between them. -/
def digitsValue? (base total : Nat) : Text → Option Nat
  | [] =>
      none
  | [digit] =>
      (digit? base digit).map (total * base + ·)
  | digit :: next :: rest =>
      match digit? base digit with
      | none =>
          none
      | some value =>
          if next = CodePoint.ofChar '_' then
            digitsValue? base (total * base + value) rest
          else
            digitsValue? base (total * base + value) (next :: rest)

/-- The text after a plus or minus sign, and whether it was a minus. -/
def dropSign (text : Text) : Bool × Text :=
  match text with
  | sign :: rest =>
      if sign = CodePoint.ofChar '+' then
        (false, rest)
      else if sign = CodePoint.ofChar '-' then
        (true, rest)
      else
        (false, text)
  | [] =>
      (false, [])

/-- The letters of the mark of a base; base ten has none. -/
def markLetters (base : Nat) : String :=
  if base = 2 then
    "bB"
  else if base = 8 then
    "oO"
  else if base = 16 then
    "xX"
  else
    ""

/-- The text after a mark of a base, with the one underscore that may follow it. -/
def dropMark (base : Nat) (text : Text) : Text :=
  match text with
  | first :: letter :: rest =>
      if first = CodePoint.ofChar '0' ∧ letter.isOneOf (markLetters base) then
        match rest with
        | next :: others =>
            if next = CodePoint.ofChar '_' then others else rest
        | [] =>
            []
      else
        text
  | _ =>
      text

/-- The greatest number of digits that a numeral may have. -/
def maximalDigits : Nat := 4300

/-- Only in a base that is no power of two does the number of digits matter. -/
def isTooLong (base : Nat) (digits : Text) : Bool :=
  base = 10 && maximalDigits < (digits.without (CodePoint.ofChar '_')).length

/-- The number that a numeral in a base writes. -/
def value? (base : Nat) (text : Text) : Option Int :=
  let (isNegative, unsigned) := dropSign (plain text)
  let digits := dropMark base unsigned
  if isTooLong base digits then
    none
  else
    (digitsValue? base 0 digits).map fun number =>
      if isNegative then -(number : Int) else number

end Numeral

end SessionHandshake
