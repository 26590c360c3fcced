import SessionHandshake.Text.Lowercase
import SessionHandshake.Text.Numeral
import SessionHandshake.Value.Extent

namespace SessionHandshake

/-!
# Identifiers of profiles

The servers write an identifier as thirty-two hexadecimal digits.  Identifiers
that come in are normalised to that form, in lower case and without hyphens.
The dashed form of a stored identifier is read more liberally, as a numeral in
base sixteen, and written in groups of 8, 4, 4, 4 and 12 digits.
-/

namespace Uuid

/-- The number of hexadecimal digits of an identifier. -/
def digitCount : Nat := 32

/-- One of the digits of a normalised identifier. -/
def isLowerHexDigit (point : CodePoint) : Bool :=
  point.isDigit || point.isBetween 'a' 'f'

/-- A text is a normalised identifier, up to one line feed at its end. -/
def isNormalized (text : Text) : Bool :=
  let digits := text.take digitCount
  digits.length = digitCount && digits.all isLowerHexDigit &&
    (text.drop digitCount = [] || text.drop digitCount = [CodePoint.ofNat 10])

/-- The normalised form of an identifier, which must be a text. -/
def normalize (value : Value) : Except Fault Text :=
  match value with
  | .text content =>
      let normalized := Text.lowercase (content.without (CodePoint.ofChar '-'))
      if isNormalized normalized then
        .ok normalized
      else
        .error (.malformedResponse (.badUuid value) none)
  | other => do
      other.checkShown
      throw (.malformedResponse (.uuidNotText other) none)

/-! ## The dashed form -/

/-- The code points that may stand around an identifier. -/
def isBrace (point : CodePoint) : Bool :=
  point = CodePoint.ofChar '\x7b' || point = CodePoint.ofChar '\x7d'

/-- The digits of an identifier without its label, braces and hyphens. -/
def bare (text : Text) : Text :=
  let unlabelled := Text.withoutAll "uuid:" (Text.withoutAll "urn:" text)
  (Text.trim isBrace unlabelled).without (CodePoint.ofChar '-')

/-- Thirty-two digits in groups of 8, 4, 4, 4 and 12. -/
def grouped (digits : Text) : Text :=
  Text.joined "-" [
    digits.take 8, (digits.drop 8).take 4, (digits.drop 12).take 4,
    (digits.drop 16).take 4, digits.drop 20]

/-- The dashed form of the identifier that a text writes. -/
def dashedText (text : Text) : Except Fault Text :=
  let digits := bare text
  if digits.length ≠ digitCount then
    .error (.badValue .malformedUuid)
  else
    match Numeral.value? 16 digits with
    | some (.ofNat number) =>
        if number < Nat.pow 16 digitCount then
          .ok (grouped (Text.hexPadded digitCount number))
        else
          .error (.badValue .unspecified)
    | _ =>
        .error (.badValue .unspecified)

/-- The dashed form of a stored identifier of any type. -/
def dashed (value : Value) : Except Fault Text :=
  match value with
  | .text content =>
      dashedText content
  | .null =>
      .error .wrongType
  | .bytes _ =>
      .error .wrongType
  | .byteBuffer _ =>
      .error .wrongType
  | .moment _ =>
      .error .wrongType
  | _ =>
      .error .noSuchOperation

end Uuid

end SessionHandshake
