import SessionHandshake.Text.Alphanumeric
import SessionHandshake.Text.Numeral
import SessionHandshake.Text.Utf8

namespace SessionHandshake

/-!
# Percent encoding

In an address, a byte that may not stand for itself is written as a percent sign
and two hexadecimal digits.
-/

namespace Percent

/-- A letter, a digit or one of the four marks that never need encoding. -/
def isUnreserved (point : CodePoint) : Bool :=
  point.isLetter || point.isDigit || point.isOneOf "-._~"

/-- The percent sign. -/
def sign : CodePoint := CodePoint.ofChar '%'

/-- The upper-case digit for a value below sixteen. -/
def upperDigit (value : Nat) : CodePoint :=
  if value < 10 then
    CodePoint.ofNat (0x30 + value)
  else
    CodePoint.ofNat (0x41 + (value - 10))

/-- A byte as a percent sign and two digits. -/
def escape (byte : UInt8) : Text :=
  [sign, upperDigit (byte.toNat / 16), upperDigit (byte.toNat % 16)]

/-- A byte that stands for itself if its character is accepted. -/
def encodeByte (accepts : CodePoint → Bool) (byte : UInt8) : Text :=
  let point := CodePoint.ofNat byte.toNat
  if byte.toNat < 0x80 && accepts point then
    [point]
  else
    escape byte

/-- Bytes, of which only those with accepted characters stand for themselves. -/
def encode (accepts : CodePoint → Bool) (bytes : Bytes) : Text :=
  bytes.flatMap (encodeByte accepts)

/-- A text, of which only accepted characters stand for themselves. -/
def encodeText (accepts : CodePoint → Bool) (text : Text) : Text :=
  encode accepts (text.flatMap CodePoint.utf8)

/-- The text with the digits of its escapes in upper case. -/
def upperEscapes : Text → Text
  | percent :: first :: second :: rest =>
      if percent = sign then
        match first.hexValue?, second.hexValue? with
        | some high, some low =>
            percent :: upperDigit high :: upperDigit low :: upperEscapes rest
        | _, _ =>
            percent :: upperEscapes (first :: second :: rest)
      else
        percent :: upperEscapes (first :: second :: rest)
  | rest =>
      rest

/-- Every percent sign of a text begins an escape. -/
def isEscaped : Text → Bool
  | [] =>
      true
  | percent :: rest =>
      if percent = sign then
        match rest with
        | first :: second :: others =>
            first.isHexDigit && second.isHexDigit && isEscaped others
        | _ =>
            false
      else
        isEscaped rest

/--
A part of an address with all characters encoded that are not accepted.

Percent signs are left as they are if all of them begin escapes.
-/
def encodePart (accepts : CodePoint → Bool) (text : Text) : Text :=
  let text := upperEscapes text
  if isEscaped text then
    encodeText (fun point => accepts point || point = sign) text
  else
    encodeText accepts text

/-- The bytes that a text with escapes stands for. -/
def bytesOf : Text → Bytes
  | percent :: first :: second :: rest =>
      if percent = sign then
        match first.hexValue?, second.hexValue? with
        | some high, some low =>
            UInt8.ofNat (16 * high + low) :: bytesOf rest
        | _, _ =>
            percent.utf8 ++ bytesOf (first :: second :: rest)
      else
        percent.utf8 ++ bytesOf (first :: second :: rest)
  | rest =>
      rest.flatMap CodePoint.utf8

/-- A hexadecimal digit whose decimal digits may be those of any script. -/
def anyHexValue? (point : CodePoint) : Option Nat :=
  (Numeral.plainPoint point).hexValue?

/-- The text without escapes of characters that never need encoding. -/
def decodeUnreserved (digit? : CodePoint → Option Nat) : Text → Text
  | percent :: first :: second :: rest =>
      if percent = sign then
        match digit? first, digit? second with
        | some high, some low =>
            let point := CodePoint.ofNat (16 * high + low)
            if isUnreserved point then
              point :: decodeUnreserved digit? rest
            else
              percent :: first :: second :: decodeUnreserved digit? rest
        | _, _ =>
            percent :: decodeUnreserved digit? (first :: second :: rest)
      else
        percent :: decodeUnreserved digit? (first :: second :: rest)
  | rest =>
      rest

/-- Two letters or numbers behind a percent sign that are not both digits of a byte. -/
def isFalsePair (first second : CodePoint) : Bool :=
  first.isAlphanumeric && second.isAlphanumeric &&
    !((anyHexValue? first).isSome && (anyHexValue? second).isSome)

/-- A percent sign is followed by two letters or numbers that are no escape. -/
def hasFalseEscape : Text → Bool
  | percent :: first :: second :: rest =>
      (percent = sign && isFalsePair first second) || hasFalseEscape (first :: second :: rest)
  | _ =>
      false

/-- A character that may stand in a whole address. -/
def isAddressPoint (point : CodePoint) : Bool :=
  isUnreserved point || point.isOneOf "!#$&'()*+,/:;=?@[]"

/-- A whole address in its usual form. -/
def normalizeAddress (address : Text) : Text :=
  if hasFalseEscape address then
    encodeText isAddressPoint address
  else
    encodeText (fun point => isAddressPoint point || point = sign)
      (decodeUnreserved anyHexValue? address)

end Percent

end SessionHandshake
