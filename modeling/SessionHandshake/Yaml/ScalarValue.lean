import SessionHandshake.Fault.Basic
import SessionHandshake.Text.Base64
import SessionHandshake.Text.Lowercase
import SessionHandshake.Yaml.Scalar
import SessionHandshake.Yaml.Tag
import SessionHandshake.Yaml.Timestamp

namespace SessionHandshake

namespace Yaml

/-!
# Values of scalars

The tag of a scalar decides how its text is read.  A text that does not have the
form of its tag is a fault, and which one depends on the tag.
-/

/-- The truth value of a word in any case. -/
def boolValue (content : Text) : Except Fault Value :=
  let word := Text.lowercase content
  let affirmatives : List Text := ["yes", "true", "on"]
  let negatives : List Text := ["no", "false", "off"]
  if affirmatives.contains word then
    .ok (.bool true)
  else if negatives.contains word then
    .ok (.bool false)
  else
    .error (.missingKey (.text word))

/-- A number without underscores, and whether it has a minus sign. -/
def signedNumeral (content : Text) : Except Fault (Bool × Text) :=
  let numeral := content.without (CodePoint.ofChar '_')
  if numeral.isEmpty then
    .error .missingPosition
  else
    .ok (Numeral.dropSign numeral)

/-- The number that a numeral in a base must write. -/
def wholeNumber (base : Nat) (numeral : Text) : Except Fault Int :=
  match Numeral.value? base numeral with
  | some number =>
      .ok number
  | none =>
      .error (.badValue .unspecified)

/-- The number that parts in base sixty write, the most significant first. -/
def sixtyNumber (parts : List Text) : Except Fault Int :=
  parts.foldlM (fun total part => (wholeNumber 10 part).map (60 * total + ·)) 0

/-- A whole number without its sign; the base shows at the front. -/
def unsignedNumber (numeral : Text) : Except Fault Int :=
  if numeral = ("0" : Text) then
    .ok 0
  else if numeral.startsWith "0b" then
    wholeNumber 2 (numeral.drop 2)
  else if numeral.startsWith "0x" then
    wholeNumber 16 (numeral.drop 2)
  else if numeral.isEmpty then
    .error .missingPosition
  else if numeral.startsWith "0" then
    wholeNumber 8 numeral
  else if numeral.contains (CodePoint.ofChar ':') then
    sixtyNumber (numeral.splitOn (CodePoint.ofChar ':'))
  else
    wholeNumber 10 numeral

/-- A whole number. -/
def intValue (content : Text) : Except Fault Value := do
  let (isNegative, numeral) ← signedNumeral content
  let number ← unsignedNumber numeral
  return .int (if isNegative then -number else number)

/-- The double that digits, perhaps with a fraction and an exponent, write. -/
def decimalDouble? (isNegative : Bool) (text : Text) : Option Binary64 :=
  let whole := text.takeWhile CodePoint.isDigit
  let rest := text.dropWhile CodePoint.isDigit
  let (places, rest) := Timestamp.fraction rest
  if whole.isEmpty && places.isEmpty then
    none
  else
    let scaled (power : Int) : Binary64 :=
      Binary64.ofDecimal isNegative (Text.decimalValue (whole ++ places)) (power - places.length)
    match rest with
    | [] =>
        some (scaled 0)
    | letter :: exponent =>
        let (isBelow, digits) := Numeral.dropSign exponent
        if letter.isOneOf "eE" && Tag.isRun CodePoint.isDigit digits then
          let power : Int := Text.decimalValue digits
          some (scaled (if isBelow then -power else power))
        else
          none

/-- The double that a text writes, in digits or as a word. -/
def double (text : Text) : Except Fault Binary64 :=
  let (isNegative, unsigned) := Numeral.dropSign (Numeral.plain text)
  let word := unsigned.asciiLowercase
  let infinities : List Text := ["inf", "infinity"]
  if infinities.contains word then
    .ok (.infinite isNegative)
  else if word = ("nan" : Text) then
    .ok .notANumber
  else
    match decimalDouble? isNegative unsigned with
    | some number =>
        .ok number
    | none =>
        .error (.badValue .unspecified)

/-- A power of sixty as a double, unless it is too large for one. -/
def sixtyPower (exponent : Nat) : Except Fault Binary64 :=
  match Binary64.ofInt (Nat.pow 60 exponent) with
  | .infinite _ =>
      .error .numberTooLarge
  | power =>
      .ok power

/-- The sum of parts in base sixty, the least significant first, rounded at every step. -/
def sixtyDouble (parts : List Binary64) : Except Fault Binary64 :=
  parts.zipIdx.foldlM
    (fun total (part, exponent) => do
      let power ← sixtyPower exponent
      return total.add (part.multiply power))
    (Binary64.signedZero false)

/-- The word for the number that is equal to no number, in lower case. -/
def noNumber : Text := ".nan"

/-- A double without its sign. -/
def unsignedDouble (numeral : Text) : Except Fault Binary64 :=
  if numeral = (".inf" : Text) then
    .ok (.infinite false)
  else if numeral = noNumber then
    .ok .notANumber
  else if numeral.contains (CodePoint.ofChar ':') then do
    let parts ← (numeral.splitOn (CodePoint.ofChar ':')).mapM double
    sixtyDouble parts.reverse
  else
    double numeral

/-- A double. -/
def floatValue (content : Text) : Except Fault Value := do
  let (isNegative, numeral) ← signedNumeral (Text.lowercase content)
  let number ← unsignedDouble numeral
  return .float (if isNegative then number.negate else number)

/-- The text of a double is the word for no number. -/
def isNoNumber (content : Text) : Bool :=
  match signedNumeral (Text.lowercase content) with
  | .ok (_, numeral) =>
      numeral = noNumber
  | .error _ =>
      false

/-- Bytes written in base 64. -/
def binaryValue (content : Text) : Except Fault Value :=
  if content.all fun point => point.value < 0x80 then
    match Base64.bytes? content with
    | some bytes =>
        .ok (.bytes bytes)
    | none =>
        broken
  else
    broken

/-- A date, perhaps with a time of day. -/
def timestampValue (content : Text) : Except Fault Value :=
  match Timestamp.ofText? content with
  | some timestamp =>
      timestamp.toMoment.map Value.moment
  | none =>
      .error .noSuchOperation

/-- The value that a scalar with a tag writes; only some tags are tags of scalars. -/
def scalarValue (tag : Tag) (content : Text) : Except Fault Value :=
  match tag with
  | .null =>
      .ok .null
  | .bool =>
      boolValue content
  | .int =>
      intValue content
  | .float =>
      floatValue content
  | .binary =>
      binaryValue content
  | .timestamp =>
      timestampValue content
  | .text =>
      .ok (.text content)
  | _ =>
      broken

end Yaml

end SessionHandshake
