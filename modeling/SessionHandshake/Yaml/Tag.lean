import SessionHandshake.Number.Binary64
import SessionHandshake.Text.Numeral

namespace SessionHandshake

namespace Yaml

/-!
# Tags

The tag of a node says what kind of value it writes.  A plain scalar without a
tag gets the one whose form its text has, and any other node without a tag is a
text, a list or a mapping.
-/

/-- What kind of value a node writes. -/
inductive Tag where
  | null
  | bool
  | int
  | float
  | binary
  | timestamp
  | orderedMapping
  | pairs
  | set
  | text
  | list
  | mapping
  | merge
  | value
  | other
  deriving DecidableEq

namespace Tag

/-- What the names of the standard tags begin with. -/
def standard : Text := "tag:yaml.org,2002:"

/-- The standard tags by name. -/
def names : List (Text × Tag) := [
  ("null", .null), ("bool", .bool), ("int", .int), ("float", .float), ("binary", .binary),
  ("timestamp", .timestamp), ("omap", .orderedMapping), ("pairs", .pairs), ("set", .set),
  ("str", .text), ("seq", .list), ("map", .mapping), ("merge", .merge), ("value", .value)]

/-- The tag with a full name. -/
def ofName (name : Text) : Tag :=
  match name.dropPrefix? standard with
  | none =>
      .other
  | some short =>
      ((names.find? fun entry => entry.1 = short).map Prod.snd).getD .other

/-! ## Forms of plain scalars -/

/-- Digits, with underscores anywhere after the first. -/
def isDigits (text : Text) : Bool :=
  match text with
  | first :: rest =>
      first.isDigit && rest.all fun point => point.isDigit || point = CodePoint.ofChar '_'
  | [] =>
      false

/-- Digits and underscores that do not begin with a zero. -/
def isPositiveDigits (text : Text) : Bool :=
  isDigits text && text.head? ≠ some (CodePoint.ofChar '0')

/-- A number below sixty in one or two digits. -/
def isSixtieth (text : Text) : Bool :=
  match text with
  | [only] =>
      only.isDigit
  | [first, second] =>
      first.isBetween '0' '5' && second.isDigit
  | _ =>
      false

/-- A text that is not empty and has only characters of a class. -/
def isRun (accepts : CodePoint → Bool) (text : Text) : Bool :=
  !text.isEmpty && text.all accepts

/-- A digit of a base or an underscore. -/
def isBaseDigit (base : Nat) (point : CodePoint) : Bool :=
  (Numeral.digit? base point).isSome || point = CodePoint.ofChar '_'

/-- A text without a sign at its front. -/
def unsigned (text : Text) : Text :=
  (Numeral.dropSign text).2

/-- One of the words for truth values: of one case, or with a capital. -/
def isBool (text : Text) : Bool :=
  let words : List Text := [
    "yes", "Yes", "YES", "no", "No", "NO", "true", "True", "TRUE", "false", "False", "FALSE",
    "on", "On", "ON", "off", "Off", "OFF"]
  words.contains text

/-- One of the words for no value, or no text at all. -/
def isNull (text : Text) : Bool :=
  let words : List Text := ["~", "null", "Null", "NULL", ""]
  words.contains text

/-- A whole number in base 2, 8, 10, 16 or 60. -/
def isInt (text : Text) : Bool :=
  let number := unsigned text
  (match number with
    | zero :: mark :: digits =>
        zero = CodePoint.ofChar '0' &&
          ((mark = CodePoint.ofChar 'b' && isRun (isBaseDigit 2) digits) ||
            (mark = CodePoint.ofChar 'x' && isRun (isBaseDigit 16) digits) ||
            isRun (isBaseDigit 8) (mark :: digits))
    | _ =>
        false) ||
    number = ("0" : Text) || isPositiveDigits number ||
    (match Text.splitOn (CodePoint.ofChar ':') number with
    | first :: second :: others =>
        isPositiveDigits first && (second :: others).all isSixtieth
    | _ =>
        false)

/-- An exponent with its sign, or nothing. -/
def isExponent (text : Text) : Bool :=
  match text with
  | [] =>
      true
  | letter :: sign :: digits =>
      letter.isOneOf "eE" && sign.isOneOf "+-" && isRun CodePoint.isDigit digits
  | _ =>
      false

/-- Digits and underscores, perhaps with an exponent. -/
def isFraction (text : Text) : Bool :=
  isExponent (text.dropWhile fun point => point.isDigit || point = CodePoint.ofChar '_')

/-- Parts of a number in base sixty of which the last has a fraction. -/
def isSixtyFraction : List Text → Bool
  | [] =>
      false
  | [last] =>
      match last.splitAtFirst (CodePoint.ofChar '.') with
      | (part, some places) =>
          isSixtieth part &&
            places.all fun point => point.isDigit || point = CodePoint.ofChar '_'
      | (_, none) =>
          false
  | part :: others =>
      isSixtieth part && isSixtyFraction others

/-- A number with a point: in base 10 or 60, infinite, or no number. -/
def isFloat (text : Text) : Bool :=
  let number := unsigned text
  let infinities : List Text := [".inf", ".Inf", ".INF"]
  let nonNumbers : List Text := [".nan", ".NaN", ".NAN"]
  (match number.splitAtFirst (CodePoint.ofChar '.') with
    | (whole, some fraction) =>
        isDigits whole && isFraction fraction
    | (_, none) =>
        false) ||
    (match text with
    | point :: first :: rest =>
        point = CodePoint.ofChar '.' && first.isDigit && isFraction rest
    | _ =>
        false) ||
    (match Text.splitOn (CodePoint.ofChar ':') number with
    | first :: second :: others =>
        isDigits first && isSixtyFraction (second :: others)
    | _ =>
        false) ||
    infinities.contains number || nonNumbers.contains text

end Tag

end Yaml

end SessionHandshake
