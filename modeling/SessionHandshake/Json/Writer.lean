import SessionHandshake.Value.Extent
import SessionHandshake.Text.WideUnits

namespace SessionHandshake

/-!
# Writing JSON

Documents are written in ASCII alone, with a space after each comma and each
colon.  A value that JSON cannot express, bytes or a date for instance, is of
the wrong type; a collection that contains itself and a number with too many
digits are refused as values.
-/

namespace Json

/-- A 16-bit unit as an escape. -/
def escapedUnit (unit : Nat) : Text :=
  ("\\u" : Text) ++ Text.hexPadded 4 unit

/-- A code point of a quoted text. -/
def writePoint (point : CodePoint) : Text :=
  if point = CodePoint.ofChar '"' ∨ point = CodePoint.ofChar '\\' then
    [CodePoint.ofChar '\\', point]
  else if point.value = 0x0a then
    "\\n"
  else if point.value = 0x0d then
    "\\r"
  else if point.value = 0x09 then
    "\\t"
  else if point.value = 0x0c then
    "\\f"
  else if point.value = 0x08 then
    "\\b"
  else if 0x20 ≤ point.value ∧ point.value ≤ 0x7e then
    [point]
  else if point.value < 0x10000 then
    escapedUnit point.value
  else
    escapedUnit (0xd800 + (point.value - 0x10000) / 1024) ++
      escapedUnit (0xdc00 + (point.value - 0x10000) % 1024)

/-- A text in quotes. -/
def writeText (content : Text) : Text :=
  ("\"" : Text) ++ content.flatMap writePoint ++ ("\"" : Text)

/-- A double, with words for the values that have no digits. -/
def writeFloat : Binary64 → Text
  | .notANumber =>
      "NaN"
  | .infinite false =>
      "Infinity"
  | .infinite true =>
      "-Infinity"
  | other =>
      other.toText

/-- A value that is neither a text nor a collection. -/
def writeAtom : Value → Except Fault Text
  | .null =>
      .ok "null"
  | .bool true =>
      .ok "true"
  | .bool false =>
      .ok "false"
  | .int number => do
      Value.checkShown (.int number)
      return Text.ofInt number
  | .float number =>
      .ok (writeFloat number)
  | _ =>
      .error .wrongType

/-- The name of a member: a text, or the written form of another atom. -/
def writeName (key : Value) : Except Fault Text :=
  match key with
  | .text content =>
      .ok (writeText content)
  | other =>
      (writeAtom other).map writeText

mutual

/-- A value as a JSON document. -/
def write : Value → Except Fault Text
  | .text content =>
      .ok (writeText content)
  | .list items => do
      let written ← writeItems items
      return ("[" : Text) ++ Text.joined ", " written ++ ("]" : Text)
  | .pair first second => do
      let one ← write first
      let other ← write second
      return ("[" : Text) ++ Text.joined ", " [one, other] ++ ("]" : Text)
  | .enclosing _ =>
      .error (.badValue .unspecified)
  | .mapping entries => do
      let written ← writeMembers entries
      return ("\x7b" : Text) ++ Text.joined ", " written ++ ("\x7d" : Text)
  | other =>
      writeAtom other

/-- The items of a list. -/
def writeItems : List Value → Except Fault (List Text)
  | [] =>
      .ok []
  | item :: rest => do
      let written ← write item
      let others ← writeItems rest
      return written :: others

/-- The members of an object. -/
def writeMembers : List (Value × Value) → Except Fault (List Text)
  | [] =>
      .ok []
  | (key, value) :: rest => do
      let name ← writeName key
      let written ← write value
      let others ← writeMembers rest
      return (name ++ (": " : Text) ++ written) :: others

end

end Json

end SessionHandshake
