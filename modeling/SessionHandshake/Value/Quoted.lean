import SessionHandshake.Value.Basic
import SessionHandshake.Number.Shortest
import SessionHandshake.Text.Printable

namespace SessionHandshake

/-!
# Values as they are shown in messages

`Value.quoted` writes a value so that its type can be told from its text: text
stands in quotes with escapes, bytes have a `b` before their quotes, collections
show their members quoted, and a collection inside itself is three dots in its
brackets.  `Value.shown` is the same except that a
text by itself stands without quotes and a date in its plain form.
-/

namespace CodePoint

/-- A code point of a quoted text: escaped if it is a quote or not printable. -/
def quoted (quote point : CodePoint) : Text :=
  if point = quote ∨ point = CodePoint.ofChar '\\' then
    [CodePoint.ofChar '\\', point]
  else if point.value = 10 then
    "\\n"
  else if point.value = 13 then
    "\\r"
  else if point.value = 9 then
    "\\t"
  else if point.isPrintable then
    [point]
  else if point.value < 0x100 then
    ("\\x" : Text) ++ Text.hexPadded 2 point.value
  else if point.value < 0x10000 then
    ("\\u" : Text) ++ Text.hexPadded 4 point.value
  else
    ("\\U" : Text) ++ Text.hexPadded 8 point.value

end CodePoint

/-- The quote for a content: double if it holds single ones and no double. -/
def quoteFor (content : Text) : CodePoint :=
  if content.contains (CodePoint.ofChar '\'') ∧ ¬ content.contains (CodePoint.ofChar '"') then
    CodePoint.ofChar '"'
  else
    CodePoint.ofChar '\''

/-- A text in quotes. -/
def Text.quoted (content : Text) : Text :=
  let quote := quoteFor content
  [quote] ++ content.flatMap (CodePoint.quoted quote) ++ [quote]

/-- A byte of a quoted sequence: ASCII as it is but for an escaped mark, all else as an escape. -/
def quotedByte (mark : CodePoint) (byte : UInt8) : Text :=
  let point := CodePoint.ofNat byte.toNat
  if byte.toNat < 0x7f then
    CodePoint.quoted mark point
  else
    ("\\x" : Text) ++ Text.hexPadded 2 byte.toNat

/-- The quote for a sequence of bytes. -/
def quoteForBytes (content : Bytes) : CodePoint :=
  quoteFor (content.map fun byte => CodePoint.ofNat byte.toNat)

/-- A sequence of bytes in quotes, marked as bytes. -/
def quotedBytes (content : Bytes) : Text :=
  let quote := quoteForBytes content
  ("b" : Text) ++ [quote] ++ content.flatMap (quotedByte quote) ++ [quote]

/-- A sequence of bytes that can change, in which single quotes are always escaped. -/
def quotedBuffer (content : Bytes) : Text :=
  let quote := quoteForBytes content
  ("bytearray(b" : Text) ++ [quote] ++ content.flatMap (quotedByte (CodePoint.ofChar '\'')) ++
    [quote] ++ (")" : Text)

namespace Moment

/-- A number in decimal digits, filled with zeros to a width. -/
def padded (width number : Nat) : Text :=
  let written := Text.ofNat number
  List.replicate (width - written.length) (CodePoint.ofChar '0') ++ written

/-- The date alone, year first. -/
def date (moment : Moment) : Text :=
  padded 4 moment.year ++ ("-" : Text) ++ padded 2 moment.month ++ ("-" : Text) ++
    padded 2 moment.day

/-- The distance from universal time as a sign, hours and minutes. -/
def offsetText : Option Int → Text
  | none =>
      []
  | some minutes =>
      let sign : Text := if minutes < 0 then "-" else "+"
      sign ++ padded 2 (minutes.natAbs / 60) ++ (":" : Text) ++ padded 2 (minutes.natAbs % 60)

/-- The fraction of a second, unless it is zero. -/
def fractionText (microsecond : Nat) : Text :=
  if microsecond = 0 then
    []
  else
    ("." : Text) ++ padded 6 microsecond

/-- A moment in the international format, with a separator before the time. -/
def isoText (separator : Text) (moment : Moment) : Text :=
  match moment.clock with
  | none =>
      moment.date
  | some clock =>
      moment.date ++ separator ++ padded 2 clock.hour ++ (":" : Text) ++
        padded 2 clock.minute ++ (":" : Text) ++ padded 2 clock.second ++
        fractionText clock.microsecond ++ offsetText clock.offset

/-- A span of minutes as days and seconds, the seconds never negative. -/
def spanText (minutes : Int) : Text :=
  let days := Int.fdiv minutes 1440
  let seconds := (Int.fmod minutes 1440) * 60
  let parts :=
    (if days = 0 then [] else [("days=" : Text) ++ Text.ofInt days]) ++
      (if seconds = 0 then [] else [("seconds=" : Text) ++ Text.ofInt seconds])
  ("datetime.timedelta(" : Text) ++ Text.joined ", " parts ++ (")" : Text)

/-- The zone of a quoted moment. -/
def zoneText : Option Int → Text
  | none =>
      []
  | some minutes =>
      if minutes = 0 then
        ", tzinfo=datetime.timezone.utc"
      else
        (", tzinfo=datetime.timezone(" : Text) ++ spanText minutes ++ (")" : Text)

/-- A moment as it is quoted: its parts in order, trailing zero parts left out. -/
def quoted (moment : Moment) : Text :=
  match moment.clock with
  | none =>
      ("datetime.date(" : Text) ++
        Text.joined ", " ([moment.year, moment.month, moment.day].map Text.ofNat) ++ (")" : Text)
  | some clock =>
      let optional :=
        if clock.microsecond ≠ 0 then
          [clock.second, clock.microsecond]
        else if clock.second ≠ 0 then
          [clock.second]
        else
          []
      let parts :=
        [moment.year, moment.month, moment.day, clock.hour, clock.minute] ++ optional
      ("datetime.datetime(" : Text) ++ Text.joined ", " (parts.map Text.ofNat) ++
        zoneText clock.offset ++ (")" : Text)

end Moment

namespace Value

mutual

/-- A value so written that its type shows. -/
def quoted : Value → Text
  | null =>
      "None"
  | bool true =>
      "True"
  | bool false =>
      "False"
  | int number =>
      Text.ofInt number
  | float number =>
      number.toText
  | text content =>
      content.quoted
  | bytes content =>
      quotedBytes content
  | byteBuffer content =>
      quotedBuffer content
  | moment date =>
      date.quoted
  | list items =>
      ("[" : Text) ++ Text.joined ", " (quotedItems items) ++ ("]" : Text)
  | mapping entries =>
      ("\x7b" : Text) ++ Text.joined ", " (quotedEntries entries) ++ ("\x7d" : Text)
  | pair first second =>
      ("(" : Text) ++ quoted first ++ (", " : Text) ++ quoted second ++ (")" : Text)
  | set [] =>
      "set()"
  | set (first :: rest) =>
      ("\x7b" : Text) ++ Text.joined ", " (quotedItems (first :: rest)) ++ ("\x7d" : Text)
  | enclosing .list =>
      "[...]"
  | enclosing .mapping =>
      "\x7b...\x7d"

/-- The quoted items of a list. -/
def quotedItems : List Value → List Text
  | [] =>
      []
  | first :: rest =>
      quoted first :: quotedItems rest

/-- The quoted entries of a mapping. -/
def quotedEntries : List (Value × Value) → List Text
  | [] =>
      []
  | (key, value) :: rest =>
      (quoted key ++ (": " : Text) ++ quoted value) :: quotedEntries rest

end

/-- A value as it stands inside a sentence: text without quotes. -/
def shown : Value → Text
  | text content =>
      content
  | moment date =>
      date.isoText " "
  | other =>
      other.quoted

end Value

end SessionHandshake
