import SessionHandshake.Fault.Basic
import SessionHandshake.Yaml.Cursor

namespace SessionHandshake

namespace Yaml

/-!
# Timestamps

A timestamp is a date, perhaps with a time of day, a fraction of a second and
the distance from universal time.  The form is separate from the meaning: a text
of the right form may name a day that does not exist.
-/

/-- The time of day of a written timestamp. -/
structure TimestampClock where
  hour : Text
  minute : Text
  second : Text
  fraction : Text
  /-- The sign, hours and minutes of the distance from universal time, if given. -/
  zone : Option (Bool × Text × Text)
  deriving DecidableEq

/-- The parts of a written timestamp. -/
structure Timestamp where
  year : Text
  month : Text
  day : Text
  clock : Option TimestampClock
  deriving DecidableEq

namespace Timestamp

/-- At most a number of digits at the front, and the text after them. -/
def digitsUpTo (limit : Nat) (text : Text) : Text × Text :=
  let digits := (text.take limit).takeWhile CodePoint.isDigit
  (digits, text.drop digits.length)

/-- Between a least and a greatest number of digits, and the text after them. -/
def digits? (least greatest : Nat) (text : Text) : Option (Text × Text) :=
  let (digits, rest) := digitsUpTo greatest text
  if least ≤ digits.length then
    some (digits, rest)
  else
    none

/-- The text after a character at its front. -/
def after? (character : Char) (text : Text) : Option Text :=
  match text with
  | point :: rest =>
      if point = CodePoint.ofChar character then some rest else none
  | [] =>
      none

/-- The text after the mark between the date and the time of day. -/
def afterDate? (text : Text) : Option Text :=
  match text with
  | point :: rest =>
      if point.isOneOf "Tt" then
        some rest
      else if isBlank point then
        some (rest.dropWhile isBlank)
      else
        none
  | [] =>
      none

/-- The minutes of the distance from universal time, which may be left out. -/
def zoneMinutes? (text : Text) : Option Text :=
  match text with
  | [] =>
      some []
  | _ => do
      let (minutes, rest) ← digits? 2 2 (← after? ':' text)
      if rest.isEmpty then
        some minutes
      else
        none

/-- The distance from universal time at the end of a timestamp, if it is given. -/
def zone? (text : Text) : Option (Option (Bool × Text × Text)) :=
  if text.isEmpty then
    some none
  else
    match text.dropWhile isBlank with
    | [] =>
        none
    | sign :: rest =>
        if sign = CodePoint.ofChar 'Z' ∧ rest.isEmpty then
          some (some (false, [], []))
        else if sign.isOneOf "+-" then do
          let (hours, rest) ← digits? 1 2 rest
          let minutes ← zoneMinutes? rest
          return some (sign = CodePoint.ofChar '-', hours, minutes)
        else
          none

/-- The fraction of a second, and the text after it. -/
def fraction (text : Text) : Text × Text :=
  match after? '.' text with
  | some rest =>
      (rest.takeWhile CodePoint.isDigit, rest.dropWhile CodePoint.isDigit)
  | none =>
      ([], text)

/-- A time of day that is all of a text. -/
def clock? (text : Text) : Option TimestampClock := do
  let (hour, rest) ← digits? 1 2 text
  let (minute, rest) ← digits? 2 2 (← after? ':' rest)
  let (second, rest) ← digits? 2 2 (← after? ':' rest)
  let (fraction, rest) := fraction rest
  let zone ← zone? rest
  return { hour := hour, minute := minute, second := second, fraction := fraction, zone := zone }

/-- The timestamp that a text writes; a break after it does not count. -/
def ofText? (text : Text) : Option Timestamp := do
  let (year, rest) ← digits? 4 4 text.withoutFinalBreak
  let (month, rest) ← digits? 1 2 (← after? '-' rest)
  let (day, rest) ← digits? 1 2 (← after? '-' rest)
  if rest.isEmpty then
    return { year := year, month := month, day := day, clock := none }
  else
    let clock ← clock? (← afterDate? rest)
    return { year := year, month := month, day := day, clock := some clock }

/-- A plain scalar is a timestamp; a date by itself has two digits in each part. -/
def isForm (text : Text) : Bool :=
  match ofText? text with
  | none =>
      false
  | some timestamp =>
      timestamp.clock.isSome || (timestamp.month.length = 2 && timestamp.day.length = 2)

/-! ## Meaning -/

/-- The distance from universal time in minutes, which must be less than a day. -/
def offset (zone : Option (Bool × Text × Text)) : Except Fault (Option Int) :=
  match zone with
  | none =>
      .ok none
  | some (isNegative, hours, minutes) =>
      let distance := 60 * Text.decimalValue hours + Text.decimalValue minutes
      if distance < 24 * 60 then
        .ok (some (if isNegative then -(distance : Int) else distance))
      else
        .error (.badValue .unspecified)

/-- A fraction of a second in whole microseconds, further digits left out. -/
def microseconds (fraction : Text) : Nat :=
  let kept := fraction.take 6
  Text.decimalValue kept * Nat.pow 10 (6 - kept.length)

/-- The time of day that is written. -/
def TimestampClock.toClock (clock : TimestampClock) : Except Fault Clock := do
  let offset ← offset clock.zone
  let hour := Text.decimalValue clock.hour
  let minute := Text.decimalValue clock.minute
  let second := Text.decimalValue clock.second
  if hour < 24 ∧ minute < 60 ∧ second < 60 then
    return {
      hour := hour
      minute := minute
      second := second
      microsecond := microseconds clock.fraction
      offset := offset
    }
  else
    throw (.badValue .unspecified)

/-- The moment that is written, if it exists. -/
def toMoment (timestamp : Timestamp) : Except Fault Moment := do
  let year := Text.decimalValue timestamp.year
  let month := Text.decimalValue timestamp.month
  let day := Text.decimalValue timestamp.day
  let clock ← match timestamp.clock with
    | none =>
        pure none
    | some clock => do
        let clock ← TimestampClock.toClock clock
        pure (some clock)
  if Calendar.isDay year month day then
    return { year := year, month := month, day := day, clock := clock }
  else
    throw (.badValue .unspecified)

end Timestamp

end Yaml

end SessionHandshake
