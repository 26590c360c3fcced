import SessionHandshake.Text.Basic

namespace SessionHandshake

/-!
# Dates and times of day

A moment is a calendar date, with or without a time of day, and the time of day
may say how far it is from universal time.  Two times whose distances are known
are the same moment if they are the same instant, however they are written.
-/

/-- The time of day, with the distance from universal time in minutes, if known. -/
structure Clock where
  hour : Nat
  minute : Nat
  second : Nat
  microsecond : Nat
  offset : Option Int
  deriving DecidableEq

/-- A calendar date, with or without a time of day. -/
structure Moment where
  year : Nat
  month : Nat
  day : Nat
  clock : Option Clock
  deriving DecidableEq

/-! ## The calendar -/

namespace Calendar

/-- A year with a day more. -/
def isLeap (year : Nat) : Bool :=
  year % 4 = 0 && (year % 100 ≠ 0 || year % 400 = 0)

/-- The number of days of a month. -/
def daysIn (year month : Nat) : Nat :=
  if month = 2 then
    if isLeap year then 29 else 28
  else if month = 4 || month = 6 || month = 9 || month = 11 then
    30
  else
    31

/-- The day exists. -/
def isDay (year month day : Nat) : Bool :=
  1 ≤ year && 1 ≤ month && month ≤ 12 && 1 ≤ day && day ≤ daysIn year month

/-- The number of days in the years before a year, the first of which is year one. -/
def daysBeforeYear (year : Nat) : Nat :=
  let past := year - 1
  365 * past + past / 4 - past / 100 + past / 400

/-- The number of days in a year before a month. -/
def daysBeforeMonth (year month : Nat) : Nat :=
  (List.range (month - 1)).foldl (fun days index => days + daysIn year (index + 1)) 0

/-- The number of a day, counted from the first day of year one. -/
def dayNumber (year month day : Nat) : Nat :=
  daysBeforeYear year + daysBeforeMonth year month + day

end Calendar

namespace Moment

/-- The number of microseconds from the start of the calendar, as the clock shows them. -/
def microseconds (moment : Moment) (clock : Clock) : Nat :=
  let days := Calendar.dayNumber moment.year moment.month moment.day
  (((days * 24 + clock.hour) * 60 + clock.minute) * 60 + clock.second) * 1000000 +
    clock.microsecond

/-- The instant of a moment whose distance from universal time is known. -/
def instant? (moment : Moment) : Option Int := do
  let clock ← moment.clock
  let offset ← clock.offset
  return (moment.microseconds clock : Int) - offset * 60 * 1000000

/-- Equality of moments: by instant if both have one, and as written if neither has. -/
def same (left right : Moment) : Bool :=
  match left.instant?, right.instant? with
  | some leftInstant, some rightInstant =>
      leftInstant = rightInstant
  | none, none =>
      left = right
  | _, _ =>
      false

end Moment

end SessionHandshake
