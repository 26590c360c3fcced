import SessionHandshake.Text.Basic

namespace SessionHandshake

/-!
# Punycode

A label of a host name that is not ASCII is written with its ASCII characters
first and, after a hyphen, where and which other characters are to be inserted.
Each insertion is a number in a base of 36 digits whose thresholds adapt to the
numbers before it.
-/

namespace Punycode

/-- The number of digits. -/
def base : Nat := 36

/-- The digit for a value below 36: a letter or a decimal digit. -/
def digit (value : Nat) : CodePoint :=
  if value < 26 then
    CodePoint.ofNat (0x61 + value)
  else
    CodePoint.ofNat (0x30 + (value - 26))

/-- How far a number is reduced when the thresholds adapt, and how often. -/
def reduce : Nat → Nat → Nat → Nat × Nat
  | 0, delta, steps =>
      (delta, steps)
  | fuel + 1, delta, steps =>
      if 455 < delta then
        reduce fuel (delta / 35) (steps + 1)
      else
        (delta, steps)

/-- The bias after an insertion. -/
def adapt (delta count : Nat) (isFirst : Bool) : Nat :=
  let delta := if isFirst then delta / 700 else delta / 2
  let (delta, steps) := reduce delta (delta + delta / count) 0
  base * steps + 36 * delta / (delta + 38)

/-- The threshold of a digit, by its position and the bias. -/
def threshold (position bias : Nat) : Nat :=
  min 26 (max 1 (position - bias))

/-- The digits of a number, the least significant first. -/
def numberDigits (bias : Nat) : Nat → Nat → Nat → Text
  | 0, _, _ =>
      []
  | fuel + 1, number, position =>
      let limit := threshold position bias
      if number < limit then
        [digit number]
      else
        let excess := number - limit
        digit (limit + excess % (base - limit)) ::
          numberDigits bias fuel (excess / (base - limit)) (position + base)

/-- How far the insertions have come. -/
structure Progress where
  written : Text
  delta : Nat
  bias : Nat
  handled : Nat
  isFirst : Bool

/-- The insertions of one character, which is the next greater one. -/
def insertPoint (next : Nat) (progress : Progress) (point : CodePoint) : Progress :=
  if point.value < next then
    { progress with delta := progress.delta + 1 }
  else if point.value = next then
    { written :=
        progress.written ++
          numberDigits progress.bias (progress.delta + 1) progress.delta base
      delta := 0
      bias := adapt progress.delta (progress.handled + 1) progress.isFirst
      handled := progress.handled + 1
      isFirst := false }
  else
    progress

/-- The least number of a character of a text that is at least a given one. -/
def leastFrom? (bound : Nat) (text : Text) : Option Nat :=
  ((text.map CodePoint.value).filter (bound ≤ ·)).min?

/-- The insertions of all characters from a number on. -/
def insertFrom (text : Text) : Nat → Nat → Progress → Progress
  | 0, _, progress =>
      progress
  | fuel + 1, bound, progress =>
      match leastFrom? bound text with
      | none =>
          progress
      | some next =>
          let delta := progress.delta + (next - bound) * (progress.handled + 1)
          let progress := text.foldl (insertPoint next) { progress with delta := delta }
          insertFrom text fuel (next + 1) { progress with delta := progress.delta + 1 }

/-- The written form of a label. -/
def encode (text : Text) : Text :=
  let plain := text.filter fun point => point.value < 0x80
  let start : Text := if plain.isEmpty then [] else plain ++ [CodePoint.ofChar '-']
  (insertFrom text (text.length + 1) 0x80
    { written := start, delta := 0, bias := 72, handled := plain.length, isFirst := true }).written

/-! ## Reading -/

/-- The value of a digit in either case. -/
def digitValue? (point : CodePoint) : Option Nat :=
  if point.isDigit then
    some (point.value - 0x30 + 26)
  else if point.isBetween 'a' 'z' then
    some (point.value - 0x61)
  else if point.isBetween 'A' 'Z' then
    some (point.value - 0x41)
  else
    none

/-- A number at the front, and what follows it. -/
def readNumber? (bias : Nat) : Text → Nat → Nat → Nat → Option (Nat × Text)
  | [], _, _, _ =>
      none
  | point :: rest, position, weight, total =>
      match digitValue? point with
      | none =>
          none
      | some value =>
          let limit := threshold position bias
          let total := total + value * weight
          if value < limit then
            some (total, rest)
          else
            readNumber? bias rest (position + base) (weight * (base - limit)) total

/-- How far reading has come: the text, the last insertion, and the bias. -/
structure Reading where
  text : Text
  next : Nat
  index : Nat
  bias : Nat
  isFirst : Bool

/-- One more character inserted, unless there is none with its number. -/
def insertNext? (reading : Reading) (delta : Nat) : Option Reading :=
  let count := reading.text.length + 1
  let index := reading.index + delta
  (CodePoint.ofNat? (reading.next + index / count)).map fun point => {
    text := reading.text.insertIdx (index % count) point
    next := point.value
    index := index % count + 1
    bias := adapt delta count reading.isFirst
    isFirst := false
  }

/-- All characters inserted; each number takes at least one character. -/
def insertAll? : Nat → Reading → Text → Option Text
  | _, reading, [] =>
      some reading.text
  | 0, _, _ :: _ =>
      none
  | fuel + 1, reading, insertions =>
      match readNumber? reading.bias insertions base 1 0 with
      | none =>
          none
      | some (delta, rest) =>
          (insertNext? reading delta).bind fun reading => insertAll? fuel reading rest

/-- What stands before the last hyphen of a written form, and what stands after it. -/
def splitWritten (written : Text) : Text × Text :=
  match Text.splitAtFirst (CodePoint.ofChar '-') written.reverse with
  | (insertions, some plain) =>
      (plain.reverse, insertions.reverse)
  | (_, none) =>
      ([], written)

/-- The label of a written form. -/
def decode? (written : Text) : Option Text :=
  let (plain, insertions) := splitWritten written
  insertAll? insertions.length
    { text := plain, next := 0x80, index := 0, bias := 72, isFirst := true } insertions

end Punycode

end SessionHandshake
