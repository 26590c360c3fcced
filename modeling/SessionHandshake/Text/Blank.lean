import SessionHandshake.Text.RangeSet

namespace SessionHandshake

/-!
# White space

Two classes are needed: the white space of any script, which may stand around
a numeral, and the six ASCII bytes that make a body blank.
-/

/-- Where the white space of any script begins and ends. -/
def blankRanges : RangeSet where
  turns := [
    0x9, 0xe, 0x20, 0x21, 0x85, 0x86, 0xa0, 0xa1, 0x1680, 0x1681, 0x2000, 0x200b,
    0x2028, 0x202a, 0x202f, 0x2030, 0x205f, 0x2060, 0x3000, 0x3001]

/-- White space of any script, which may stand around a numeral. -/
def CodePoint.isBlank (point : CodePoint) : Bool :=
  blankRanges.contains point.value

/-- The six ASCII white-space numbers: tab to carriage return, and space. -/
def isAsciiBlank (number : Nat) : Bool :=
  (9 ≤ number && number ≤ 13) || number = 32

end SessionHandshake
