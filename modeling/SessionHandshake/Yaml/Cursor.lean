import SessionHandshake.Text.Basic

namespace SessionHandshake

namespace Yaml

/-!
# A place in a YAML text

In YAML the column of a token and the line it stands on decide what it means,
so reading keeps count of both.  Four characters end a line; carriage returns
have been replaced before a text is read.
-/

/-- One of the characters that end a line. -/
def isBreak (point : CodePoint) : Bool :=
  point.value = 0x0a || point.value = 0x85 || point.value = 0x2028 || point.value = 0x2029

/-- The space, the only character that indents. -/
def isSpace (point : CodePoint) : Bool :=
  point.value = 0x20

/-- A space or a tab. -/
def isBlank (point : CodePoint) : Bool :=
  point.value = 0x20 || point.value = 0x09

/-- A mark that may stand at the front of a text and takes up no column. -/
def isByteOrderMark (point : CodePoint) : Bool :=
  point.value = 0xfeff

/-- A character that may occur in a text at all. -/
def isAllowed (point : CodePoint) : Bool :=
  let number := point.value
  isBlank point || isBreak point || number = 0x0d || (0x20 ≤ number && number ≤ 0x7e) ||
    (0xa0 ≤ number && number ≤ 0xd7ff) || (0xe000 ≤ number && number ≤ 0xfffd) ||
    0x10000 ≤ number

/-- A letter, a digit, a hyphen or an underscore. -/
def isNamePoint (point : CodePoint) : Bool :=
  point.isLetter || point.isDigit || point.isOneOf "-_"

/-- The end of a text or a line, or a space. -/
def endsField : Option CodePoint → Bool
  | none =>
      true
  | some point =>
      isBreak point || isSpace point

/-- The end of a text or a line, a space or a tab. -/
def endsWord : Option CodePoint → Bool
  | none =>
      true
  | some point =>
      isBreak point || isBlank point

/-- The line break that a character is read as. -/
def brokenLine (point : CodePoint) : CodePoint :=
  if point.value = 0x85 then
    CodePoint.ofNat 0x0a
  else
    point

/-- The plain line break. -/
def lineFeed : CodePoint := CodePoint.ofNat 0x0a

/-- What is left of a text, and where it begins. -/
structure Cursor where
  rest : Text
  index : Nat
  line : Nat
  column : Nat
  deriving DecidableEq

namespace Cursor

/-- The place at the front of a text. -/
def start (text : Text) : Cursor where
  rest := text
  index := 0
  line := 0
  column := 0

/-- The character at a place. -/
def peek (cursor : Cursor) : Option CodePoint :=
  cursor.rest.head?

/-- The character a number of characters further on. -/
def peekAt (cursor : Cursor) (offset : Nat) : Option CodePoint :=
  cursor.rest[offset]?

/-- The place is at a given character. -/
def isAt (cursor : Cursor) (character : Char) : Bool :=
  cursor.peek = some (CodePoint.ofChar character)

/-- The place is at a character of a class. -/
def isAtAny (cursor : Cursor) (accepts : CodePoint → Bool) : Bool :=
  cursor.peek.any accepts

/-- The place after one character. -/
def next (cursor : Cursor) : Cursor :=
  match cursor.rest with
  | [] =>
      cursor
  | point :: rest =>
      if isBreak point then
        { rest := rest, index := cursor.index + 1, line := cursor.line + 1, column := 0 }
      else if isByteOrderMark point then
        { cursor with rest := rest, index := cursor.index + 1 }
      else
        { cursor with rest := rest, index := cursor.index + 1, column := cursor.column + 1 }

/-- The place after a number of characters. -/
def advance : Nat → Cursor → Cursor
  | 0, cursor =>
      cursor
  | count + 1, cursor =>
      advance count cursor.next

/-- The characters of a class at a place. -/
def run (cursor : Cursor) (accepts : CodePoint → Bool) : Text :=
  cursor.rest.takeWhile accepts

/-- The place after the characters of a class. -/
def skip (cursor : Cursor) (accepts : CodePoint → Bool) : Cursor :=
  cursor.advance (cursor.run accepts).length

/-- The place after a run of spaces that goes no further than a column. -/
def skipSpacesTo (cursor : Cursor) (column : Nat) : Cursor :=
  cursor.advance (min (cursor.run isSpace).length (column - cursor.column))

/-- The place after a comment, if one begins here. -/
def skipComment (cursor : Cursor) : Cursor :=
  if cursor.isAt '#' then
    cursor.skip fun point => !isBreak point
  else
    cursor

/-- A line break at a place, and the place after it. -/
def lineBreak? (cursor : Cursor) : Option (CodePoint × Cursor) :=
  match cursor.peek with
  | some point =>
      if isBreak point then
        some (brokenLine point, cursor.next)
      else
        none
  | none =>
      none

/-- The place is at a mark of three characters that stands by itself. -/
def isAtMark (cursor : Cursor) (mark : String) : Bool :=
  cursor.rest.startsWith (Text.ofString mark) && endsWord (cursor.peekAt 3)

/-- The place is at a mark that separates documents. -/
def isAtSeparator (cursor : Cursor) : Bool :=
  cursor.isAtMark "---" || cursor.isAtMark "..."

end Cursor

end Yaml

end SessionHandshake
