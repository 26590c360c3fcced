import SessionHandshake.Text.Numeral
import SessionHandshake.Text.Utf8
import SessionHandshake.Yaml.Scalar

namespace SessionHandshake

namespace Yaml

/-!
# Tokens

A token is a scalar, one of the marks that give a document its structure, or a
property of the node that follows.  Where indentation gives the structure, the
marks are tokens that stand for no characters.

The readers below are those of directives and node properties.
-/

/-- A token. -/
inductive Token where
  | version (major : Nat)
  | tagHandle (handle start : Text)
  | otherDirective
  | documentStart
  | documentEnd
  | blockListStart
  | blockMappingStart
  | blockEnd
  | flowListStart
  | flowListEnd
  | flowMappingStart
  | flowMappingEnd
  | dash
  | comma
  | key
  | value
  | alias (name : Text)
  | anchor (name : Text)
  | tag (handle : Option Text) (suffix : Text)
  | scalar (content : Text) (isPlain : Bool)
  deriving DecidableEq

/-! ## Names of nodes -/

/-- A name of a node, from the mark in front of it on. -/
def readName (cursor : Cursor) : Except Fault (Text × Cursor) :=
  let name := cursor.next.run isNamePoint
  let cursor := cursor.next.skip isNamePoint
  if name.isEmpty then
    broken
  else if endsWord cursor.peek || cursor.isAtAny (fun point => point.isOneOf "?:,]\x7d%@`") then
    .ok (name, cursor)
  else
    broken

/-! ## Tags -/

/-- A character that stands for itself in a tag. -/
def isTagPoint (point : CodePoint) : Bool :=
  point.isLetter || point.isDigit || point.isOneOf "-;/?:@&=+$,_.!~*'()[]"

/-- The bytes that hexadecimal numbers after percent signs write, and how many there are. -/
def percentBytes? : Text → Option (Bytes × Text)
  | percent :: first :: second :: rest =>
      if percent = CodePoint.ofChar '%' then
        match first.hexValue?, second.hexValue? with
        | some high, some low =>
            (percentBytes? rest).map fun (bytes, rest) =>
              (UInt8.ofNat (16 * high + low) :: bytes, rest)
        | _, _ =>
            none
      else
        some ([], percent :: first :: second :: rest)
  | rest =>
      if rest.head? = some (CodePoint.ofChar '%') then
        none
      else
        some ([], rest)

/-- The text that bytes written after percent signs encode, and the place after them. -/
def readPercentText (cursor : Cursor) : Except Fault (Text × Cursor) :=
  match percentBytes? cursor.rest with
  | none =>
      broken
  | some (bytes, _) =>
      match Text.ofUtf8? false bytes with
      | none =>
          broken
      | some text =>
          .ok (text, cursor.advance (3 * bytes.length))

/-- The parts of a tag up to a character that cannot be in one. -/
def readTagParts : Nat → Cursor → Except Fault (Text × Cursor)
  | 0, cursor =>
      .ok ([], cursor)
  | fuel + 1, cursor =>
      let plain := cursor.run isTagPoint
      let cursor := cursor.skip isTagPoint
      if cursor.isAt '%' then do
        let (escaped, cursor) ← readPercentText cursor
        let (others, cursor) ← readTagParts fuel cursor
        return (plain ++ escaped ++ others, cursor)
      else
        .ok (plain, cursor)

/-- The part of a tag after its handle, which must not be empty. -/
def readTagText (cursor : Cursor) : Except Fault (Text × Cursor) := do
  let (content, after) ← readTagParts (cursor.rest.length + 1) cursor
  if cursor.index = after.index then
    broken
  else
    return (content, after)

/-- A handle of tags: an exclamation mark, or a name between two of them. -/
def readHandle (cursor : Cursor) : Except Fault (Text × Cursor) :=
  if !cursor.isAt '!' then
    broken
  else if cursor.next.peek.any isSpace then
    .ok ("!", cursor.next)
  else
    let name := cursor.next.run isNamePoint
    let cursor := cursor.next.skip isNamePoint
    if cursor.isAt '!' then
      .ok (("!" : Text) ++ name ++ ("!" : Text), cursor.next)
    else
      broken

/-- A tag between angle brackets, from the exclamation mark on. -/
def readVerbatimTag (cursor : Cursor) : Except Fault (Token × Cursor) := do
  let (suffix, cursor) ← readTagText (cursor.advance 2)
  if cursor.isAt '>' then
    return (.tag none suffix, cursor.next)
  else
    broken

/-- A tag with a handle, from the exclamation mark on. -/
def readHandledTag (cursor : Cursor) : Except Fault (Token × Cursor) := do
  let word := cursor.next.run fun point => !(isBreak point || isSpace point)
  let (handle, cursor) ←
    if word.contains (CodePoint.ofChar '!') then
      readHandle cursor
    else
      pure (("!" : Text), cursor.next)
  let (suffix, cursor) ← readTagText cursor
  return (.tag (some handle) suffix, cursor)

/-- A tag, from its exclamation mark on. -/
def readTag (cursor : Cursor) : Except Fault (Token × Cursor) := do
  let (tag, cursor) ←
    if cursor.next.isAt '<' then
      readVerbatimTag cursor
    else if endsWord cursor.next.peek then
      pure (Token.tag none "!", cursor.next)
    else
      readHandledTag cursor
  if endsField cursor.peek then
    return (tag, cursor)
  else
    broken

/-! ## Directives -/

/-- A number of a version, which has at least one digit and not too many to be read. -/
def readVersionNumber (cursor : Cursor) : Except Fault (Nat × Cursor) :=
  let digits := cursor.run CodePoint.isDigit
  if digits.isEmpty then
    broken
  else if Numeral.maximalDigits < digits.length then
    .error (.badValue .unspecified)
  else
    .ok (Text.decimalValue digits, cursor.skip CodePoint.isDigit)

/-- The version of a directive: two numbers with a point between them. -/
def readVersion (cursor : Cursor) : Except Fault (Token × Cursor) := do
  let (major, cursor) ← readVersionNumber (cursor.skip isSpace)
  if !cursor.isAt '.' then
    broken
  else
    let (_, cursor) ← readVersionNumber cursor.next
    if endsField cursor.peek then
      return (.version major, cursor)
    else
      broken

/-- A handle that a directive declares, and what it stands for. -/
def readTagHandle (cursor : Cursor) : Except Fault (Token × Cursor) := do
  let (handle, cursor) ← readHandle (cursor.skip isSpace)
  if !cursor.peek.any isSpace then
    broken
  else
    let (start, cursor) ← readTagText (cursor.skip isSpace)
    if endsField cursor.peek then
      return (.tagHandle handle start, cursor)
    else
      broken

/-- A directive, from its percent sign to the line below it. -/
def readDirective (cursor : Cursor) : Except Fault (Token × Cursor) := do
  let name := cursor.next.run isNamePoint
  let cursor := cursor.next.skip isNamePoint
  if name.isEmpty || !endsField cursor.peek then
    broken
  else
    let (token, cursor) ←
      if name = ("YAML" : Text) then
        readVersion cursor
      else if name = ("TAG" : Text) then
        readTagHandle cursor
      else
        pure (Token.otherDirective, cursor.skip fun point => !isBreak point)
    let cursor ← ignoredLine cursor
    return (token, cursor)

end Yaml

end SessionHandshake
