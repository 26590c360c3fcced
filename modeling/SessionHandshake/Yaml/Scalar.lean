import SessionHandshake.Fault.Basic
import SessionHandshake.Yaml.Cursor

namespace SessionHandshake

namespace Yaml

/-!
# Scalars

A scalar is written plainly, between quotes, or as a block of lines below a
header.  In all three styles lines are folded: a single line break counts as a
space, and of several the first does not count.

Each reader takes the place where a scalar begins and gives its content and the
place after it.  The bound on the number of steps is the length of what is left,
so it never decides what is read.
-/

/-- A text breaks the rules of the format. -/
def broken {Result : Type} : Except Fault Result :=
  .error .badConfiguration

/-- What a first line break and the ones after it stand for. -/
def folded (first : CodePoint) (others : Text) : Text :=
  if first ≠ lineFeed then
    first :: others
  else if others.isEmpty then
    [CodePoint.ofChar ' ']
  else
    others

/-! ## Between quotes -/

/-- The characters that a letter after a backslash stands for. -/
def escapeLetters : List (Char × Nat) := [
  ('0', 0x00), ('a', 0x07), ('b', 0x08), ('t', 0x09), ('\t', 0x09), ('n', 0x0a), ('v', 0x0b),
  ('f', 0x0c), ('r', 0x0d), ('e', 0x1b), (' ', 0x20), ('"', 0x22), ('\\', 0x5c), ('/', 0x2f),
  ('N', 0x85), ('_', 0xa0), ('L', 0x2028), ('P', 0x2029)]

/-- The character that one letter after a backslash stands for. -/
def escapedPoint? (letter : CodePoint) : Option CodePoint :=
  (escapeLetters.find? fun escape => letter = CodePoint.ofChar escape.1).map
    fun escape => CodePoint.ofNat escape.2

/-- How many hexadecimal digits follow a letter after a backslash. -/
def escapeWidth? (letter : CodePoint) : Option Nat :=
  if letter = CodePoint.ofChar 'x' then
    some 2
  else if letter = CodePoint.ofChar 'u' then
    some 4
  else if letter = CodePoint.ofChar 'U' then
    some 8
  else
    none

/-- The number that hexadecimal digits write. -/
def hexNumber? (digits : Text) : Option Nat :=
  digits.foldlM (fun total digit => digit.hexValue?.map (16 * total + ·)) 0

/-- The character with a written number, which must be one of a character. -/
def numberedPoint (number : Nat) : Except Fault CodePoint :=
  match CodePoint.ofNat? number with
  | some point =>
      .ok point
  | none =>
      if number < 0x80000000 then
        .error (.badValue .unspecified)
      else
        .error .numberTooLarge

/-- The line breaks at the start of lines inside quotes, and the place after them. -/
def quotedBreaks : Nat → Cursor → Except Fault (Text × Cursor)
  | 0, _ =>
      broken
  | fuel + 1, cursor =>
      if cursor.isAtSeparator then
        broken
      else
        let cursor := cursor.skip isBlank
        match cursor.lineBreak? with
        | none =>
            .ok ([], cursor)
        | some (point, cursor) => do
            let (others, cursor) ← quotedBreaks fuel cursor
            return (point :: others, cursor)

/-- The blanks and line breaks at a place inside quotes, and the place after them. -/
def quotedBlanks (cursor : Cursor) : Except Fault (Text × Cursor) :=
  let blanks := cursor.run isBlank
  let cursor := cursor.skip isBlank
  match cursor.lineBreak? with
  | some (point, cursor) => do
      let (others, cursor) ← quotedBreaks (cursor.rest.length + 1) cursor
      return (folded point others, cursor)
  | none =>
      if cursor.peek.isNone then
        broken
      else
        .ok (blanks, cursor)

/-- What follows a backslash, and the place after it. -/
def quotedEscape (cursor : Cursor) : Except Fault (Text × Cursor) :=
  match cursor.peek with
  | none =>
      broken
  | some letter =>
      match escapedPoint? letter with
      | some point =>
          .ok ([point], cursor.next)
      | none =>
          match escapeWidth? letter with
          | some width =>
              let digits := cursor.next.rest.take width
              match hexNumber? digits with
              | some number =>
                  if digits.length < width then
                    broken
                  else do
                    let point ← numberedPoint number
                    return ([point], cursor.next.advance width)
              | none =>
                  broken
          | none =>
              match cursor.lineBreak? with
              | some (_, cursor) =>
                  quotedBreaks (cursor.rest.length + 1) cursor
              | none =>
                  broken

/-- The characters at a place inside quotes that may not be taken one by one. -/
def quotedPiece (isDouble : Bool) (point : CodePoint) (cursor : Cursor) : Except Fault (Text × Cursor) :=
  if isBlank point || isBreak point then
    quotedBlanks cursor
  else if isDouble && point = CodePoint.ofChar '\\' then
    quotedEscape cursor.next
  else
    .ok ([point], cursor.next)

/-- The content up to the closing quote, and the place after the quote. -/
def quotedContent (isDouble : Bool) : Nat → Cursor → Except Fault (Text × Cursor)
  | 0, _ =>
      broken
  | fuel + 1, cursor =>
      match cursor.peek with
      | none =>
          broken
      | some point =>
          if point = CodePoint.ofChar (if isDouble then '"' else '\'') then
            if !isDouble && cursor.peekAt 1 = some point then do
              let (content, cursor) ← quotedContent isDouble fuel (cursor.advance 2)
              return (point :: content, cursor)
            else
              .ok ([], cursor.next)
          else do
            let (piece, cursor) ← quotedPiece isDouble point cursor
            let (content, cursor) ← quotedContent isDouble fuel cursor
            return (piece ++ content, cursor)

/-- A scalar between quotes. -/
def quotedScalar (isDouble : Bool) (cursor : Cursor) : Except Fault (Text × Cursor) :=
  quotedContent isDouble (cursor.rest.length + 1) cursor.next

/-! ## Plainly -/

/-- A character, with the one after it, cannot be part of a plain scalar. -/
def stopsPlain (isInFlow : Bool) (point : CodePoint) (next : Option CodePoint) : Bool :=
  endsWord (some point) ||
    (point = CodePoint.ofChar ':' &&
      (endsWord next || (isInFlow && next.any fun other => other.isOneOf ",[]\x7b\x7d"))) ||
    (isInFlow && point.isOneOf ",?[]\x7b\x7d")

/-- The characters at the front that can be part of a plain scalar. -/
def plainRun (isInFlow : Bool) : Text → Text
  | [] =>
      []
  | point :: rest =>
      if stopsPlain isInFlow point rest.head? then
        []
      else
        point :: plainRun isInFlow rest

/-- The blank lines at a place, and the place after them; none before a separator. -/
def plainBreaks : Nat → Cursor → Option Text × Cursor
  | 0, cursor =>
      (none, cursor)
  | fuel + 1, cursor =>
      if cursor.isAtSeparator then
        (none, cursor)
      else
        let cursor := cursor.skip isSpace
        match cursor.lineBreak? with
        | none =>
            (some [], cursor)
        | some (point, cursor) =>
            let (others, cursor) := plainBreaks fuel cursor
            (others.map (point :: ·), cursor)

/-- What stands between two parts of a plain scalar. -/
structure PlainGap where
  content : Text
  hasBreak : Bool
  cursor : Cursor

/-- The gap after a part of a plain scalar; without content the scalar ends. -/
def plainGap (cursor : Cursor) : PlainGap :=
  let spaces := cursor.run isSpace
  let cursor := cursor.skip isSpace
  match cursor.lineBreak? with
  | none =>
      { content := spaces, hasBreak := false, cursor := cursor }
  | some (point, cursor) =>
      let (others, cursor) := plainBreaks (cursor.rest.length + 1) cursor
      let content := (others.map (folded point)).getD []
      { content := content, hasBreak := true, cursor := cursor }

/-- A plain scalar: its content, and whether a line break has been read after it. -/
structure PlainScalar where
  content : Text
  endsInBreak : Bool
  cursor : Cursor

/-- A plain scalar from a place on, given what has been read and the last gap. -/
def plainParts
    (isInFlow : Bool)
    (indent : Int) :
    Nat → Text → PlainGap → PlainScalar
  | 0, content, gap =>
      { content := content, endsInBreak := gap.hasBreak, cursor := gap.cursor }
  | fuel + 1, content, gap =>
      let part := plainRun isInFlow gap.cursor.rest
      if gap.cursor.isAt '#' || part.isEmpty then
        { content := content, endsInBreak := gap.hasBreak, cursor := gap.cursor }
      else
        let content := content ++ gap.content ++ part
        let gap := plainGap (gap.cursor.advance part.length)
        if gap.content.isEmpty || (!isInFlow && gap.cursor.column < indent) then
          { content := content, endsInBreak := gap.hasBreak, cursor := gap.cursor }
        else
          plainParts isInFlow indent fuel content gap

/-- A plain scalar whose later lines begin at a column or further on. -/
def plainScalar (isInFlow : Bool) (indent : Int) (cursor : Cursor) : PlainScalar :=
  plainParts isInFlow indent (cursor.rest.length + 1) []
    { content := [], hasBreak := false, cursor := cursor }

/-! ## In a block -/

/-- What happens to the line breaks at the end of a block. -/
inductive Chomping where
  | strip
  | clip
  | keep
  deriving DecidableEq

/-- The header of a block: what happens at its end, and how far it is indented. -/
structure BlockHeader where
  chomping : Chomping
  increment : Option Nat

/-- A sign of what happens at the end of a block. -/
def chomping? (cursor : Cursor) : Option Chomping :=
  if cursor.isAt '+' then
    some .keep
  else if cursor.isAt '-' then
    some .strip
  else
    none

/-- A digit that says how far a block is indented. -/
def increment? (cursor : Cursor) : Option Nat :=
  (cursor.peek.filter CodePoint.isDigit).map fun digit => digit.value - 0x30

/-- The signs of a header in either order, and the place after them. -/
def headerSigns (cursor : Cursor) : BlockHeader × Cursor :=
  match chomping? cursor with
  | some chomping =>
      match increment? cursor.next with
      | some increment =>
          ({ chomping := chomping, increment := some increment }, cursor.advance 2)
      | none =>
          ({ chomping := chomping, increment := none }, cursor.next)
  | none =>
      match increment? cursor with
      | none =>
          ({ chomping := .clip, increment := none }, cursor)
      | some increment =>
          match chomping? cursor.next with
          | some chomping =>
              ({ chomping := chomping, increment := some increment }, cursor.advance 2)
          | none =>
              ({ chomping := .clip, increment := some increment }, cursor.next)

/-- The place after the rest of a line that holds nothing but a comment. -/
def ignoredLine (cursor : Cursor) : Except Fault Cursor :=
  let cursor := (cursor.skip isSpace).skipComment
  match cursor.lineBreak? with
  | some (_, cursor) =>
      .ok cursor
  | none =>
      if cursor.peek.isNone then
        .ok cursor
      else
        broken

/-- The header of a block, and the place on the line below it. -/
def blockHeader (cursor : Cursor) : Except Fault (BlockHeader × Cursor) :=
  let (header, cursor) := headerSigns cursor
  if header.increment = some 0 || !endsField cursor.peek then
    broken
  else do
    let cursor ← ignoredLine cursor
    return (header, cursor)

/-- The blank lines in front of a block, and the greatest indentation seen. -/
def blockIndentation : Nat → Nat → Cursor → (Text × Nat) × Cursor
  | 0, greatest, cursor =>
      (([], greatest), cursor)
  | fuel + 1, greatest, cursor =>
      let spaces := (cursor.run isSpace).length
      let cursor := cursor.skip isSpace
      let greatest := if spaces = 0 then greatest else max greatest cursor.column
      match cursor.lineBreak? with
      | none =>
          (([], greatest), cursor)
      | some (point, cursor) =>
          let ((others, greatest), cursor) := blockIndentation fuel greatest cursor
          ((point :: others, greatest), cursor)

/-- The blank lines of a block with a known indentation, and the place after them. -/
def blockBreaks (indent : Nat) : Nat → Cursor → Text × Cursor
  | 0, cursor =>
      ([], cursor)
  | fuel + 1, cursor =>
      let cursor := cursor.skipSpacesTo indent
      match cursor.lineBreak? with
      | none =>
          ([], cursor)
      | some (point, cursor) =>
          let (others, cursor) := blockBreaks indent fuel cursor
          (point :: others, cursor)

/-- The content of a block, apart from what its end keeps. -/
structure BlockBody where
  content : Text
  lastBreak : Text
  laterBreaks : Text
  cursor : Cursor

/-- What the breaks between two lines of a block stand for. -/
def blockJoint
    (isFolded startsBlank nextStartsBlank : Bool)
    (lineBreak breaks : Text) :
    Text :=
  if isFolded && lineBreak = [lineFeed] && !startsBlank && !nextStartsBlank then
    if breaks.isEmpty then [CodePoint.ofChar ' '] else []
  else
    lineBreak

/-- The lines of a block, given what has been read and the breaks before the next line. -/
def blockLines (isFolded : Bool) (indent : Nat) : Nat → Text → Text → Cursor → BlockBody
  | 0, content, breaks, cursor =>
      { content := content, lastBreak := [], laterBreaks := breaks, cursor := cursor }
  | fuel + 1, content, breaks, cursor =>
      let startsBlank := cursor.isAtAny isBlank
      let line := cursor.run fun point => !isBreak point
      let content := content ++ breaks ++ line
      let cursor := cursor.advance line.length
      let (lineBreak, cursor) := match cursor.lineBreak? with
        | some (point, cursor) =>
            ([point], cursor)
        | none =>
            ([], cursor)
      let (breaks, cursor) := blockBreaks indent (cursor.rest.length + 1) cursor
      if cursor.column = indent && cursor.peek.isSome then
        let joint := blockJoint isFolded startsBlank (cursor.isAtAny isBlank) lineBreak breaks
        blockLines isFolded indent fuel (content ++ joint) breaks cursor
      else
        { content := content, lastBreak := lineBreak, laterBreaks := breaks, cursor := cursor }

/-- The body of a block, which has no lines if none is indented far enough. -/
def blockBody (isFolded : Bool) (indent : Nat) (breaks : Text) (cursor : Cursor) : BlockBody :=
  if cursor.column = indent && cursor.peek.isSome then
    blockLines isFolded indent (cursor.rest.length + 1) [] breaks cursor
  else
    { content := [], lastBreak := [], laterBreaks := breaks, cursor := cursor }

/-- The content of a block with what its end keeps. -/
def BlockBody.chomped (body : BlockBody) : Chomping → Text
  | .strip =>
      body.content
  | .clip =>
      body.content ++ body.lastBreak
  | .keep =>
      body.content ++ body.lastBreak ++ body.laterBreaks

/-- A scalar in a block below a node with a given indentation. -/
def blockScalar (isFolded : Bool) (parentIndent : Int) (cursor : Cursor) : Except Fault (Text × Cursor) := do
  let (header, cursor) ← blockHeader cursor.next
  let least := (max 1 (parentIndent + 1)).toNat
  let body := match header.increment with
    | some increment =>
        let indent := least + increment - 1
        let (breaks, cursor) := blockBreaks indent (cursor.rest.length + 1) cursor
        blockBody isFolded indent breaks cursor
    | none =>
        let ((breaks, greatest), cursor) := blockIndentation (cursor.rest.length + 1) 0 cursor
        blockBody isFolded (max least greatest) breaks cursor
  return (body.chomped header.chomping, body.cursor)

end Yaml

end SessionHandshake
