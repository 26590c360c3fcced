import SessionHandshake.Yaml.Token.Basic

namespace SessionHandshake

namespace Yaml

/-!
# Tokens of a text

A node that is followed by a colon is a key, which is known only when the colon
is reached.  Until then the node is a pending key, and when the colon comes the
mark of a key is put in front of it.  A pending key lasts for one line and for
1024 characters.  A node that stands in the column of the block it belongs to
can be nothing else than a key, so it is a fault if no colon follows.

Indentation opens and closes blocks only outside brackets and braces.

A token is read when it is asked for, so a fault in a text counts only for those
who ask for a token behind it.  The tokens in front of a fault are those that
were known for certain before the text was read that far.
-/

/-- The tokens of a text up to a fault in it, or to its end. -/
structure TokenSequence where
  tokens : List Token
  fault : Option Fault

/-- A node that is a key if a colon follows. -/
structure PendingKey where
  /-- How many brackets and braces are open around it. -/
  depth : Nat
  /-- How many tokens stand before it. -/
  position : Nat
  isRequired : Bool
  index : Nat
  line : Nat
  column : Nat

/-- The greatest distance between a key and its colon. -/
def longestKey : Nat := 1024

/-- How far the tokens of a text are known. -/
structure Layout where
  cursor : Cursor
  /-- The tokens so far, the latest first. -/
  reversed : List Token
  depth : Nat
  indent : Int
  outerIndents : List Int
  allowsKey : Bool
  pending : List PendingKey

namespace Layout

/-- Nothing is known yet. -/
def start (text : Text) : Layout where
  cursor := Cursor.start text
  reversed := []
  depth := 0
  indent := -1
  outerIndents := []
  allowsKey := true
  pending := []

/-- Inside brackets or braces. -/
def isInFlow (layout : Layout) : Bool :=
  layout.depth ≠ 0

/-- The column of the next token. -/
def column (layout : Layout) : Int :=
  layout.cursor.column

/-- One more token. -/
def push (layout : Layout) (token : Token) : Layout :=
  { layout with reversed := token :: layout.reversed }

/-- A token put in front of those from a position on. -/
def insertAt (layout : Layout) (position : Nat) (token : Token) : Layout :=
  { layout with
    reversed := layout.reversed.insertIdx (layout.reversed.length - position) token }

/-! ## Pending keys -/

/-- A pending key is too far away for a colon to follow it. -/
def PendingKey.isStale (key : PendingKey) (cursor : Cursor) : Bool :=
  key.line ≠ cursor.line || longestKey < cursor.index - key.index

/-- The pending keys without those that are too far away. -/
def dropStale (layout : Layout) : Except Fault Layout :=
  if layout.pending.any fun key => key.isRequired && PendingKey.isStale key layout.cursor then
    broken
  else
    .ok { layout with
      pending := layout.pending.filter fun key => !PendingKey.isStale key layout.cursor }

/-- The pending key between the brackets that are open now. -/
def pendingKey? (layout : Layout) : Option PendingKey :=
  layout.pending.find? fun key => key.depth = layout.depth

/-- No key is pending between the brackets that are open now. -/
def withoutPending (layout : Layout) : Layout :=
  { layout with pending := layout.pending.filter fun key => key.depth ≠ layout.depth }

/-- The pending key, if there is one, is no key after all. -/
def giveUpPending (layout : Layout) : Except Fault Layout :=
  if layout.pendingKey?.any PendingKey.isRequired then
    broken
  else
    .ok layout.withoutPending

/-- The next node may turn out to be a key. -/
def notePending (layout : Layout) : Except Fault Layout :=
  if layout.allowsKey then do
    let layout ← layout.giveUpPending
    let key : PendingKey := {
      depth := layout.depth
      position := layout.reversed.length
      isRequired := !layout.isInFlow && layout.indent = layout.column
      index := layout.cursor.index
      line := layout.cursor.line
      column := layout.cursor.column
    }
    return { layout with pending := key :: layout.pending }
  else
    .ok layout

/-! ## Indentation -/

/-- The blocks closed that are indented further than a column. -/
def closeBlocks (column : Int) (layout : Layout) : List Int → Layout
  | [] =>
      layout
  | outer :: others =>
      if column < layout.indent then
        closeBlocks column
          { layout with
            reversed := .blockEnd :: layout.reversed, indent := outer, outerIndents := others }
          others
      else
        layout

/-- The blocks closed that are indented further than a column, outside of brackets. -/
def unindent (layout : Layout) (column : Int) : Layout :=
  if layout.isInFlow then
    layout
  else
    closeBlocks column layout layout.outerIndents

/-- A block opened in a column, unless the current block already stands there. -/
def indentTo (layout : Layout) (column : Int) : Option Layout :=
  if layout.indent < column then
    some { layout with indent := column, outerIndents := layout.indent :: layout.outerIndents }
  else
    none

/-- A block opened in the current column by a token that is its first. -/
def openBlock (layout : Layout) (first : Token) : Layout :=
  match layout.indentTo layout.column with
  | some layout =>
      layout.push first
  | none =>
      layout

/-! ## Single tokens -/

/-- A token of a number of characters. -/
def mark (layout : Layout) (length : Nat) (token : Token) : Layout :=
  { layout.push token with cursor := layout.cursor.advance length }

/-- A token that has been read up to a place. -/
def taken (layout : Layout) (read : Token × Cursor) : Layout :=
  { layout.push read.1 with cursor := read.2 }

/-- Keys may follow, or may not. -/
def withKeys (layout : Layout) (allowsKey : Bool) : Layout :=
  { layout with allowsKey := allowsKey }

/-- All blocks closed, as at the end of a document. -/
def endDocument (layout : Layout) : Except Fault Layout := do
  let layout ← (layout.unindent (-1)).giveUpPending
  return layout.withKeys false

/-- The end of the text. -/
def finish (layout : Layout) : Except Fault Layout := do
  let layout ← layout.endDocument
  return { layout with pending := [] }

/-- A directive. -/
def directive (layout : Layout) : Except Fault Layout := do
  let layout ← layout.endDocument
  let read ← readDirective layout.cursor
  return layout.taken read

/-- A mark that separates documents. -/
def separator (layout : Layout) (token : Token) : Except Fault Layout := do
  let layout ← layout.endDocument
  return layout.mark 3 token

/-- An opening bracket or brace. -/
def openFlow (layout : Layout) (token : Token) : Except Fault Layout := do
  let layout ← layout.notePending
  return ({ layout with depth := layout.depth + 1 }.withKeys true).mark 1 token

/-- A closing bracket or brace, which must have an opening one. -/
def closeFlow (layout : Layout) (token : Token) : Except Fault Layout := do
  let layout ← layout.giveUpPending
  match layout.depth with
  | 0 =>
      broken
  | depth + 1 =>
      return ({ layout with depth := depth }.withKeys false).mark 1 token

/-- A comma. -/
def comma (layout : Layout) : Except Fault Layout := do
  let layout ← (layout.withKeys true).giveUpPending
  return layout.mark 1 .comma

/-- A mark that may open a block, where keys are allowed. -/
def blockMark (layout : Layout) (first : Token) : Except Fault Layout :=
  if layout.isInFlow then
    .ok layout
  else if layout.allowsKey then
    .ok (layout.openBlock first)
  else
    broken

/-- A dash in front of an item. -/
def dash (layout : Layout) : Except Fault Layout := do
  let layout ← layout.blockMark .blockListStart
  let layout ← (layout.withKeys true).giveUpPending
  return layout.mark 1 .dash

/-- A question mark in front of a key. -/
def explicitKey (layout : Layout) : Except Fault Layout := do
  let layout ← layout.blockMark .blockMappingStart
  let layout ← (layout.withKeys (!layout.isInFlow)).giveUpPending
  return layout.mark 1 .key

/-- The marks of a pending key, now that its colon has come. -/
def confirmKey (layout : Layout) (key : PendingKey) : Layout :=
  let layout := layout.withoutPending.insertAt key.position .key
  let opened := if layout.isInFlow then none else layout.indentTo key.column
  match opened with
  | some layout =>
      layout.insertAt key.position .blockMappingStart
  | none =>
      layout

/-- A colon in front of a value. -/
def value (layout : Layout) : Except Fault Layout := do
  let layout ← match layout.pendingKey? with
    | some key =>
        pure ((layout.confirmKey key).withKeys false)
    | none => do
        let layout ← layout.blockMark .blockMappingStart
        (layout.withKeys (!layout.isInFlow)).giveUpPending
  return layout.mark 1 .value

/-- A property of a node, or a scalar between quotes. -/
def nodePart
    (layout : Layout)
    (read : Cursor → Except Fault (Token × Cursor)) :
    Except Fault Layout := do
  let layout ← layout.notePending
  let part ← read layout.cursor
  return (layout.withKeys false).taken part

/-- A scalar in a block. -/
def block (layout : Layout) (isFolded : Bool) : Except Fault Layout := do
  let layout ← (layout.withKeys true).giveUpPending
  let (content, cursor) ← blockScalar isFolded layout.indent layout.cursor
  return layout.taken (.scalar content false, cursor)

/-- A plain scalar, after which a key may follow if a line has ended. -/
def plain (layout : Layout) : Except Fault Layout := do
  let layout ← layout.notePending
  let scalar := plainScalar layout.isInFlow (layout.indent + 1) layout.cursor
  return (layout.taken (.scalar scalar.content true, scalar.cursor)).withKeys scalar.endsInBreak

/-! ## The next token -/

/-- The place of the next token; at the start of a line outside brackets keys are allowed. -/
def skipFiller : Nat → Layout → Layout
  | 0, layout =>
      layout
  | fuel + 1, layout =>
      let cursor := (layout.cursor.skip isSpace).skipComment
      match cursor.lineBreak? with
      | some (_, cursor) =>
          skipFiller fuel
            ({ layout with cursor := cursor }.withKeys (layout.allowsKey || !layout.isInFlow))
      | none =>
          { layout with cursor := cursor }

/-- The place of the first token, past a byte-order mark. -/
def skipMark (layout : Layout) : Layout :=
  if layout.cursor.index = 0 && layout.cursor.isAtAny isByteOrderMark then
    { layout with cursor := layout.cursor.next }
  else
    layout

/-- A character can begin a plain scalar. -/
def beginsPlain (layout : Layout) (point : CodePoint) : Bool :=
  if endsWord (some point) then
    false
  else if point.isOneOf "-?:" then
    !endsWord (layout.cursor.peekAt 1) &&
      (point = CodePoint.ofChar '-' || !layout.isInFlow)
  else
    !point.isOneOf ",[]\x7b\x7d#&*!|>'\"%@`"

/-- An anchor, from its ampersand on. -/
def readAnchor (cursor : Cursor) : Except Fault (Token × Cursor) := do
  let (name, cursor) ← readName cursor
  return (.anchor name, cursor)

/-- An alias, from its star on. -/
def readAlias (cursor : Cursor) : Except Fault (Token × Cursor) := do
  let (name, cursor) ← readName cursor
  return (.alias name, cursor)

/-- A scalar between quotes, from the opening one on. -/
def readQuoted (isDouble : Bool) (cursor : Cursor) : Except Fault (Token × Cursor) := do
  let (content, cursor) ← quotedScalar isDouble cursor
  return (.scalar content false, cursor)

/-- A mark counts when it stands by itself, and in brackets in any case. -/
def standsAlone (layout : Layout) : Bool :=
  layout.isInFlow || endsWord (layout.cursor.peekAt 1)

/-- The token that begins with a character. -/
def tokenAt (layout : Layout) (point : CodePoint) : Except Fault Layout :=
  let cursor := layout.cursor
  if cursor.isAt '%' && cursor.column = 0 then
    layout.directive
  else if cursor.column = 0 && cursor.isAtMark "---" then
    layout.separator .documentStart
  else if cursor.column = 0 && cursor.isAtMark "..." then
    layout.separator .documentEnd
  else if cursor.isAt '[' then
    layout.openFlow .flowListStart
  else if cursor.isAt '\x7b' then
    layout.openFlow .flowMappingStart
  else if cursor.isAt ']' then
    layout.closeFlow .flowListEnd
  else if cursor.isAt '\x7d' then
    layout.closeFlow .flowMappingEnd
  else if cursor.isAt ',' then
    layout.comma
  else if cursor.isAt '-' && endsWord (cursor.peekAt 1) then
    layout.dash
  else if cursor.isAt '?' && layout.standsAlone then
    layout.explicitKey
  else if cursor.isAt ':' && layout.standsAlone then
    layout.value
  else if cursor.isAt '*' then
    layout.nodePart readAlias
  else if cursor.isAt '&' then
    layout.nodePart readAnchor
  else if cursor.isAt '!' then
    layout.nodePart readTag
  else if cursor.isAt '|' && !layout.isInFlow then
    layout.block false
  else if cursor.isAt '>' && !layout.isInFlow then
    layout.block true
  else if cursor.isAt '\'' then
    layout.nodePart (readQuoted false)
  else if cursor.isAt '"' then
    layout.nodePart (readQuoted true)
  else if layout.beginsPlain point then
    layout.plain
  else
    broken

/-- The layout at the place of the next token, whose column has closed blocks. -/
def settle (layout : Layout) : Except Fault Layout := do
  let layout ← (layout.skipMark.skipFiller (layout.cursor.rest.length + 1)).dropStale
  return layout.unindent layout.column

/-- One more token, or the end of the text; true if there may be more. -/
def step (layout : Layout) : Except Fault (Layout × Bool) := do
  let layout ← layout.settle
  match layout.cursor.peek with
  | none =>
      return (← layout.finish, false)
  | some point =>
      return (← layout.tokenAt point, true)

/-- All tokens so far. -/
def tokens (layout : Layout) : List Token :=
  layout.reversed.reverse

/-- The tokens that no colon further on can have an effect on. -/
def settledTokens (layout : Layout) : List Token :=
  let pending := layout.pending.filter fun key => !PendingKey.isStale key layout.cursor
  pending.foldl (fun tokens key => tokens.take key.position) layout.tokens

/-- The tokens of all that is left. -/
def complete : Nat → Layout → TokenSequence
  | 0, layout =>
      { tokens := layout.settledTokens, fault := some .badConfiguration }
  | fuel + 1, layout =>
      match layout.step with
      | .error fault =>
          { tokens := layout.settledTokens, fault := some fault }
      | .ok (layout, true) =>
          complete fuel layout
      | .ok (layout, false) =>
          { tokens := layout.tokens, fault := none }

end Layout

/-- The tokens of a text, in which only some characters may occur. -/
def TokenSequence.ofText (text : Text) : TokenSequence :=
  if text.all isAllowed then
    (Layout.start text).complete (text.length + 1)
  else
    { tokens := [], fault := some .badConfiguration }

end Yaml

end SessionHandshake
