import SessionHandshake.Yaml.Node
import SessionHandshake.Yaml.Token.Layout

namespace SessionHandshake

namespace Yaml

/-!
# From tokens to nodes

The rules by which tokens make up the nodes of a document.  A text holds at most
one document.  A name is given to a collection as soon as the collection begins,
so that the collection may hold itself.

Nodes may be nested only so deep.  The bound on the number of steps is four times
the number of tokens, because of any four steps down one takes a token, so it
never decides what is read.
-/

/-- How deep nodes may be nested. -/
def deepestNesting : Nat := 486

/-- What is left of the tokens, the nodes so far, and those of them that have names. -/
structure Progress where
  rest : TokenSequence
  graph : Graph
  named : List (Text × Place)

/-- Reading a part of a document, which the tokens may not allow. -/
abbrev Composing := StateT Progress (Except Fault)

/-- What the handles of tags stand for. -/
abbrev Handles := List (Text × Text)

namespace Composing

/-! ## Single tokens -/

/-- The next token, if there is one; a fault in the text is met when it is asked for. -/
def peek : Composing (Option Token) := do
  let progress ← get
  match progress.rest.tokens, progress.rest.fault with
  | token :: _, _ =>
      return some token
  | [], some fault =>
      throw fault
  | [], none =>
      return none

/-- The next token is one of a few. -/
def isAt (tokens : List Token) : Composing Bool := do
  return (← peek).any tokens.contains

/-- The next token is passed over. -/
def skip : Composing Unit :=
  modify fun progress =>
    { progress with rest := { progress.rest with tokens := progress.rest.tokens.drop 1 } }

/-- The next token is passed over if it is a given one. -/
def take (token : Token) : Composing Bool := do
  if ← isAt [token] then
    skip
    return true
  else
    return false

/-- The tokens break the rules of the format. -/
def fail {Result : Type} : Composing Result :=
  throw .badConfiguration

/-- The next token must be a given one. -/
def expect (token : Token) : Composing Unit := do
  if ← take token then
    return
  else
    fail

/-! ## Nodes and their names -/

/-- One more node. -/
def add (node : Node) : Composing Place := do
  let progress ← get
  let (place, graph) := progress.graph.add node
  set { progress with graph := graph }
  return place

/-- One more scalar. -/
def addScalar (tag : Tag) (text : Text) : Composing Place :=
  add { tag := tag, content := .scalar text }

/-- The node that nothing stands for. -/
def empty : Composing Place :=
  addScalar .null []

/-- What a node holds, now that it has been read. -/
def complete (place : Place) (content : Content) : Composing Unit :=
  modify fun progress => { progress with graph := progress.graph.setContent place content }

/-- The node that a name stands for. -/
def named (name : Text) : Composing Place := do
  match (← get).named.lookup name with
  | some place =>
      return place
  | none =>
      fail

/-- A name, if there is one, is given to a node; no other node may have it. -/
def giveName (name : Option Text) (place : Place) : Composing Unit := do
  match name with
  | none =>
      return
  | some name =>
      if ((← get).named.lookup name).isSome then
        fail
      else
        modify fun progress => { progress with named := (name, place) :: progress.named }

/-- One more scalar, which may have a name. -/
def namedScalar (name : Option Text) (tag : Tag) (text : Text) : Composing Place := do
  let place ← addScalar tag text
  giveName name place
  return place

/-! ## Properties -/

/-- The name of an anchor, if one is next. -/
def anchor : Composing (Option Text) := do
  match ← peek with
  | some (.anchor name) =>
      skip
      return some name
  | _ =>
      return none

/-- A tag, if one is next. -/
def tag : Composing (Option (Option Text × Text)) := do
  match ← peek with
  | some (.tag handle suffix) =>
      skip
      return some (handle, suffix)
  | _ =>
      return none

/-- The full name of a tag, whose handle must be declared. -/
def tagName (handles : Handles) : Option (Option Text × Text) → Composing (Option Text)
  | none =>
      return none
  | some (none, suffix) =>
      return some suffix
  | some (some handle, suffix) =>
      match handles.lookup handle with
      | some start =>
          return some (start ++ suffix)
      | none =>
          fail

/-- The properties of a node, an anchor and a tag in either order. -/
def properties (handles : Handles) : Composing (Option Text × Option Text) := do
  match ← anchor with
  | some name =>
      return (some name, ← tagName handles (← tag))
  | none =>
      match ← tag with
      | some tag => do
          let name ← anchor
          return (name, ← tagName handles (some tag))
      | none =>
          return (none, none)

/-- A node of which only properties are there, and at least one of them. -/
def absent (name tag : Option Text) : Composing Place :=
  if name.isSome || tag.isSome then
    namedScalar name (scalarTag tag true []) []
  else
    fail

/-! ## Collections -/

/-- A list, given how its items are read. -/
def list (name tag : Option Text) (items : Composing (List Place)) : Composing Place := do
  let place ← add { tag := collectionTag tag .list, content := .list [] }
  giveName name place
  complete place (.list (← items))
  return place

/-- A mapping, given how its entries are read. -/
def mapping
    (name tag : Option Text)
    (entries : Composing (List (Place × Place))) :
    Composing Place := do
  let place ← add { tag := collectionTag tag .mapping, content := .mapping [] }
  giveName name place
  complete place (.mapping (← entries))
  return place

/-- Where a node stands: how deep it may still be nested, and whether it may be a block. -/
structure Surrounding where
  handles : Handles
  levels : Nat
  inBlock : Bool
  unindented : Bool

/-- The surrounding of what a collection in a block holds. -/
def Surrounding.block (surrounding : Surrounding) (unindented : Bool) : Surrounding :=
  { surrounding with inBlock := true, unindented := unindented }

/-- The surrounding of what a collection in brackets or braces holds. -/
def Surrounding.flow (surrounding : Surrounding) : Surrounding :=
  { surrounding with inBlock := false, unindented := false }

/-- The surrounding of what a node in this surrounding holds, unless that is too deep. -/
def Surrounding.deeper (surrounding : Surrounding) : Composing Surrounding :=
  match surrounding.levels with
  | 0 =>
      throw .tooDeep
  | levels + 1 =>
      return { surrounding with levels := levels }

mutual

/-- A node; blocks, and lists that are not indented, only where they may stand. -/
def node (surrounding : Surrounding) : Nat → Composing Place
  | 0 =>
      fail
  | fuel + 1 => do
      let inner ← surrounding.deeper
      match ← peek with
      | some (.alias name) =>
          skip
          named name
      | _ =>
          let (name, tag) ← properties surrounding.handles
          content inner name tag fuel

/-- What a node with given properties holds. -/
def content (surrounding : Surrounding) (name tag : Option Text) : Nat → Composing Place
  | 0 =>
      fail
  | fuel + 1 => do
      match ← peek with
      | some .dash =>
          if surrounding.unindented then
            list name tag (unindentedItems surrounding fuel)
          else
            absent name tag
      | some (.scalar content isPlain) =>
          skip
          namedScalar name (scalarTag tag isPlain content) content
      | some .flowListStart =>
          skip
          list name tag (flowItems surrounding true fuel)
      | some .flowMappingStart =>
          skip
          mapping name tag (flowEntries surrounding true fuel)
      | some .blockListStart =>
          if surrounding.inBlock then
            skip
            list name tag (blockItems surrounding fuel)
          else
            absent name tag
      | some .blockMappingStart =>
          if surrounding.inBlock then
            skip
            mapping name tag (blockEntries surrounding fuel)
          else
            absent name tag
      | _ =>
          absent name tag

/-- A node, or nothing in front of a token that ends it. -/
def nodeUnless (surrounding : Surrounding) (ends : List Token) : Nat → Composing Place
  | 0 =>
      fail
  | fuel + 1 => do
      if ← isAt ends then
        empty
      else
        node surrounding fuel

/-- The items of a list in a block, and the end of the block. -/
def blockItems (surrounding : Surrounding) : Nat → Composing (List Place)
  | 0 =>
      fail
  | fuel + 1 => do
      if ← take .dash then
        let item ← nodeUnless (surrounding.block false) [.dash, .blockEnd] fuel
        return item :: (← blockItems surrounding fuel)
      else
        expect .blockEnd
        return []

/-- The items of a list that stands in the column of its key. -/
def unindentedItems (surrounding : Surrounding) : Nat → Composing (List Place)
  | 0 =>
      fail
  | fuel + 1 => do
      if ← take .dash then
        let item ← nodeUnless (surrounding.block false) [.dash, .key, .value, .blockEnd] fuel
        return item :: (← unindentedItems surrounding fuel)
      else
        return []

/-- The entries of a mapping in a block, and the end of the block. -/
def blockEntries (surrounding : Surrounding) : Nat → Composing (List (Place × Place))
  | 0 =>
      fail
  | fuel + 1 => do
      let ends : List Token := [.key, .value, .blockEnd]
      if ← take .key then
        let key ← nodeUnless (surrounding.block true) ends fuel
        let value ← valueOf (surrounding.block true) ends fuel
        return (key, value) :: (← blockEntries surrounding fuel)
      else
        expect .blockEnd
        return []

/-- The value of a key, which may be left out together with its colon. -/
def valueOf (surrounding : Surrounding) (ends : List Token) : Nat → Composing Place
  | 0 =>
      fail
  | fuel + 1 => do
      if ← take .value then
        nodeUnless surrounding ends fuel
      else
        empty

/-- The items of a list in brackets, and the closing bracket. -/
def flowItems (surrounding : Surrounding) (isFirst : Bool) : Nat → Composing (List Place)
  | 0 =>
      fail
  | fuel + 1 => do
      if ← take .flowListEnd then
        return []
      else
        if !isFirst then
          expect .comma
        if ← take .flowListEnd then
          return []
        else if ← isAt [.key] then
          let item ← mapping none none (flowPair surrounding fuel)
          return item :: (← flowItems surrounding false fuel)
        else
          let item ← node surrounding.flow fuel
          return item :: (← flowItems surrounding false fuel)

/-- The only entry of a mapping that stands in brackets without braces. -/
def flowPair (surrounding : Surrounding) : Nat → Composing (List (Place × Place))
  | 0 =>
      fail
  | fuel + 1 => do
      let inner ← surrounding.flow.deeper
      skip
      let key ← nodeUnless inner [.value, .comma, .flowListEnd] fuel
      let value ← valueOf inner [.comma, .flowListEnd] fuel
      return [(key, value)]

/-- The entries of a mapping in braces, and the closing brace. -/
def flowEntries (surrounding : Surrounding) (isFirst : Bool) :
    Nat → Composing (List (Place × Place))
  | 0 =>
      fail
  | fuel + 1 => do
      if ← take .flowMappingEnd then
        return []
      else
        if !isFirst then
          expect .comma
        if ← take .flowMappingEnd then
          return []
        else if ← take .key then
          let key ← nodeUnless surrounding.flow [.value, .comma, .flowMappingEnd] fuel
          let value ← valueOf surrounding.flow [.comma, .flowMappingEnd] fuel
          return (key, value) :: (← flowEntries surrounding false fuel)
        else
          let key ← node surrounding.flow fuel
          let value ← empty
          return (key, value) :: (← flowEntries surrounding false fuel)

end

/-! ## Documents -/

/-- The handles that need no declaration. -/
def usualHandles : Handles :=
  [("!", "!"), ("!!", Tag.standard)]

/-- The directives at the front; the version must be 1, and nothing is declared twice. -/
def directives (hasVersion : Bool) (handles : Handles) : Nat → Composing Handles
  | 0 =>
      fail
  | fuel + 1 => do
      match ← peek with
      | some (.version major) =>
          if hasVersion ∨ major ≠ 1 then
            fail
          else
            skip
            directives true handles fuel
      | some (.tagHandle handle start) =>
          if (handles.lookup handle).isSome then
            fail
          else
            skip
            directives hasVersion ((handle, start) :: handles) fuel
      | some .otherDirective =>
          skip
          directives hasVersion handles fuel
      | _ =>
          return handles

/-- The mark that begins a document, behind its directives. -/
def documentStart (fuel : Nat) : Composing Handles := do
  let handles ← directives false [] fuel
  expect .documentStart
  return handles ++ usualHandles

/-- The node of a document in which given handles are declared. -/
def documentNode (handles : Handles) (fuel : Nat) : Composing Place :=
  node { handles := handles, levels := deepestNesting, inBlock := true, unindented := false } fuel

/-- A token stands between documents. -/
def isBetweenDocuments : Token → Bool
  | .version _ | .tagHandle _ _ | .otherDirective | .documentStart | .documentEnd =>
      true
  | _ =>
      false

/-- The node of a document that begins with directives and a mark. -/
def explicitDocument (fuel : Nat) : Composing Place := do
  let handles ← documentStart fuel
  match ← peek with
  | none =>
      empty
  | some token =>
      if isBetweenDocuments token then
        empty
      else
        documentNode handles fuel

/-- Marks of the end of a document are passed over. -/
def skipDocumentEnds : Nat → Composing Unit
  | 0 =>
      fail
  | fuel + 1 => do
      if ← take .documentEnd then
        skipDocumentEnds fuel

/-- No document may follow. -/
def finish (fuel : Nat) : Composing Unit := do
  skipDocumentEnds fuel
  match ← peek with
  | none =>
      return
  | some _ =>
      let _ ← documentStart fuel
      fail

/-- The node of the only document, if there is one at all. -/
def document (fuel : Nat) : Composing (Option Place) := do
  match ← peek with
  | none =>
      return none
  | some token =>
      let isExplicit := isBetweenDocuments token && token != .documentEnd
      let root ←
        if isExplicit then
          explicitDocument fuel
        else
          documentNode usualHandles fuel
      finish fuel
      return some root

end Composing

/-- The nodes of the only document that tokens make up, and the place of the root if there is one. -/
def Graph.ofTokens (tokens : TokenSequence) : Except Fault (Graph × Option Place) := do
  let fuel := 4 * tokens.tokens.length + 4
  let start : Progress := { rest := tokens, graph := Graph.empty, named := [] }
  let (root, progress) ← (Composing.document fuel).run start
  return (progress.graph, root)

end Yaml

end SessionHandshake
