import SessionHandshake.Yaml.Tag
import SessionHandshake.Yaml.Timestamp

namespace SessionHandshake

namespace Yaml

/-!
# Nodes

A document is made of scalars, lists and mappings, each with its tag.  An alias
stands for the very node that its anchor names, so a node may occur in several
places and even inside itself.  Nodes are therefore kept in a graph, in which a
node names the nodes that it holds by their places.
-/

/-- Where a node is in its graph. -/
abbrev Place := Nat

/-- What a node holds. -/
inductive Content where
  | scalar (text : Text)
  | list (items : List Place)
  | mapping (entries : List (Place × Place))

/-- A part of a document. -/
structure Node where
  tag : Tag
  content : Content

instance : Inhabited Node := ⟨{ tag := .null, content := .scalar [] }⟩

/-! ## Choosing a tag -/

/-- The tag of a plain scalar, by its form. -/
def Tag.ofPlain (content : Text) : Tag :=
  if Tag.isBool content then
    .bool
  else if Tag.isFloat content then
    .float
  else if Tag.isInt content then
    .int
  else if content = ("<<" : Text) then
    .merge
  else if Tag.isNull content then
    .null
  else if Timestamp.isForm content then
    .timestamp
  else if content = ("=" : Text) then
    .value
  else
    .text

/-- The name of a tag that leaves the choice to the node. -/
def unspecificTag : Text := "!"

/-- The tag of a scalar by its form, for which a break after the last line does not count. -/
def Tag.ofForm (content : Text) : Tag :=
  let line := content.withoutFinalBreak
  if line.isEmpty && !content.isEmpty then
    .text
  else
    Tag.ofPlain line

/-- The tag of a scalar with the name of a tag, if it has one. -/
def scalarTag (name : Option Text) (isPlain : Bool) (content : Text) : Tag :=
  match name with
  | none =>
      if isPlain then Tag.ofPlain content else .text
  | some name =>
      if name = unspecificTag then Tag.ofForm content else Tag.ofName name

/-- The tag of a collection with the name of a tag, if it has one. -/
def collectionTag (name : Option Text) (usual : Tag) : Tag :=
  match name with
  | none =>
      usual
  | some name =>
      if name = unspecificTag then usual else Tag.ofName name

/-! ## Graphs -/

/-- The nodes of a document by their places. -/
structure Graph where
  nodes : Array Node

namespace Graph

/-- No nodes. -/
def empty : Graph where
  nodes := #[]

/-- The number of nodes. -/
def size (graph : Graph) : Nat :=
  graph.nodes.size

/-- The node at a place; where none is, the one that nothing stands for. -/
def nodeAt (graph : Graph) (place : Place) : Node :=
  graph.nodes.getD place default

/-- One more node, and its place. -/
def add (graph : Graph) (node : Node) : Place × Graph :=
  (graph.size, { nodes := graph.nodes.push node })

/-- The node at a place changed. -/
def update (graph : Graph) (place : Place) (change : Node → Node) : Graph :=
  { nodes := graph.nodes.modify place change }

/-- What the node at a place holds is replaced. -/
def setContent (graph : Graph) (place : Place) (content : Content) : Graph :=
  graph.update place fun node => { node with content := content }

/-- The tag of the node at a place is replaced. -/
def setTag (graph : Graph) (place : Place) (tag : Tag) : Graph :=
  graph.update place fun node => { node with tag := tag }

/-- The tag of the node at a place. -/
def tagAt (graph : Graph) (place : Place) : Tag :=
  (graph.nodeAt place).tag

/-- What the node at a place holds. -/
def contentAt (graph : Graph) (place : Place) : Content :=
  (graph.nodeAt place).content

/-- The entries of the mapping at a place, if there is one. -/
def entriesAt? (graph : Graph) (place : Place) : Option (List (Place × Place)) :=
  match graph.contentAt place with
  | .mapping entries =>
      some entries
  | _ =>
      none

/-- The entries of the mapping at a place; any other node has none. -/
def entriesAt (graph : Graph) (place : Place) : List (Place × Place) :=
  (graph.entriesAt? place).getD []

end Graph

end Yaml

end SessionHandshake
