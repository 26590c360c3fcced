import SessionHandshake.Yaml.Grammar
import SessionHandshake.Yaml.Object

namespace SessionHandshake

namespace Yaml

/-!
# Values of documents

The value of a document is unfolded from the objects that its nodes write.  Where
a collection holds itself, the unfolding ends.  The values of the entries of a
document stand each for itself: when one of them holds the whole document, it is
unfolded until it comes back to that entry's own value.
-/

namespace Workshop

/-- What a collection holds; one that was never read holds nothing. -/
def holdingAt (workshop : Workshop) (place : Place) : Holding :=
  (workshop.holdings.lookup place).getD (.list [])

/-- The kind of a collection, as far as collections can hold themselves. -/
def kindOf : Holding → CollectionKind
  | .mapping _ =>
      .mapping
  | _ =>
      .list

/-- The value of an object inside some collections. -/
def valueOf (workshop : Workshop) : Nat → List Place → Object → Value
  | _, _, .atom value _ =>
      value
  | 0, _, .collection _ =>
      .null
  | fuel + 1, path, .collection place =>
      let holding := workshop.holdingAt place
      if path.contains place then
        .enclosing (kindOf holding)
      else
        let inside := workshop.valueOf fuel (place :: path)
        match holding with
        | .list items =>
            .list (items.map inside)
        | .pairs entries =>
            .list (entries.map fun (key, value) => .pair (inside key) (inside value))
        | .mapping entries =>
            .mapping (entries.map fun (key, value) => (inside key, inside value))
        | .set members =>
            .set (Value.inTableOrder (members.map inside))

/-- How many collections can be inside each other without repeating. -/
def deepest (workshop : Workshop) : Nat :=
  workshop.graph.size + 1

/-- The value of an object by itself. -/
def value (workshop : Workshop) (object : Object) : Value :=
  workshop.valueOf workshop.deepest [] object

/-- The value of a document: each entry of a mapping stands for itself. -/
def rootValue (workshop : Workshop) (root : Object) : Value :=
  match root with
  | .collection place =>
      match workshop.holdingAt place with
      | .mapping entries =>
          .mapping (entries.map fun (key, value) => (workshop.value key, workshop.value value))
      | _ =>
          workshop.value root
  | .atom value _ =>
      value

end Workshop

/-- The value of the document in a text; nothing at all counts as no value. -/
def read (text : Text) : Except Fault Value := do
  let (graph, root) ← Graph.ofTokens (TokenSequence.ofText text)
  match root with
  | some root =>
      let (workshop, object) ← graph.build root
      return workshop.rootValue object
  | none =>
      return .null

end Yaml

end SessionHandshake
