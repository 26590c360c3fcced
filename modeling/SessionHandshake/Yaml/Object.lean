import SessionHandshake.Value.TableOrder
import SessionHandshake.Yaml.Merge
import SessionHandshake.Yaml.ScalarValue

namespace SessionHandshake

namespace Yaml

/-!
# Objects that nodes write

What a node writes is decided by its tag.  A scalar writes a value at once.  A
collection is made empty, and what it holds is read after everything that stands
beside the collection; so a collection can hold itself, and of several faults the
one that is met first is a shallowest one.

An object is known by the node that writes it.  This matters for keys: a number
that equals no number is the same key only if it is the same object.
-/

/-- What a node writes: a value by itself, or a collection, known by its node. -/
inductive Object where
  | atom (value : Value) (origin : Option Place)
  | collection (place : Place)

/-- What a collection holds. -/
inductive Holding where
  | list (items : List Object)
  | pairs (entries : List (Object × Object))
  | mapping (entries : List (Object × Object))
  | set (members : List Object)

namespace Object

/-- The value equals nothing, itself included. -/
def isNoNumber : Value → Bool
  | .float .notANumber =>
      true
  | _ =>
      false

/-- Two objects are the same key: they are one object, or their values are equal. -/
def sameKey (left right : Object) : Bool :=
  match left, right with
  | .atom leftValue leftOrigin, .atom rightValue rightOrigin =>
      leftValue.same rightValue ||
        (isNoNumber leftValue && isNoNumber rightValue && leftOrigin = rightOrigin)
  | _, _ =>
      false

/-- An entry set: in place if the key is there, else at the end. -/
def insert (key value : Object) : List (Object × Object) → List (Object × Object)
  | [] =>
      [(key, value)]
  | (other, old) :: rest =>
      if sameKey key other then
        (other, value) :: rest
      else
        (other, old) :: insert key value rest

end Object

/-! ## Scalars -/

/-- A tag of collections. -/
def Tag.isCollection : Tag → Bool
  | .list | .mapping | .orderedMapping | .pairs | .set =>
      true
  | _ =>
      false

/-- A tag of nodes that write nothing by themselves. -/
def Tag.isUnknown : Tag → Bool
  | .merge | .value | .other =>
      true
  | _ =>
      false

/-- The text of a node that counts as a scalar: a mapping does by its default value. -/
def Graph.textAt (graph : Graph) : Nat → Place → Except Fault Text
  | 0, _ =>
      .error .tooDeep
  | fuel + 1, place =>
      match graph.contentAt place with
      | .scalar text =>
          .ok text
      | .list _ =>
          broken
      | .mapping entries =>
          match entries.find? fun entry => graph.tagAt entry.1 = .value with
          | some (_, value) =>
              graph.textAt fuel value
          | none =>
              broken

/-- The node at a place is a scalar itself. -/
def Graph.isScalar (graph : Graph) (place : Place) : Bool :=
  match graph.contentAt place with
  | .scalar _ =>
      true
  | _ =>
      false

/-- The object of a node whose tag is no tag of collections; a date must be a scalar itself. -/
def Graph.atomAt (graph : Graph) (place : Place) : Except Fault Object := do
  let tag := graph.tagAt place
  if tag.isUnknown then
    broken
  else
    let text ← graph.textAt (graph.size + 1) place
    if tag = .timestamp && !graph.isScalar place then
      throw .wrongType
    else
      let value ← scalarValue tag text
      return .atom value (if tag = .float && isNoNumber text then none else some place)

/-! ## Collections -/

/-- The nodes of a document, the objects that are known, and what collections hold. -/
structure Workshop where
  graph : Graph
  known : List (Place × Object)
  /-- The collections whose contents are still to be read, the latest first. -/
  waiting : List Place
  holdings : List (Place × Holding)

/-- Reading what nodes write. -/
abbrev Building := StateT Workshop (Except Fault)

namespace Building

/-- The document breaks the rules of the format. -/
def fail {Result : Type} : Building Result :=
  throw .badConfiguration

/-- The object that a node writes. -/
def objectAt (place : Place) : Building Object := do
  let workshop ← get
  match workshop.known.lookup place with
  | some object =>
      return object
  | none =>
      if (workshop.graph.tagAt place).isCollection then
        let object := Object.collection place
        set { workshop with
          known := (place, object) :: workshop.known
          waiting := place :: workshop.waiting }
        return object
      else
        let object ← liftM (workshop.graph.atomAt place)
        set { workshop with known := (place, object) :: workshop.known }
        return object

/-- What the collection of a node holds. -/
def hold (place : Place) (holding : Holding) : Building Unit :=
  modify fun workshop => { workshop with holdings := (place, holding) :: workshop.holdings }

/-- What the node at a place holds. -/
def contentAt (place : Place) : Building Content := do
  return (← get).graph.contentAt place

/-- The entries of a mapping with those of its merge keys; no key may be a collection. -/
def entriesAt (place : Place) : Building (List (Object × Object)) := do
  match ← contentAt place with
  | .mapping _ => do
      let graph ← liftM ((← get).graph.merge place)
      modify fun workshop => { workshop with graph := graph }
      (graph.entriesAt place).foldlM
        (fun entries (key, value) => do
          match ← objectAt key with
          | .collection _ =>
              fail
          | key => do
              return Object.insert key (← objectAt value) entries)
        []
  | _ =>
      fail

/-- The items of a list. -/
def itemsAt (place : Place) : Building (List Place) := do
  match ← contentAt place with
  | .list items =>
      return items
  | _ =>
      fail

/-- The only entry of a mapping as a pair. -/
def pairAt (place : Place) : Building (Object × Object) := do
  match (← get).graph.entriesAt? place with
  | some [(key, value)] => do
      let key ← objectAt key
      return (key, ← objectAt value)
  | _ =>
      fail

/-- What a collection holds is read. -/
def fill (place : Place) : Building Unit := do
  match (← get).graph.tagAt place with
  | .list => do
      let items ← itemsAt place
      hold place (.list (← items.mapM objectAt))
  | .mapping => do
      hold place (.mapping (← entriesAt place))
  | .set => do
      let entries ← entriesAt place
      hold place (.set (entries.map Prod.fst))
  | _ => do
      let items ← itemsAt place
      hold place (.pairs (← items.mapM pairAt))

/-- What all collections hold is read, level by level. -/
def fillAll : Nat → Building Unit
  | 0 =>
      return
  | fuel + 1 => do
      match (← get).waiting.reverse with
      | [] =>
          return
      | places => do
          modify fun workshop => { workshop with waiting := [] }
          places.forM fill
          fillAll fuel

end Building

/-- The object that the node at a place writes, with all that it holds. -/
def Graph.build (graph : Graph) (root : Place) : Except Fault (Workshop × Object) := do
  let building : Building Object := do
    let object ← Building.objectAt root
    Building.fillAll (graph.size + 1)
    return object
  let start : Workshop := { graph := graph, known := [], waiting := [], holdings := [] }
  let (object, workshop) ← building.run start
  return (workshop, object)

end Yaml

end SessionHandshake
