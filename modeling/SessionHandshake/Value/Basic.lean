import SessionHandshake.Number.Binary64
import SessionHandshake.Value.Moment

namespace SessionHandshake

/-!
# Values of any type

Answers of a server, configuration files and the arguments of a caller may hold
a value of any type, and what happens with one of a wrong type is part of the
behaviour.  `Value` is the one type for all of them.  Equality of values follows
the numbers they stand for: `true`, `1` and `1.0` are one key of a mapping.
-/

/-- The kinds of collections that can contain themselves. -/
inductive CollectionKind where
  | list
  | mapping
  deriving DecidableEq

/--
A value of any type.  A mapping keeps its entries in the order of insertion.

A collection may contain itself.  Where it does, `enclosing` stands for the
nearest collection around that place which is meant once more, so that every
value is a finite tree.
-/
inductive Value where
  | null
  | bool (flag : Bool)
  | int (number : Int)
  | float (number : Binary64)
  | text (content : Text)
  | bytes (content : Bytes)
  | byteBuffer (content : Bytes)
  | moment (moment : Moment)
  | list (items : List Value)
  | mapping (entries : List (Value × Value))
  | pair (first second : Value)
  | set (members : List Value)
  | enclosing (kind : CollectionKind)

namespace Value

instance : Inhabited Value := ⟨null⟩

instance : Coe Text Value := ⟨text⟩

/-- Text from a literal. -/
def ofString (string : String) : Value :=
  text (Text.ofString string)

/-- The whole number that a number or a truth value stands for. -/
def toInt? : Value → Option Int
  | bool flag =>
      some (if flag then 1 else 0)
  | int number =>
      some number
  | _ =>
      none

/-- The text of a textual value. -/
def toText? : Value → Option Text
  | text content =>
      some content
  | _ =>
      none

/-- The content of a sequence of bytes, whether or not it may still change. -/
def toBytes? : Value → Option Bytes
  | bytes content =>
      some content
  | byteBuffer content =>
      some content
  | _ =>
      none

/-- The entries of a mapping. -/
def toMapping? : Value → Option (List (Value × Value))
  | mapping entries =>
      some entries
  | _ =>
      none

/-- The value is the absent one. -/
def isNull : Value → Bool
  | null =>
      true
  | _ =>
      false

/-- The value is text. -/
def isText (value : Value) : Bool :=
  value.toText?.isSome

/-- The value is a mapping. -/
def isMapping (value : Value) : Bool :=
  value.toMapping?.isSome

/-- A value counts as true unless it is absent, false, zero or empty. -/
def isTruthy : Value → Bool
  | null =>
      false
  | bool flag =>
      flag
  | int number =>
      number ≠ 0
  | float number =>
      number.isNonzero
  | text content =>
      !content.isEmpty
  | bytes content =>
      !content.isEmpty
  | byteBuffer content =>
      !content.isEmpty
  | moment _ =>
      true
  | list items =>
      !items.isEmpty
  | mapping entries =>
      !entries.isEmpty
  | pair _ _ =>
      true
  | set members =>
      !members.isEmpty
  | enclosing _ =>
      true

/-- The number of members of a value that has members. -/
def length? : Value → Option Nat
  | text content =>
      some content.length
  | bytes content =>
      some content.length
  | byteBuffer content =>
      some content.length
  | list items =>
      some items.length
  | mapping entries =>
      some entries.length
  | pair _ _ =>
      some 2
  | set members =>
      some members.length
  | _ =>
      none

/-- The members that a value yields when it is gone through one by one. -/
def members? : Value → Option (List Value)
  | .bytes content =>
      some (content.map fun byte => .int byte.toNat)
  | .byteBuffer content =>
      some (content.map fun byte => .int byte.toNat)
  | .text content =>
      some (content.map fun point => .text [point])
  | .list items =>
      some items
  | .mapping entries =>
      some (entries.map Prod.fst)
  | .pair first second =>
      some [first, second]
  | .set members =>
      some members
  | _ =>
      none

/-- The value may be a key: it cannot change, nor can anything inside it. -/
def isHashable : Value → Bool
  | byteBuffer _ =>
      false
  | list _ =>
      false
  | mapping _ =>
      false
  | set _ =>
      false
  | enclosing _ =>
      false
  | pair first second =>
      isHashable first && isHashable second
  | _ =>
      true

/-- Equality of two values that are no collections. -/
def sameAtom (left right : Value) : Bool :=
  match left, right with
  | null, null =>
      true
  | float leftNumber, float rightNumber =>
      leftNumber.sameValue rightNumber
  | float number, other =>
      match other.toInt? with
      | some whole =>
          number.compareInt? whole = some .eq
      | none =>
          false
  | other, float number =>
      match other.toInt? with
      | some whole =>
          number.compareInt? whole = some .eq
      | none =>
          false
  | text leftContent, text rightContent =>
      leftContent = rightContent
  | moment leftMoment, moment rightMoment =>
      leftMoment.same rightMoment
  | _, _ =>
      match left.toInt?, right.toInt? with
      | some leftNumber, some rightNumber =>
          leftNumber = rightNumber
      | _, _ =>
          match left.toBytes?, right.toBytes? with
          | some leftContent, some rightContent =>
              leftContent = rightContent
          | _, _ =>
              false

mutual

/-- Equality of two values: lists by position, mappings by key and sets by member. -/
def same : Value → Value → Bool
  | list left, right =>
      match right with
      | list right =>
          sameItems left right
      | _ =>
          false
  | mapping left, right =>
      match right with
      | mapping right =>
          left.length = right.length && sameEntries left right
      | _ =>
          false
  | pair first second, right =>
      match right with
      | pair other another =>
          same first other && same second another
      | _ =>
          false
  | set left, right =>
      match right with
      | set right =>
          left.length = right.length && sameMembers left right
      | _ =>
          false
  | left, right =>
      sameAtom left right

/-- Equality of two lists, position by position. -/
def sameItems : List Value → List Value → Bool
  | [], right =>
      right.isEmpty
  | first :: rest, right =>
      match right with
      | [] =>
          false
      | other :: others =>
          same first other && sameItems rest others

/-- Every entry of the first mapping has an equal one in the second. -/
def sameEntries : List (Value × Value) → List (Value × Value) → Bool
  | [], _ =>
      true
  | (key, value) :: rest, right =>
      right.any (fun entry => same key entry.1 && same value entry.2) &&
        sameEntries rest right

/-- Every member of the first set has an equal one in the second. -/
def sameMembers : List Value → List Value → Bool
  | [], _ =>
      true
  | first :: rest, right =>
      right.any (fun other => same first other) && sameMembers rest right

end

/-- The value stored under a key. -/
def find? (key : Value) : List (Value × Value) → Option Value
  | [] =>
      none
  | (other, value) :: rest =>
      if same key other then
        some value
      else
        find? key rest

/-- The entries with a key set: in place if the key is there, else at the end. -/
def insert (key value : Value) : List (Value × Value) → List (Value × Value)
  | [] =>
      [(key, value)]
  | (other, old) :: rest =>
      if same key other then
        (other, value) :: rest
      else
        (other, old) :: insert key value rest

/-- The mapping that results from setting keys one after the other. -/
def insertAll (entries : List (Value × Value)) : List (Value × Value) :=
  entries.foldl (fun built entry => insert entry.1 entry.2 built) []

/-- The value of a textual key of a mapping. -/
def member? (entries : List (Value × Value)) (name : String) : Option Value :=
  find? (ofString name) entries

end Value

end SessionHandshake
