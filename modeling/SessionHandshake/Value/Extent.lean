import SessionHandshake.Fault.Basic
import SessionHandshake.Text.Numeral

namespace SessionHandshake

/-!
# Values that cannot be written out

A whole number with too many digits is a value like any other, but it cannot be
written in base ten, neither by itself nor inside a collection.  A collection that
contains itself can be shown, with a mark where it comes back to itself, but it
has no end for whoever goes through all of it.
-/

namespace Value

mutual

/-- A value and all values inside it, outermost first. -/
def parts : Value → List Value
  | list items =>
      list items :: partsOfItems items
  | set members =>
      set members :: partsOfItems members
  | pair first second =>
      pair first second :: (parts first ++ parts second)
  | mapping entries =>
      mapping entries :: partsOfEntries entries
  | other =>
      [other]

/-- The values inside a list. -/
def partsOfItems : List Value → List Value
  | [] =>
      []
  | first :: rest =>
      parts first ++ partsOfItems rest

/-- The values inside a mapping. -/
def partsOfEntries : List (Value × Value) → List Value
  | [] =>
      []
  | (key, value) :: rest =>
      parts key ++ parts value ++ partsOfEntries rest

end

/-- A whole number has more digits than can be written. -/
def isTooLong : Value → Bool
  | int number =>
      Nat.pow 10 Numeral.maximalDigits ≤ number.natAbs
  | _ =>
      false

/-- A place where a collection comes back to itself. -/
def isEnclosing : Value → Bool
  | enclosing _ =>
      true
  | _ =>
      false

/-- A value can be shown. -/
def checkShown (value : Value) : Except Fault Unit :=
  if value.parts.any isTooLong then
    .error (.badValue .unspecified)
  else
    .ok ()

/-- A value can be gone through and all of it be shown. -/
def checkFinite (value : Value) : Except Fault Unit :=
  match value.parts.find? fun part => part.isTooLong || part.isEnclosing with
  | none =>
      .ok ()
  | some part =>
      if part.isEnclosing then
        .error .tooDeep
      else
        .error (.badValue .unspecified)

end Value

end SessionHandshake
