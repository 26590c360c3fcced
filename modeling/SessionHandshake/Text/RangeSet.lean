import SessionHandshake.Text.Basic

namespace SessionHandshake

/-!
# Sets of numbers given by their turning points

A property of code points is a union of long ranges.  It is written as the
ascending list of the numbers at which membership changes, starting outside.
-/

/-- The ascending numbers at which membership changes. -/
structure RangeSet where
  turns : List Nat

namespace RangeSet

/-- A number belongs when an odd number of turns lies at or below it. -/
def containsAfter (number : Nat) : List Nat → Bool
  | [] =>
      false
  | turn :: rest =>
      if number < turn then
        false
      else
        !containsAfter number rest

/-- Membership of a number in the set. -/
def contains (set : RangeSet) (number : Nat) : Bool :=
  containsAfter number set.turns

end RangeSet

end SessionHandshake
