import SessionHandshake.Value.Fingerprint

namespace SessionHandshake

/-!
# The order of the members of a set

A set keeps its members in a table and yields them in the order of their slots.
The slot of a member follows from its fingerprint, which is sought out by
probing: first near the slot that the fingerprint names, then at slots that take
in more and more of its bits.  Only numbers have a fingerprint that names a slot;
a set with any other member yields its members in the order of insertion.
-/

namespace TableOrder

/-- The number of slots of the smallest table. -/
def leastSize : Nat := 8

/-- A size doubled until it exceeds a number. -/
def sizeAbove (number : Nat) : Nat → Nat → Nat
  | 0, size =>
      size
  | fuel + 1, size =>
      if size ≤ number then
        sizeAbove number fuel (2 * size)
      else
        size

/-- The number of slots for a number of members: no table is more than about half full. -/
def sizeFor (count : Nat) : Nat :=
  if 5 * count < 3 * (leastSize - 1) then
    leastSize
  else
    sizeAbove (2 * count) count leastSize

/-- How many slots behind a slot are looked at before the next probe. -/
def reach : Nat := 9

/-- The slots that one probe looks at. -/
def probe (size slot : Nat) : List Nat :=
  if slot + reach < size then
    (List.range (reach + 1)).map fun offset => slot + offset
  else
    [slot]

/-- The first free slot on the way from a slot, taking in five more bits at each probe. -/
def freeSlot? (size : Nat) (taken : List Nat) : Nat → Nat → Nat → Option Nat
  | 0, _, _ =>
      none
  | fuel + 1, slot, bits =>
      match (probe size slot).find? fun candidate => !taken.contains candidate with
      | some free =>
          some free
      | none =>
          let bits := bits / 32
          freeSlot? size taken fuel ((5 * slot + 1 + bits) % size) bits

/-- The number of bits of a fingerprint as it is stored. -/
def storedBits : Nat := 64

/-- The slot of a member with a fingerprint in a table where some slots are taken. -/
def slotOf? (size : Nat) (taken : List Nat) : Option Fingerprint → Option Nat
  | some (.number residue) =>
      let bits := (Int.emod residue (Nat.pow 2 storedBits)).toNat
      freeSlot? size taken (storedBits + size) (bits % size) bits
  | _ =>
      none

/-- Members with the slots that they get one after the other. -/
def withSlots? (size : Nat) (members : List Value) : Option (List (Nat × Value)) :=
  members.foldlM
    (fun placed member => do
      let slot ← slotOf? size (placed.map Prod.fst) member.fingerprint?
      return (slot, member) :: placed)
    []

end TableOrder

/-- The members of a set in the order in which the set yields them. -/
def Value.inTableOrder (members : List Value) : List Value :=
  let size := TableOrder.sizeFor members.length
  match TableOrder.withSlots? size members with
  | some placed =>
      (List.range size).filterMap fun slot => placed.lookup slot
  | none =>
      members

end SessionHandshake
