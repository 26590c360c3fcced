import SessionHandshake.Hash.Block

namespace SessionHandshake

/-!
# Object identifiers

Algorithms, curves and attributes are named by paths of numbers.  A number of a
path is written in base 128, most significant digit first, where the high bit of
a byte says that another one follows.
-/

namespace Septets

/-- The most bytes that a number may take. -/
def maximalLength : Nat := 4

/-- The digits of a number at the front, and the bytes after it. -/
def readDigits? : Nat → Nat → Bytes → Option (Nat × Bytes)
  | 0, _, _ =>
      none
  | _ + 1, _, [] =>
      none
  | fuel + 1, higher, byte :: rest =>
      let number := higher * 128 + byte.toNat % 128
      if byte.toNat < 128 then
        some (number, rest)
      else
        readDigits? fuel number rest

/-- A number at the front, without a leading zero digit, and the bytes after it. -/
def read? (bytes : Bytes) : Option (Nat × Bytes) :=
  if bytes.head? = some 0x80 then
    none
  else
    readDigits? maximalLength 0 bytes

/-- A number in base 128. -/
def write (number : Nat) : Bytes :=
  let digits := Text.digits 128 number
  digits.dropLast.map (fun digit => UInt8.ofNat (128 + digit)) ++
    [UInt8.ofNat (digits.getLastD 0)]

end Septets

/-- A path of numbers that names something. -/
abbrev ObjectIdentifier := List Nat

namespace ObjectIdentifier

/-- The most bytes that a path may take. -/
def maximalLength : Nat := 63

/-- The numbers that bytes hold; each takes at least one of them. -/
def readNumbers? : Nat → Bytes → Option (List Nat)
  | _, [] =>
      some []
  | 0, _ :: _ =>
      none
  | fuel + 1, bytes =>
      match Septets.read? bytes with
      | none =>
          none
      | some (number, rest) =>
          (readNumbers? fuel rest).map (number :: ·)

/--
The path that bytes write.

The first two numbers share a place: the first is at most two, and only after a
two may the second be forty or more.
-/
def read? (bytes : Bytes) : Option ObjectIdentifier :=
  if maximalLength < bytes.length then
    none
  else
    match readNumbers? bytes.length bytes with
    | some (joint :: rest) =>
        if joint < 80 then
          some (joint / 40 :: joint % 40 :: rest)
        else
          some (2 :: (joint - 80) :: rest)
    | _ =>
        none

/-- The bytes of a path of at least two numbers. -/
def write (identifier : ObjectIdentifier) : Bytes :=
  match identifier with
  | first :: second :: rest =>
      ((40 * first + second) :: rest).flatMap Septets.write
  | _ =>
      []

end ObjectIdentifier

end SessionHandshake
