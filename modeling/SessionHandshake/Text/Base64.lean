import SessionHandshake.Text.Basic

namespace SessionHandshake

/-!
# Base 64

Four characters write three bytes.  Characters outside the alphabet are passed
over, and what follows a complete padding is not looked at.
-/

namespace Base64

/-- The number that a character of the alphabet stands for. -/
def digit? (point : CodePoint) : Option Nat :=
  if point.isBetween 'A' 'Z' then
    some (point.value - 0x41)
  else if point.isBetween 'a' 'z' then
    some (point.value - 0x61 + 26)
  else if point.isDigit then
    some (point.value - 0x30 + 52)
  else if point = CodePoint.ofChar '+' then
    some 62
  else if point = CodePoint.ofChar '/' then
    some 63
  else
    none

/-- What has been read of a group of four characters. -/
structure Group where
  /-- How many characters of the alphabet have been read. -/
  count : Nat
  /-- The bits that are not part of a byte yet. -/
  bits : Nat
  /-- How much padding has been read since the last of them. -/
  padding : Nat

/-- Nothing of a group has been read. -/
def Group.none : Group where
  count := 0
  bits := 0
  padding := 0

/-- One more character of a group, and the byte that it completes. -/
def Group.add (group : Group) (digit : Nat) : Option UInt8 × Group :=
  let bits := group.bits * 64 + digit
  match group.count with
  | 0 =>
      (Option.none, { count := 1, bits := bits, padding := 0 })
  | 1 =>
      (some (UInt8.ofNat (bits / 16)), { count := 2, bits := bits % 16, padding := 0 })
  | 2 =>
      (some (UInt8.ofNat (bits / 4)), { count := 3, bits := bits % 4, padding := 0 })
  | _ =>
      (some (UInt8.ofNat bits), Group.none)

/-- The bytes that are written from a place in a group on. -/
def bytesFrom? (group : Group) : Text → Option Bytes
  | [] =>
      if group.count = 0 then some [] else none
  | point :: rest =>
      if point = CodePoint.ofChar '=' then
        let padding := if 2 ≤ group.count then group.padding + 1 else group.padding
        if 2 ≤ group.count ∧ 4 ≤ group.count + padding then
          some []
        else
          bytesFrom? { group with padding := padding } rest
      else
        match digit? point with
        | none =>
            bytesFrom? group rest
        | some digit =>
            let (byte, group) := group.add digit
            (bytesFrom? group rest).map (byte.toList ++ ·)

/-- The bytes that a text writes. -/
def bytes? (text : Text) : Option Bytes :=
  bytesFrom? Group.none text

end Base64

end SessionHandshake
