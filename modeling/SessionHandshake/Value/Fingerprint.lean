import SessionHandshake.Value.Basic
import SessionHandshake.Hash.Block

namespace SessionHandshake

/-!
# Fingerprints of values

A table files a value under its fingerprint, so values that are equal must have
the same one.  Numbers are reduced modulo the prime `2 ^ 61 - 1`, in which a half
is a whole number, so that a whole number and the equal double agree.  Text and
bytes are filed under the bytes they are stored as, which is why a text and a
sequence of bytes may agree without being equal.
-/

/-- What a value is filed under. -/
inductive Fingerprint where
  | number (residue : Int)
  | content (stored : Bytes)
  | instant (microseconds : Int)
  | calendar (moment : Moment)
  deriving DecidableEq

namespace Fingerprint

/-- The number of bits of the prime modulo which numbers are reduced. -/
def width : Nat := 61

/-- The prime modulo which numbers are reduced. -/
def prime : Nat := Nat.pow 2 width - 1

/-- The residue of a number with its sign; minus one is kept free and filed as minus two. -/
def ofResidue (isNegative : Bool) (residue : Nat) : Fingerprint :=
  if isNegative then
    number (if residue = 1 then -2 else -(residue : Int))
  else
    number residue

/-- The fingerprint of a whole number. -/
def ofInt (whole : Int) : Fingerprint :=
  ofResidue (whole < 0) (whole.natAbs % prime)

/-- The fingerprint of a double; a number that equals nothing has none. -/
def ofDouble? : Binary64 → Option Fingerprint
  | .notANumber =>
      none
  | .infinite isNegative =>
      some (ofInt (if isNegative then -314159 else 314159))
  | .finite isNegative mantissa exponent =>
      let shift := (Int.emod exponent width).toNat
      some (ofResidue isNegative (mantissa * Nat.pow 2 shift % prime))

/-- The bytes of a text as it is stored: as few for each code point as the greatest one needs. -/
def stored (text : Text) : Bytes :=
  let greatest := text.foldl (fun greatest point => max greatest point.value) 0
  let size := if greatest < 0x100 then 1 else if greatest < 0x10000 then 2 else 4
  text.flatMap fun point => Hash.littleEndian size point.value

/-- The fingerprint of a sequence of bytes; that of none is the number zero. -/
def ofStored : Bytes → Fingerprint
  | [] =>
      number 0
  | first :: rest =>
      content (first :: rest)

/-- The number under which the absent value is filed. -/
def absent : Fingerprint :=
  number 0xfca86420

/-- The fingerprint of a moment: of times whose distances are known, the instant alone. -/
def ofMoment (moment : Moment) : Fingerprint :=
  match moment.instant? with
  | some microseconds =>
      instant microseconds
  | none =>
      calendar moment

end Fingerprint

namespace Value

/-- The fingerprint of a value that is no collection, if it has one. -/
def fingerprint? : Value → Option Fingerprint
  | null =>
      some Fingerprint.absent
  | bool flag =>
      some (Fingerprint.ofInt (if flag then 1 else 0))
  | int whole =>
      some (Fingerprint.ofInt whole)
  | float number =>
      Fingerprint.ofDouble? number
  | text content =>
      some (Fingerprint.ofStored (Fingerprint.stored content))
  | bytes content =>
      some (Fingerprint.ofStored content)
  | moment date =>
      some (Fingerprint.ofMoment date)
  | _ =>
      none

/-- Both values have a fingerprint, and it is the same. -/
def hasFingerprintOf (left right : Value) : Bool :=
  match left.fingerprint?, right.fingerprint? with
  | some leftPrint, some rightPrint =>
      leftPrint = rightPrint
  | _, _ =>
      false

end Value

end SessionHandshake
