import SessionHandshake.Text.Basic

namespace SessionHandshake

/-!
# Messages cut into blocks

The hash functions of this library pad a message to whole blocks, cut it and
fold a compression over the blocks.  This module holds what they share: the
padding, the cutting, and words written most or least significant byte first.
-/

namespace Hash

/-- The bytes of a number, least significant first. -/
def littleEndian (count number : Nat) : Bytes :=
  (List.range count).map fun index => UInt8.ofNat (number / Nat.pow 256 index % 256)

/-- The bytes of a number, most significant first. -/
def bigEndian (count number : Nat) : Bytes :=
  (littleEndian count number).reverse

/-- The number that bytes write, most significant first. -/
def numberOf (bytes : Bytes) : Nat :=
  bytes.foldl (fun total byte => total * 256 + byte.toNat) 0

/-- Pieces of a given length; the last one may be shorter. -/
def pieces (size : Nat) (bytes : Bytes) : List Bytes :=
  if _isLast : (bytes.drop size).isEmpty ∨ size = 0 then
    if bytes.isEmpty then [] else [bytes]
  else
    bytes.take size :: pieces size (bytes.drop size)
termination_by bytes.length
decreasing_by
  rw [not_or, List.isEmpty_iff, List.drop_eq_nil_iff] at _isLast
  simp only [List.length_drop]
  omega

/--
A message padded to whole blocks: a one bit, zeros, and the length in bits in
the given form, which takes `lengthSize` bytes.
-/
def padded
    (blockSize lengthSize : Nat)
    (lengthBytes : Nat → Bytes)
    (message : Bytes) :
    Bytes :=
  let used := message.length + 1 + lengthSize
  let zeros := (blockSize - used % blockSize) % blockSize
  message ++ [0x80] ++ List.replicate zeros 0 ++ lengthBytes (8 * message.length)

/-- The 32-bit words of a block, most significant byte first. -/
def words32 (block : Bytes) : List UInt32 :=
  (pieces 4 block).map fun piece => UInt32.ofNat (numberOf piece)

/-- The 32-bit words of a block, least significant byte first. -/
def words32Reversed (block : Bytes) : List UInt32 :=
  (pieces 4 block).map fun piece => UInt32.ofNat (numberOf piece.reverse)

/-- The 64-bit words of a block, most significant byte first. -/
def words64 (block : Bytes) : List UInt64 :=
  (pieces 8 block).map fun piece => UInt64.ofNat (numberOf piece)

/-- A 32-bit word turned left. -/
def turnLeft (word : UInt32) (places : Nat) : UInt32 :=
  (word <<< UInt32.ofNat places) ||| (word >>> UInt32.ofNat (32 - places))

/-- A 32-bit word turned right. -/
def turnRight (word : UInt32) (places : Nat) : UInt32 :=
  turnLeft word (32 - places)

/-- A 64-bit word turned right. -/
def turnRight64 (word : UInt64) (places : Nat) : UInt64 :=
  (word >>> UInt64.ofNat places) ||| (word <<< UInt64.ofNat (64 - places))

/-- The bytes of 32-bit words, most significant first. -/
def bytesOfWords32 (words : List UInt32) : Bytes :=
  words.flatMap fun word => bigEndian 4 word.toNat

/-- Two lists of words added position by position. -/
def addWords {Word : Type} [Add Word] (left right : List Word) : List Word :=
  left.zipWith (· + ·) right

end Hash

end SessionHandshake
