import SessionHandshake.Hash.Block

namespace SessionHandshake

/-!
# Hashes made by a sponge

A state of twenty-five words soaks up a message block by block, being permuted
after each block, and is squeezed for as many bytes as are wanted, being
permuted between them.  How many bytes a block has is the rate.
-/

namespace Hash

namespace Sponge

/-- The words of the state: five rows of five, one after the other. -/
abbrev Lanes := Array UInt64

/-- The state before a message. -/
def empty : Lanes := Array.replicate 25 0

/-- A state whose words a function gives by column and row. -/
def ofColumns (word : Nat → Nat → UInt64) : Lanes :=
  Array.ofFn fun index : Fin 25 => word (index.val % 5) (index.val / 5)

/-- The word in a column and a row; both are counted round. -/
def lane (state : Lanes) (column row : Nat) : UInt64 :=
  state.getD (column % 5 + 5 * (row % 5)) 0

/-- A word turned left. -/
def turn (word : UInt64) (places : Nat) : UInt64 :=
  turnRight64 word (64 - places)

/-! ## The permutation -/

/-- How far each word is turned, row by row. -/
def turns : Array Nat := #[
  0, 1, 62, 28, 27,
  36, 44, 6, 55, 20,
  3, 10, 43, 25, 39,
  41, 45, 15, 21, 8,
  18, 2, 61, 56, 14]

/-- What is added to the first word in each round. -/
def roundConstants : List UInt64 := [
  0x0000000000000001, 0x0000000000008082, 0x800000000000808a, 0x8000000080008000,
  0x000000000000808b, 0x0000000080000001, 0x8000000080008081, 0x8000000000008009,
  0x000000000000008a, 0x0000000000000088, 0x0000000080008009, 0x000000008000000a,
  0x000000008000808b, 0x800000000000008b, 0x8000000000008089, 0x8000000000008003,
  0x8000000000008002, 0x8000000000000080, 0x000000000000800a, 0x800000008000000a,
  0x8000000080008081, 0x8000000000008080, 0x0000000080000001, 0x8000000080008008]

/-- The sum of a column. -/
def columnSum (state : Lanes) (column : Nat) : UInt64 :=
  lane state column 0 ^^^ lane state column 1 ^^^ lane state column 2 ^^^
    lane state column 3 ^^^ lane state column 4

/-- To each word the sums of two columns near it are added. -/
def mixColumns (state : Lanes) : Lanes :=
  let sums := Array.ofFn fun column : Fin 5 => columnSum state column.val
  ofColumns fun column row =>
    lane state column row ^^^ sums.getD ((column + 4) % 5) 0 ^^^
      turn (sums.getD ((column + 1) % 5) 0) 1

/-- Words are turned and change places. -/
def scatter (state : Lanes) : Lanes :=
  ofColumns fun column row =>
    let source := (column + 3 * row) % 5
    turn (lane state source column) (turns.getD (source + 5 * column) 0)

/-- To each word is added what its two neighbours in the row have in common. -/
def mixRows (state : Lanes) : Lanes :=
  ofColumns fun column row =>
    lane state column row ^^^ (~~~lane state (column + 1) row &&& lane state (column + 2) row)

/-- One round. -/
def round (state : Lanes) (constant : UInt64) : Lanes :=
  (mixRows (scatter (mixColumns state))).modify 0 (· ^^^ constant)

/-- All rounds. -/
def permute (state : Lanes) : Lanes :=
  roundConstants.foldl round state

/-! ## Soaking and squeezing -/

/-- The words of a block, least significant byte first. -/
def blockWords (block : Bytes) : Lanes :=
  ((pieces 8 block).map fun piece => UInt64.ofNat (numberOf piece.reverse)).toArray

/-- The state after a block. -/
def absorb (state : Lanes) (block : Bytes) : Lanes :=
  let words := blockWords block
  permute (state.mapIdx fun index word => word ^^^ words.getD index 0)

/--
A message padded to whole blocks: a byte that tells the hashes apart, zeros,
and a one bit at the very end.
-/
def padded (rate : Nat) (mark : UInt8) (message : Bytes) : Bytes :=
  let free := rate - message.length % rate
  if free = 1 then
    message ++ [mark ||| 0x80]
  else
    message ++ [mark] ++ List.replicate (free - 2) 0 ++ [0x80]

/-- The bytes of a state. -/
def stateBytes (state : Lanes) : Bytes :=
  state.toList.flatMap fun word => littleEndian 8 word.toNat

/-- A block squeezed from a state, and so many more. -/
def squeeze (rate : Nat) : Nat → Lanes → Bytes
  | 0, state =>
      (stateBytes state).take rate
  | blocks + 1, state =>
      (stateBytes state).take rate ++ squeeze rate blocks (permute state)

/-- So many bytes from the message that a rate and a mark absorb. -/
def hash (rate : Nat) (mark : UInt8) (length : Nat) (message : Bytes) : Bytes :=
  let state := (pieces rate (padded rate mark message)).foldl absorb empty
  (squeeze rate ((length - 1) / rate) state).take length

/-- What marks the hashes that give as many bytes as are wanted. -/
def extendableMark : UInt8 := 0x1f

/-- What marks the hashes of a fixed length. -/
def fixedMark : UInt8 := 0x06

end Sponge

/-- The SHA3-512 hash of a message: sixty-four bytes. -/
def sha3With512Bits (message : Bytes) : Bytes :=
  Sponge.hash 72 Sponge.fixedMark 64 message

/-- So many bytes of the SHAKE-128 hash of a message. -/
def shake128 (length : Nat) (message : Bytes) : Bytes :=
  Sponge.hash 168 Sponge.extendableMark length message

/-- So many bytes of the SHAKE-256 hash of a message. -/
def shake256 (length : Nat) (message : Bytes) : Bytes :=
  Sponge.hash 136 Sponge.extendableMark length message

end Hash

end SessionHandshake
