import SessionHandshake.Hash.Block

namespace SessionHandshake

/-!
# SHA-1

The hash that names a server to the session server.
-/

namespace Hash

namespace Sha1

/-- The chaining value before the first block. -/
def initial : List UInt32 :=
  [0x67452301, 0xefcdab89, 0x98badcfe, 0x10325476, 0xc3d2e1f0]

/-- The words of the schedule, the latest first, extended by further ones. -/
def extend : Nat → List UInt32 → List UInt32
  | 0, latestFirst =>
      latestFirst
  | count + 1, latestFirst =>
      let next :=
        turnLeft
          (latestFirst.getD 2 0 ^^^ latestFirst.getD 7 0 ^^^
            latestFirst.getD 13 0 ^^^ latestFirst.getD 15 0) 1
      extend count (next :: latestFirst)

/-- The eighty words of the schedule of a block. -/
def schedule (block : Bytes) : List UInt32 :=
  (extend 64 (words32 block).reverse).reverse

/-- The mixing function and the constant of a round. -/
def roundFunction (round : Nat) (b c d : UInt32) : UInt32 :=
  if round < 20 then
    ((b &&& c) ||| (~~~b &&& d)) + 0x5a827999
  else if round < 40 then
    (b ^^^ c ^^^ d) + 0x6ed9eba1
  else if round < 60 then
    ((b &&& c) ||| (b &&& d) ||| (c &&& d)) + 0x8f1bbcdc
  else
    (b ^^^ c ^^^ d) + 0xca62c1d6

/-- The rounds over the words of a schedule. -/
def rounds : Nat → List UInt32 → List UInt32 → List UInt32
  | round, word :: words, [a, b, c, d, e] =>
      let next := turnLeft a 5 + roundFunction round b c d + e + word
      rounds (round + 1) words [next, a, turnLeft b 30, c, d]
  | _, _, chain =>
      chain

/-- The chaining value after a block. -/
def compress (chain : List UInt32) (block : Bytes) : List UInt32 :=
  addWords chain (rounds 0 (schedule block) chain)

end Sha1

/-- The SHA-1 hash of a message: twenty bytes. -/
def sha1 (message : Bytes) : Bytes :=
  let blocks := pieces 64 (padded 64 8 (bigEndian 8) message)
  bytesOfWords32 (blocks.foldl Sha1.compress Sha1.initial)

end Hash

end SessionHandshake
