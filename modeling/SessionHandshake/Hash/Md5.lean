import SessionHandshake.Hash.Block

namespace SessionHandshake

/-!
# MD5

A hash of sixteen bytes, whose words are written least significant byte first.
-/

namespace Hash

namespace Md5

/-- The chaining value before the first block. -/
def initial : List UInt32 :=
  [0x67452301, 0xefcdab89, 0x98badcfe, 0x10325476]

/-- The constants of the sixty-four rounds. -/
def constants : List UInt32 := [
    0xd76aa478, 0xe8c7b756, 0x242070db, 0xc1bdceee, 0xf57c0faf, 0x4787c62a, 0xa8304613,
    0xfd469501, 0x698098d8, 0x8b44f7af, 0xffff5bb1, 0x895cd7be, 0x6b901122, 0xfd987193,
    0xa679438e, 0x49b40821, 0xf61e2562, 0xc040b340, 0x265e5a51, 0xe9b6c7aa, 0xd62f105d,
    0x2441453, 0xd8a1e681, 0xe7d3fbc8, 0x21e1cde6, 0xc33707d6, 0xf4d50d87, 0x455a14ed,
    0xa9e3e905, 0xfcefa3f8, 0x676f02d9, 0x8d2a4c8a, 0xfffa3942, 0x8771f681, 0x6d9d6122,
    0xfde5380c, 0xa4beea44, 0x4bdecfa9, 0xf6bb4b60, 0xbebfbc70, 0x289b7ec6, 0xeaa127fa,
    0xd4ef3085, 0x4881d05, 0xd9d4d039, 0xe6db99e5, 0x1fa27cf8, 0xc4ac5665, 0xf4292244,
    0x432aff97, 0xab9423a7, 0xfc93a039, 0x655b59c3, 0x8f0ccc92, 0xffeff47d, 0x85845dd1,
    0x6fa87e4f, 0xfe2ce6e0, 0xa3014314, 0x4e0811a1, 0xf7537e82, 0xbd3af235, 0x2ad7d2bb,
    0xeb86d391]

/-- How far the sum of a round is turned. -/
def turns : List Nat :=
  [7, 12, 17, 22, 5, 9, 14, 20, 4, 11, 16, 23, 6, 10, 15, 21]

/-- The mixing function of a round. -/
def roundFunction (round : Nat) (b c d : UInt32) : UInt32 :=
  if round < 16 then
    (b &&& c) ||| (~~~b &&& d)
  else if round < 32 then
    (d &&& b) ||| (~~~d &&& c)
  else if round < 48 then
    b ^^^ c ^^^ d
  else
    c ^^^ (b ||| ~~~d)

/-- The position of the word that a round adds. -/
def wordIndex (round : Nat) : Nat :=
  if round < 16 then
    round
  else if round < 32 then
    (5 * round + 1) % 16
  else if round < 48 then
    (3 * round + 5) % 16
  else
    7 * round % 16

/-- The rounds over the constants. -/
def rounds (words : List UInt32) : Nat → List UInt32 → List UInt32 → List UInt32
  | round, constant :: constants, [a, b, c, d] =>
      let sum := a + roundFunction round b c d + constant + words.getD (wordIndex round) 0
      let turn := turns.getD (round / 16 * 4 + round % 4) 0
      rounds words (round + 1) constants [d, b + turnLeft sum turn, b, c]
  | _, _, chain =>
      chain

/-- The chaining value after a block. -/
def compress (chain : List UInt32) (block : Bytes) : List UInt32 :=
  addWords chain (rounds (words32Reversed block) 0 constants chain)

end Md5

/-- The MD5 hash of a message: sixteen bytes. -/
def md5 (message : Bytes) : Bytes :=
  let blocks := pieces 64 (padded 64 8 (littleEndian 8) message)
  (blocks.foldl Md5.compress Md5.initial).flatMap fun word => littleEndian 4 word.toNat

end Hash

end SessionHandshake
