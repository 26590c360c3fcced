import SessionHandshake.Hash.Block

namespace SessionHandshake

/-!
# SHA-224, SHA-256 and SHA-512

The three hashes share one scheme: a schedule extended from the words of a
block, and rounds over eight chaining words.  `Sha2.Variant` holds what differs
between words of 32 and of 64 bits.
-/

namespace Hash

namespace Sha2

/-- What the scheme leaves open: the word type, its size and its mixing functions. -/
structure Variant (Word : Type) where
  /-- The words of a block. -/
  words : Bytes → List Word
  /-- The constants of the rounds. -/
  constants : List Word
  /-- The functions that extend the schedule. -/
  smallSigma0 : Word → Word
  smallSigma1 : Word → Word
  /-- The functions that mix the chaining words. -/
  bigSigma0 : Word → Word
  bigSigma1 : Word → Word

section Scheme

variable {Word : Type} [Add Word] [AndOp Word] [XorOp Word] [Complement Word] [OfNat Word 0]

/-- The words of the schedule, the latest first, extended by further ones. -/
def extend (variant : Variant Word) : Nat → List Word → List Word
  | 0, latestFirst =>
      latestFirst
  | count + 1, latestFirst =>
      let next :=
        variant.smallSigma1 (latestFirst.getD 1 0) + latestFirst.getD 6 0 +
          variant.smallSigma0 (latestFirst.getD 14 0) + latestFirst.getD 15 0
      extend variant count (next :: latestFirst)

/-- The schedule of a block: as many words as there are rounds. -/
def schedule (variant : Variant Word) (block : Bytes) : List Word :=
  (extend variant (variant.constants.length - 16) (variant.words block).reverse).reverse

/-- The rounds over the constants, each with its word of the schedule. -/
def rounds (variant : Variant Word) : List (Word × Word) → List Word → List Word
  | (constant, word) :: rest, [a, b, c, d, e, f, g, h] =>
      let first :=
        h + variant.bigSigma1 e + ((e &&& f) ^^^ (~~~e &&& g)) + constant + word
      let second := variant.bigSigma0 a + ((a &&& b) ^^^ (a &&& c) ^^^ (b &&& c))
      rounds variant rest [first + second, a, b, c, d + first, e, f, g]
  | _, chain =>
      chain

/-- The chaining value after a block. -/
def compress (variant : Variant Word) (chain : List Word) (block : Bytes) : List Word :=
  addWords chain (rounds variant (variant.constants.zip (schedule variant block)) chain)

end Scheme

/-- The scheme on words of 32 bits. -/
def variant32 : Variant UInt32 where
  words := words32
  constants := [
    0x428a2f98, 0x71374491, 0xb5c0fbcf, 0xe9b5dba5, 0x3956c25b, 0x59f111f1, 0x923f82a4,
    0xab1c5ed5, 0xd807aa98, 0x12835b01, 0x243185be, 0x550c7dc3, 0x72be5d74, 0x80deb1fe,
    0x9bdc06a7, 0xc19bf174, 0xe49b69c1, 0xefbe4786, 0xfc19dc6, 0x240ca1cc, 0x2de92c6f,
    0x4a7484aa, 0x5cb0a9dc, 0x76f988da, 0x983e5152, 0xa831c66d, 0xb00327c8, 0xbf597fc7,
    0xc6e00bf3, 0xd5a79147, 0x6ca6351, 0x14292967, 0x27b70a85, 0x2e1b2138, 0x4d2c6dfc,
    0x53380d13, 0x650a7354, 0x766a0abb, 0x81c2c92e, 0x92722c85, 0xa2bfe8a1, 0xa81a664b,
    0xc24b8b70, 0xc76c51a3, 0xd192e819, 0xd6990624, 0xf40e3585, 0x106aa070, 0x19a4c116,
    0x1e376c08, 0x2748774c, 0x34b0bcb5, 0x391c0cb3, 0x4ed8aa4a, 0x5b9cca4f, 0x682e6ff3,
    0x748f82ee, 0x78a5636f, 0x84c87814, 0x8cc70208, 0x90befffa, 0xa4506ceb, 0xbef9a3f7,
    0xc67178f2]
  smallSigma0 := fun word => turnRight word 7 ^^^ turnRight word 18 ^^^ (word >>> 3)
  smallSigma1 := fun word => turnRight word 17 ^^^ turnRight word 19 ^^^ (word >>> 10)
  bigSigma0 := fun word => turnRight word 2 ^^^ turnRight word 13 ^^^ turnRight word 22
  bigSigma1 := fun word => turnRight word 6 ^^^ turnRight word 11 ^^^ turnRight word 25

/-- The scheme on words of 64 bits. -/
def variant64 : Variant UInt64 where
  words := words64
  constants := [
    0x428a2f98d728ae22, 0x7137449123ef65cd, 0xb5c0fbcfec4d3b2f, 0xe9b5dba58189dbbc,
    0x3956c25bf348b538, 0x59f111f1b605d019, 0x923f82a4af194f9b, 0xab1c5ed5da6d8118,
    0xd807aa98a3030242, 0x12835b0145706fbe, 0x243185be4ee4b28c, 0x550c7dc3d5ffb4e2,
    0x72be5d74f27b896f, 0x80deb1fe3b1696b1, 0x9bdc06a725c71235, 0xc19bf174cf692694,
    0xe49b69c19ef14ad2, 0xefbe4786384f25e3, 0xfc19dc68b8cd5b5, 0x240ca1cc77ac9c65,
    0x2de92c6f592b0275, 0x4a7484aa6ea6e483, 0x5cb0a9dcbd41fbd4, 0x76f988da831153b5,
    0x983e5152ee66dfab, 0xa831c66d2db43210, 0xb00327c898fb213f, 0xbf597fc7beef0ee4,
    0xc6e00bf33da88fc2, 0xd5a79147930aa725, 0x6ca6351e003826f, 0x142929670a0e6e70,
    0x27b70a8546d22ffc, 0x2e1b21385c26c926, 0x4d2c6dfc5ac42aed, 0x53380d139d95b3df,
    0x650a73548baf63de, 0x766a0abb3c77b2a8, 0x81c2c92e47edaee6, 0x92722c851482353b,
    0xa2bfe8a14cf10364, 0xa81a664bbc423001, 0xc24b8b70d0f89791, 0xc76c51a30654be30,
    0xd192e819d6ef5218, 0xd69906245565a910, 0xf40e35855771202a, 0x106aa07032bbd1b8,
    0x19a4c116b8d2d0c8, 0x1e376c085141ab53, 0x2748774cdf8eeb99, 0x34b0bcb5e19b48a8,
    0x391c0cb3c5c95a63, 0x4ed8aa4ae3418acb, 0x5b9cca4f7763e373, 0x682e6ff3d6b2b8a3,
    0x748f82ee5defb2fc, 0x78a5636f43172f60, 0x84c87814a1f0ab72, 0x8cc702081a6439ec,
    0x90befffa23631e28, 0xa4506cebde82bde9, 0xbef9a3f7b2c67915, 0xc67178f2e372532b,
    0xca273eceea26619c, 0xd186b8c721c0c207, 0xeada7dd6cde0eb1e, 0xf57d4f7fee6ed178,
    0x6f067aa72176fba, 0xa637dc5a2c898a6, 0x113f9804bef90dae, 0x1b710b35131c471b,
    0x28db77f523047d84, 0x32caab7b40c72493, 0x3c9ebe0a15c9bebc, 0x431d67c49c100d4c,
    0x4cc5d4becb3e42b6, 0x597f299cfc657e2a, 0x5fcb6fab3ad6faec, 0x6c44198c4a475817]
  smallSigma0 := fun word => turnRight64 word 1 ^^^ turnRight64 word 8 ^^^ (word >>> 7)
  smallSigma1 := fun word => turnRight64 word 19 ^^^ turnRight64 word 61 ^^^ (word >>> 6)
  bigSigma0 := fun word => turnRight64 word 28 ^^^ turnRight64 word 34 ^^^ turnRight64 word 39
  bigSigma1 := fun word => turnRight64 word 14 ^^^ turnRight64 word 18 ^^^ turnRight64 word 41

/-- The chaining value of SHA-224 before the first block. -/
def initial224 : List UInt32 := [
    0xc1059ed8, 0x367cd507, 0x3070dd17, 0xf70e5939, 0xffc00b31, 0x68581511, 0x64f98fa7,
    0xbefa4fa4]

/-- The chaining value of SHA-256 before the first block. -/
def initial256 : List UInt32 := [
    0x6a09e667, 0xbb67ae85, 0x3c6ef372, 0xa54ff53a, 0x510e527f, 0x9b05688c, 0x1f83d9ab,
    0x5be0cd19]

/-- The chaining value of SHA-512 before the first block. -/
def initial512 : List UInt64 := [
    0x6a09e667f3bcc908, 0xbb67ae8584caa73b, 0x3c6ef372fe94f82b, 0xa54ff53a5f1d36f1,
    0x510e527fade682d1, 0x9b05688c2b3e6c1f, 0x1f83d9abfb41bd6b, 0x5be0cd19137e2179]

/-- The chaining value on words of 32 bits after all blocks of a message. -/
def chain32 (initial : List UInt32) (message : Bytes) : List UInt32 :=
  let blocks := pieces 64 (padded 64 8 (bigEndian 8) message)
  blocks.foldl (compress variant32) initial

/-- The chaining value on words of 64 bits after all blocks of a message. -/
def chain64 (initial : List UInt64) (message : Bytes) : List UInt64 :=
  let blocks := pieces 128 (padded 128 16 (bigEndian 16) message)
  blocks.foldl (compress variant64) initial

end Sha2

/-- The SHA-224 hash of a message: twenty-eight bytes. -/
def sha224 (message : Bytes) : Bytes :=
  bytesOfWords32 ((Sha2.chain32 Sha2.initial224 message).take 7)

/-- The SHA-256 hash of a message: thirty-two bytes. -/
def sha256 (message : Bytes) : Bytes :=
  bytesOfWords32 (Sha2.chain32 Sha2.initial256 message)

/-- The SHA-512 hash of a message: sixty-four bytes. -/
def sha512 (message : Bytes) : Bytes :=
  (Sha2.chain64 Sha2.initial512 message).flatMap fun word => bigEndian 8 word.toNat

end Hash

end SessionHandshake
