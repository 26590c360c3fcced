import SessionHandshake.Digest

namespace SessionHandshake

/-!
# Hashing in parts

A hash function on blocks need not have the whole message at hand.  It takes the
message in parts of any length and keeps what the full blocks have come to, the
bytes that do not fill a block yet, and how many bytes there have been.  What it
gives in the end is the hash of the parts put together, however they were cut.
-/

namespace Hash

/-! ## Messages cut into blocks -/

theorem pieces_nil (size : Nat) : pieces size [] = [] := by
  rw [pieces, dif_pos (.inl (by rw [List.drop_nil]; rfl))]
  rfl

/-- The first piece of a message that is long enough is taken off its front. -/
theorem pieces_of_le
    {size : Nat}
    {bytes : Bytes}
    (positive : 0 < size)
    (isLong : size ≤ bytes.length) :
    pieces size bytes = bytes.take size :: pieces size (bytes.drop size) := by
  have notEmpty : bytes.isEmpty = false :=
    List.isEmpty_eq_false_iff.mpr (List.ne_nil_of_length_pos (by omega))
  by_cases isLast : bytes.drop size = []
  · have isWhole : bytes.take size = bytes :=
      List.take_of_length_le (List.drop_eq_nil_iff.mp isLast)
    rw [isLast, pieces_nil, isWhole, pieces, dif_pos (.inl (List.isEmpty_iff.mpr isLast)),
      notEmpty]
    rfl
  · rw [pieces, dif_neg]
    simp only [List.isEmpty_iff, isLast, false_or]
    omega

/-- What follows full blocks is cut into pieces as if they were not there. -/
theorem pieces_append
    {size : Nat}
    (positive : 0 < size)
    (count : Nat)
    {blocks : Bytes}
    (areFull : blocks.length = count * size)
    (rest : Bytes) :
    pieces size (blocks ++ rest) = pieces size blocks ++ pieces size rest := by
  induction count generalizing blocks with
  | zero =>
      rw [Nat.zero_mul, List.length_eq_zero_iff] at areFull
      rw [areFull, pieces_nil]
      rfl
  | succ count inductionHypothesis =>
      rw [Nat.succ_mul] at areFull
      have isLong : size ≤ blocks.length := by omega
      have othersFull : (blocks.drop size).length = count * size := by
        rw [List.length_drop]
        omega
      rw [pieces_of_le positive isLong,
        pieces_of_le positive (by rw [List.length_append]; omega),
        List.take_append_of_le_length isLong, List.drop_append_of_le_length isLong,
        inductionHypothesis othersFull, List.cons_append]

/-- What is put behind a message of a length to fill its last block. -/
def trailer (blockSize lengthSize : Nat) (lengthBytes : Nat → Bytes) (length : Nat) : Bytes :=
  let used := length + 1 + lengthSize
  let zeros := (blockSize - used % blockSize) % blockSize
  0x80 :: List.replicate zeros 0 ++ lengthBytes (8 * length)

theorem padded_eq
    (blockSize lengthSize : Nat)
    (lengthBytes : Nat → Bytes)
    (message : Bytes) :
    padded blockSize lengthSize lengthBytes message =
      message ++ trailer blockSize lengthSize lengthBytes message.length := by
  simp only [padded, trailer, List.append_assoc, List.cons_append, List.nil_append]

/-! ## Functions on blocks -/

/-- A hash function on blocks: how a message is padded, and what is done with its blocks. -/
structure BlockHash (Chain : Type) where
  blockSize : Nat
  isPositive : 0 < blockSize
  lengthSize : Nat
  lengthBytes : Nat → Bytes
  /-- The chaining value before the first block. -/
  initial : Chain
  compress : Chain → Bytes → Chain
  /-- The bytes of the last chaining value. -/
  finish : Chain → Bytes

namespace BlockHash

variable {Chain : Type} (function : BlockHash Chain)

/-- The chaining value after the blocks of some bytes. -/
def compressed (chain : Chain) (bytes : Bytes) : Chain :=
  (pieces function.blockSize bytes).foldl function.compress chain

/-- The hash of a whole message. -/
def hash (message : Bytes) : Bytes :=
  function.finish (function.compressed function.initial
    (padded function.blockSize function.lengthSize function.lengthBytes message))

/-- What a function on blocks keeps of the parts it has been fed with. -/
structure Intake where
  chain : Chain
  /-- The bytes that do not fill a block yet. -/
  pending : Bytes
  isShort : pending.length < function.blockSize
  /-- The number of all bytes so far. -/
  total : Nat

namespace Intake

variable {function}

/-- What is kept before the first part. -/
def start : function.Intake where
  chain := function.initial
  pending := []
  isShort := function.isPositive
  total := 0

/-- One more part: the blocks that it fills are compressed, and the rest is kept. -/
def feed (intake : function.Intake) (part : Bytes) : function.Intake :=
  let waiting := intake.pending ++ part
  let full := waiting.length / function.blockSize * function.blockSize
  {
    chain := function.compressed intake.chain (waiting.take full)
    pending := waiting.drop full
    isShort := by
      have remainder := Nat.mod_lt waiting.length function.isPositive
      have division := Nat.div_add_mod' waiting.length function.blockSize
      rw [List.length_drop]
      omega
    total := intake.total + part.length
  }

/-- The hash of all that has been fed. -/
def digest (intake : function.Intake) : Bytes :=
  function.finish (function.compressed intake.chain
    (intake.pending ++
      trailer function.blockSize function.lengthSize function.lengthBytes intake.total))

/-- What is kept stands for a message: its full blocks, and the bytes behind them. -/
structure Holds (intake : function.Intake) (message : Bytes) : Prop where
  total : intake.total = message.length
  blocks :
    ∃ full count,
      full ++ intake.pending = message ∧
      full.length = count * function.blockSize ∧
      intake.chain = function.compressed function.initial full

theorem holds_start : (start : function.Intake).Holds [] where
  total := rfl
  blocks := ⟨[], 0, rfl, (Nat.zero_mul function.blockSize).symm, by
    rw [compressed, pieces_nil]
    rfl⟩

theorem Holds.feed
    {intake : function.Intake}
    {message : Bytes}
    (holds : intake.Holds message)
    (part : Bytes) :
    (intake.feed part).Holds (message ++ part) := by
  obtain ⟨full, count, split, areFull, chain⟩ := holds.blocks
  let waiting := intake.pending ++ part
  -- The part completes so many more blocks, counted from the last one that was full.
  let more := waiting.length / function.blockSize
  have enough : more * function.blockSize ≤ waiting.length :=
    Nat.div_mul_le_self waiting.length function.blockSize
  have moreFull : (waiting.take (more * function.blockSize)).length = more * function.blockSize :=
    List.length_take_of_le enough
  refine ⟨?_, full ++ waiting.take (more * function.blockSize), count + more, ?_, ?_, ?_⟩
  · rw [List.length_append, ← holds.total]
    rfl
  · calc
      full ++ waiting.take (more * function.blockSize) ++ (intake.feed part).pending =
          full ++ waiting := by
        rw [List.append_assoc]
        exact congrArg (full ++ ·) (List.take_append_drop _ waiting)
      _ = message ++ part := by
        rw [← List.append_assoc, split]
  · rw [List.length_append, areFull, moreFull, Nat.add_mul]
  · rw [compressed, pieces_append function.isPositive count areFull, List.foldl_append]
    exact congrArg (function.compressed · (waiting.take (more * function.blockSize))) chain

theorem Holds.feedAll
    {intake : function.Intake}
    {message : Bytes}
    (holds : intake.Holds message)
    (parts : List Bytes) :
    (parts.foldl Intake.feed intake).Holds (message ++ parts.flatten) := by
  induction parts generalizing intake message with
  | nil =>
      rw [List.flatten_nil, List.append_nil]
      exact holds
  | cons part rest inductionHypothesis =>
      rw [List.flatten_cons, ← List.append_assoc]
      exact inductionHypothesis (holds.feed part)

/-- The hash of what stands for a message is the hash of the message. -/
theorem Holds.digest_eq
    {intake : function.Intake}
    {message : Bytes}
    (holds : intake.Holds message) :
    intake.digest = function.hash message := by
  obtain ⟨full, count, split, areFull, chain⟩ := holds.blocks
  rw [digest, hash, padded_eq, holds.total, ← split, List.append_assoc, chain]
  refine congrArg function.finish ?_
  simp only [compressed, pieces_append function.isPositive count areFull, List.foldl_append]

end Intake

end BlockHash

/-! ## The functions of this library -/

/-- SHA-1 as a function on blocks. -/
def Sha1.blockHash : BlockHash (List UInt32) where
  blockSize := 64
  isPositive := by decide
  lengthSize := 8
  lengthBytes := bigEndian 8
  initial := Sha1.initial
  compress := Sha1.compress
  finish := bytesOfWords32

/-- MD5 as a function on blocks. -/
def Md5.blockHash : BlockHash (List UInt32) where
  blockSize := 64
  isPositive := by decide
  lengthSize := 8
  lengthBytes := littleEndian 8
  initial := Md5.initial
  compress := Md5.compress
  finish := fun chain => chain.flatMap fun word => littleEndian 4 word.toNat

/-- A hash on words of 32 bits as a function on blocks, by its first and its last step. -/
def Sha2.blockHash32 (initial : List UInt32) (finish : List UInt32 → Bytes) :
    BlockHash (List UInt32) where
  blockSize := 64
  isPositive := by decide
  lengthSize := 8
  lengthBytes := bigEndian 8
  initial := initial
  compress := Sha2.compress Sha2.variant32
  finish := finish

/-- SHA-512 as a function on blocks. -/
def Sha2.blockHash64 : BlockHash (List UInt64) where
  blockSize := 128
  isPositive := by decide
  lengthSize := 16
  lengthBytes := bigEndian 16
  initial := Sha2.initial512
  compress := Sha2.compress Sha2.variant64
  finish := fun chain => chain.flatMap fun word => bigEndian 8 word.toNat

end Hash

namespace Hasher

open Hash

/-- A function on blocks that is fed with the parts one after the other. -/
def fed {Chain : Type} (function : BlockHash Chain) : Hasher :=
  fun parts => (parts.foldl BlockHash.Intake.feed (BlockHash.Intake.start : function.Intake)).digest

/-- Fed in parts or not, a function on blocks gives the hash of the whole. -/
theorem fed_eq {Chain : Type} (function : BlockHash Chain) :
    fed function = ofFunction function.hash := by
  funext parts
  exact ((@BlockHash.Intake.holds_start Chain function).feedAll parts).digest_eq

/-- What a hasher gives depends on what it was fed with, and not on how that was cut. -/
def JoinsParts (hasher : Hasher) : Prop :=
  ∀ parts others : List Bytes, parts.flatten = others.flatten → hasher parts = hasher others

theorem joinsParts_ofFunction (hash : Bytes → Bytes) : (ofFunction hash).JoinsParts :=
  fun _ _ same => congrArg hash same

theorem joinsParts_fed {Chain : Type} (function : BlockHash Chain) :
    (fed function).JoinsParts := by
  rw [fed_eq]
  exact joinsParts_ofFunction function.hash

/-- Every hasher that has a name is a function on blocks that is fed in parts. -/
theorem exists_fed_of_named?
    {name : Text}
    {hasher : Hasher}
    (isNamed : named? name = some hasher) :
    ∃ (Chain : Type) (function : BlockHash Chain), hasher = fed function := by
  simp only [fed_eq]
  unfold named? at isNamed
  split at isNamed
  · cases isNamed
    exact ⟨_, Sha1.blockHash, rfl⟩
  · split at isNamed
    · cases isNamed
      exact ⟨_, Md5.blockHash, rfl⟩
    · split at isNamed
      · cases isNamed
        exact ⟨_,
          Sha2.blockHash32 Sha2.initial224 fun chain => bytesOfWords32 (chain.take 7), rfl⟩
      · split at isNamed
        · cases isNamed
          exact ⟨_, Sha2.blockHash32 Sha2.initial256 bytesOfWords32, rfl⟩
        · split at isNamed
          · cases isNamed
            exact ⟨_, Sha2.blockHash64, rfl⟩
          · cases isNamed

/-- A hasher that has a name may be fed with the parts one after the other. -/
theorem joinsParts_of_named?
    {name : Text}
    {hasher : Hasher}
    (isNamed : named? name = some hasher) :
    hasher.JoinsParts := by
  obtain ⟨_, function, rfl⟩ := exists_fed_of_named? isNamed
  exact joinsParts_fed function

end Hasher

end SessionHandshake
