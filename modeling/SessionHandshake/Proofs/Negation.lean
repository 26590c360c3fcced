import Mathlib.Logic.Function.Iterate
import SessionHandshake.Proofs.SignedHex

namespace SessionHandshake

/-!
# Negation of bytes

Bytes are negated by inverting them and adding one, from the last byte to the first for as
long as there is something to carry.  The sum is right modulo the power of 256 that the
length gives, so negating twice gives the bytes back, and the carry out of the first byte
is lost for zeros alone.

The addition is also looked at turn by turn, over cells that could hold any number.  No
cell ever holds more than a byte does: a full cell is emptied before anything is added.
-/

/-- Bytes of one length that write one number are the same. -/
theorem Hash.eq_of_numberOf_eq
    {bytes other : Bytes}
    (sameLength : bytes.length = other.length)
    (sameNumber : numberOf bytes = numberOf other) :
    bytes = other := by
  rw [← bigEndian_numberOf bytes, ← bigEndian_numberOf other, sameLength, sameNumber]

namespace Digest

/-- Negating twice gives the bytes back. -/
theorem twosComplement_twosComplement (bytes : Bytes) :
    twosComplement (twosComplement bytes) = bytes := by
  refine Hash.eq_of_numberOf_eq
    ((length_twosComplement _).trans (length_twosComplement bytes)) ?_
  have bound := Hash.numberOf_lt bytes
  rw [numberOf_twosComplement, length_twosComplement, numberOf_twosComplement]
  rcases Nat.eq_zero_or_pos (Hash.numberOf bytes) with isZero | positive
  · -- Zero is its own negation: the carry falls off the front.
    rw [isZero, Nat.sub_zero, Nat.mod_self, Nat.sub_zero, Nat.mod_self]
  · have negated :
        (256 ^ bytes.length - Hash.numberOf bytes) % 256 ^ bytes.length =
          256 ^ bytes.length - Hash.numberOf bytes :=
      Nat.mod_eq_of_lt (by omega)
    rw [negated, Nat.sub_sub_self (Nat.le_of_lt bound), Nat.mod_eq_of_lt bound]

/-! ## The loop, turn by turn -/

/-- The loop that adds one, in the middle of its work on cells that hold numbers of any size. -/
structure Carry where
  /-- The cells that the loop has been at, the least significant first. -/
  passed : List Nat
  /-- The cells that the loop has not been at, the least significant first. -/
  ahead : List Nat
  /-- The one is still to be added. -/
  isCarrying : Bool

namespace Carry

/-- The loop before its first turn. -/
def start (cells : List Nat) : Carry where
  passed := []
  ahead := cells
  isCarrying := true

/-- All cells, the least significant first. -/
def cells (carry : Carry) : List Nat :=
  carry.passed ++ carry.ahead

/--
One turn: a full cell becomes zero and hands the carry on, any other cell takes it, which
ends the loop.
-/
def turn (carry : Carry) : Carry :=
  match carry.isCarrying, carry.ahead with
  | true, cell :: rest =>
      if cell = 0xff then
        { carry with passed := carry.passed ++ [0], ahead := rest }
      else
        { passed := carry.passed ++ [cell + 1], ahead := rest, isCarrying := false }
  | _, _ =>
      carry

/-- No cell holds more than a byte does. -/
def IsBounded (carry : Carry) : Prop :=
  ∀ cell ∈ carry.cells, cell ≤ 0xff

theorem isBounded_start (bytes : Bytes) : (start (bytes.map UInt8.toNat)).IsBounded := by
  intro cell member
  obtain ⟨byte, _, rfl⟩ := List.mem_map.mp member
  exact Nat.le_of_lt_succ byte.toNat_lt

/-- A turn replaces one cell by another that is not too large either. -/
theorem IsBounded.turn {carry : Carry} (bounded : carry.IsBounded) : carry.turn.IsBounded := by
  obtain ⟨passed, ahead, isCarrying⟩ := carry
  cases isCarrying with
  | false =>
      exact bounded
  | true =>
      cases ahead with
      | nil =>
          exact bounded
      | cons cell rest =>
          obtain ⟨passedBounded, cellBounded, restBounded⟩ :
              (∀ other ∈ passed, other ≤ 0xff) ∧ cell ≤ 0xff ∧ ∀ other ∈ rest, other ≤ 0xff := by
            simpa only [IsBounded, cells, List.forall_mem_append, List.forall_mem_cons]
              using bounded
          by_cases isFull : cell = 0xff
          · simp only [Carry.turn, isFull, if_true, IsBounded, cells, List.append_assoc,
              List.singleton_append, List.forall_mem_append, List.forall_mem_cons]
            exact ⟨passedBounded, Nat.zero_le _, restBounded⟩
          · simp only [Carry.turn, isFull, if_false, IsBounded, cells, List.append_assoc,
              List.singleton_append, List.forall_mem_append, List.forall_mem_cons]
            exact ⟨passedBounded, by omega, restBounded⟩

/-- However many turns the loop takes, no cell ever holds more than a byte does. -/
theorem IsBounded.turns {carry : Carry} (bounded : carry.IsBounded) (count : Nat) :
    (Carry.turn^[count] carry).IsBounded := by
  induction count with
  | zero =>
      exact bounded
  | succ count inductionHypothesis =>
      rw [Function.iterate_succ_apply']
      exact inductionHypothesis.turn

/-- A loop that has nothing to add any more stays as it is. -/
theorem turns_of_not_isCarrying (passed ahead : List Nat) (count : Nat) :
    Carry.turn^[count] { passed := passed, ahead := ahead, isCarrying := false } =
      { passed := passed, ahead := ahead, isCarrying := false } :=
  Function.iterate_fixed rfl count

/-- With one turn for each byte, the loop adds one to the bytes ahead of it. -/
theorem cells_turns (passed : List Nat) (bytes : Bytes) :
    (Carry.turn^[bytes.length]
        { passed := passed, ahead := bytes.map UInt8.toNat, isCarrying := true }).cells =
      passed ++ (increment bytes).map UInt8.toNat := by
  induction bytes generalizing passed with
  | nil =>
      rfl
  | cons byte rest inductionHypothesis =>
      rw [List.length_cons, Function.iterate_succ_apply, increment]
      split
      · next isFull =>
          subst isFull
          exact (inductionHypothesis (passed ++ [0])).trans (List.append_assoc _ _ _)
      · next hasRoom =>
          have isByte := byte.toNat_lt
          have notFull : byte.toNat ≠ 0xff := fun isFull => hasRoom (UInt8.toNat_inj.mp isFull)
          have added : (byte + 1).toNat = byte.toNat + 1 := by
            rw [UInt8.toNat_add]
            exact Nat.mod_eq_of_lt (by change byte.toNat + 1 < 256; omega)
          simp only [List.map_cons, Carry.turn, notFull, if_false, turns_of_not_isCarrying, cells,
            added, List.append_assoc, List.singleton_append]

end Carry

/-! ## Negation -/

/-- The loop that adds one to the inverted bytes, before its first turn. -/
def negationLoop (bytes : Bytes) : Carry :=
  Carry.start ((bytes.map (· ^^^ 0xff)).reverse.map UInt8.toNat)

theorem cells_negationLoop (bytes : Bytes) :
    (Carry.turn^[bytes.length] (negationLoop bytes)).cells =
      (twosComplement bytes).reverse.map UInt8.toNat := by
  have looped := Carry.cells_turns [] (bytes.map (· ^^^ 0xff)).reverse
  rw [List.length_reverse, List.length_map] at looped
  rw [twosComplement, List.reverse_reverse]
  exact looped

/-- What the negation of bytes is, and how it comes about. -/
structure Negates (bytes negated : Bytes) : Prop where
  length_eq : negated.length = bytes.length
  numberOf_eq :
    Hash.numberOf negated =
      (256 ^ bytes.length - Hash.numberOf bytes) % 256 ^ bytes.length
  back : twosComplementOf (.bytes negated) = .ok bytes
  /-- The loop gives the negation with at most one turn for each byte. -/
  looped :
    (Carry.turn^[bytes.length] (negationLoop bytes)).cells = negated.reverse.map UInt8.toNat
  /-- No cell of the loop ever holds more than a byte does. -/
  bounded : ∀ count, (Carry.turn^[count] (negationLoop bytes)).IsBounded

/-- Bytes of every length are negated modulo the power of 256 that their length gives. -/
theorem twosComplementOf_negates (bytes : Bytes) :
    ∃ negated, twosComplementOf (.bytes bytes) = .ok negated ∧ Negates bytes negated :=
  ⟨twosComplement bytes, rfl, {
    length_eq := length_twosComplement bytes
    numberOf_eq := numberOf_twosComplement bytes
    back := congrArg Except.ok (twosComplement_twosComplement bytes)
    looped := cells_negationLoop bytes
    bounded := (Carry.isBounded_start _).turns }⟩

/-- A carry travels through zeros at the end, and falls off the front of zeros alone. -/
example :
    twosComplement [0x12, 0x00, 0x00] = [0xee, 0x00, 0x00] ∧
      twosComplement [0x00, 0x00] = [0x00, 0x00] ∧
      twosComplement [] = [] := by
  decide

end Digest

end SessionHandshake
