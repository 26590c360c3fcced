import SessionHandshake.Proofs.Profile

namespace SessionHandshake

/-!
# Answers to questions about a join

The session server answers such a question with nothing, with a profile, or with bytes that
are neither.  Which of the three it is depends on the bytes alone, and every string of bytes
is exactly one of them.
-/

/-- The bytes of ASCII white space: tab, line feed, line tab, form feed, return and space. -/
def asciiBlanks : List UInt8 := [0x09, 0x0a, 0x0b, 0x0c, 0x0d, 0x20]

/-- Bytes say nothing: there are none but those of ASCII white space. -/
def AreBlank (content : Bytes) : Prop :=
  ∀ byte ∈ content, byte ∈ asciiBlanks

theorem mem_asciiBlanks_iff {byte : UInt8} :
    byte ∈ asciiBlanks ↔ isAsciiBlank byte.toNat = true := by
  simp only [asciiBlanks, List.mem_cons, List.not_mem_nil, or_false, ← UInt8.toNat_inj,
    UInt8.reduceToNat, isAsciiBlank, Bool.or_eq_true, Bool.and_eq_true, decide_eq_true_eq]
  omega

theorem areBlank_iff {content : Bytes} :
    AreBlank content ↔ (content.all fun byte => isAsciiBlank byte.toNat) = true := by
  simp only [AreBlank, List.all_eq_true, mem_asciiBlanks_iff]

namespace Value

/-- It can be told of all bytes whether they say nothing. -/
theorem isBlankBody_bytes (content : Bytes) :
    (bytes content).isBlankBody = .ok (content.all fun byte => isAsciiBlank byte.toNat) :=
  rfl

theorem isBlankBody_eq_true_iff {content : Bytes} :
    (bytes content).isBlankBody = .ok true ↔ AreBlank content := by
  rw [isBlankBody_bytes, Except.ok.injEq, areBlank_iff]

theorem isBlankBody_eq_false_iff {content : Bytes} :
    (bytes content).isBlankBody = .ok false ↔ ¬ AreBlank content := by
  rw [isBlankBody_bytes, Except.ok.injEq, areBlank_iff, Bool.not_eq_true]

end Value

namespace Endpoint

section HasJoined

variable {server username serverHash address : Value} {content : Bytes}

/-- The session server knows of no join exactly if its answer is blank. -/
theorem hasJoined_read_eq_none_iff :
    (hasJoined server username serverHash address).read (.ok (.bytes content)) = .ok none ↔
      AreBlank content := by
  rw [← Value.isBlankBody_eq_true_iff]
  constructor
  · intro read
    rcases hasJoined_read_eq_ok read with ⟨isBlank, _⟩ | ⟨_, profile, _, isSome⟩
    · exact isBlank
    · cases isSome
  · intro isBlank
    simp only [hasJoined, isBlank, ok_bind]
    rfl

/-- The session server names a profile exactly if its answer is not blank and holds it. -/
theorem hasJoined_read_eq_some_iff {profile : Profile} :
    (hasJoined server username serverHash address).read (.ok (.bytes content)) =
        .ok (some profile) ↔
      ¬ AreBlank content ∧ (Value.bytes content).HoldsProfile profile := by
  rw [← Value.isBlankBody_eq_false_iff]
  constructor
  · intro read
    rcases hasJoined_read_eq_ok read with ⟨_, isNone⟩ | ⟨notBlank, named, holds, isSome⟩
    · cases isNone
    · cases isSome
      exact ⟨notBlank, holds⟩
  · rintro ⟨notBlank, holds⟩
    exact hasJoined_read_of_holdsProfile notBlank holds

/-- A failing answer is neither blank nor a profile; it is malformed, or nested too deep. -/
theorem hasJoined_read_failed
    {fault : Fault}
    (failed :
      (hasJoined server username serverHash address).read (.ok (.bytes content)) =
        .error fault) :
    ¬ AreBlank content ∧
      ((¬ (Value.bytes content).NestsTooDeep ∧
          (∀ profile, ¬ (Value.bytes content).HoldsProfile profile) ∧
          ∃ problem cause, fault = .malformedResponse problem cause) ∨
        (Value.bytes content).NestsTooDeep ∧ fault = .tooDeep) := by
  have notBlank : ¬ AreBlank content := by
    intro blank
    cases failed.symm.trans (hasJoined_read_eq_none_iff.mpr blank)
  refine ⟨notBlank, ?_⟩
  by_cases tooDeep : (Value.bytes content).NestsTooDeep
  · have isFalse := Value.isBlankBody_eq_false_iff.mpr notBlank
    exact .inr ⟨tooDeep,
      Except.error.inj (failed.symm.trans (hasJoined_read_of_nestsTooDeep isFalse tooDeep))⟩
  · obtain ⟨_, holdsNone, isMalformed⟩ := hasJoined_read_error tooDeep failed
    exact .inl ⟨tooDeep, holdsNone, isMalformed⟩

/-- An answer that can be followed is malformed exactly if it is not blank and no profile. -/
theorem hasJoined_read_malformed_iff :
    (∃ problem cause,
        (hasJoined server username serverHash address).read (.ok (.bytes content)) =
          .error (.malformedResponse problem cause)) ↔
      ¬ AreBlank content ∧
        ¬ (Value.bytes content).NestsTooDeep ∧
        ∀ profile, ¬ (Value.bytes content).HoldsProfile profile := by
  constructor
  · rintro ⟨problem, cause, failed⟩
    obtain ⟨notBlank, ⟨followable, holdsNone, _⟩ | ⟨_, isTooDeep⟩⟩ := hasJoined_read_failed failed
    · exact ⟨notBlank, followable, holdsNone⟩
    · cases isTooDeep
  · rintro ⟨notBlank, followable, holdsNone⟩
    cases read :
        (hasJoined server username serverHash address).read (.ok (.bytes content)) with
    | error fault =>
        obtain ⟨_, _, problem, cause, rfl⟩ := hasJoined_read_error followable read
        exact ⟨problem, cause, rfl⟩
    | ok answered =>
        cases answered with
        | none =>
            exact (notBlank (hasJoined_read_eq_none_iff.mp read)).elim
        | some profile =>
            exact (holdsNone profile (hasJoined_read_eq_some_iff.mp read).2).elim

end HasJoined

variable (server username serverHash address : Value)

/--
A question about a join brings nothing exactly if the answer is blank, a profile exactly if
the answer is not blank and is the document of an object that describes this profile, and
is a malformed answer in every other case that is not nested too deep, and no other fault.
A request that fails is handed on as it is.
-/
theorem hasJoined_answers :
    (∀ content,
      (hasJoined server username serverHash address).read (.ok (.bytes content)) = .ok none ↔
        AreBlank content) ∧
      (∀ content profile,
        (hasJoined server username serverHash address).read (.ok (.bytes content)) =
            .ok (some profile) ↔
          ¬ AreBlank content ∧ (Value.bytes content).HoldsProfile profile) ∧
      (∀ content,
        (∃ problem cause,
            (hasJoined server username serverHash address).read (.ok (.bytes content)) =
              .error (.malformedResponse problem cause)) ↔
          ¬ AreBlank content ∧
            ¬ (Value.bytes content).NestsTooDeep ∧
            ∀ profile, ¬ (Value.bytes content).HoldsProfile profile) ∧
      (∀ content fault,
        (hasJoined server username serverHash address).read (.ok (.bytes content)) =
            .error fault →
          (∃ problem cause, fault = .malformedResponse problem cause) ∨
            (Value.bytes content).NestsTooDeep ∧
              (Value.bytes content).OpensTooMany ∧
              fault = .tooDeep) ∧
      ∀ message status body cause,
        (hasJoined server username serverHash address).read
            (.error (.transport message status body cause)) =
          .error (.transport message status body cause) := by
  refine ⟨fun _ => hasJoined_read_eq_none_iff, fun _ _ => hasJoined_read_eq_some_iff,
    fun _ => hasJoined_read_malformed_iff, fun content fault failed => ?_,
    fun message status body cause => rfl⟩
  obtain ⟨_, ⟨_, _, isMalformed⟩ | ⟨tooDeep, isTooDeep⟩⟩ := hasJoined_read_failed failed
  · exact .inl isMalformed
  · exact .inr ⟨tooDeep, tooDeep.opensTooMany, isTooDeep⟩

end Endpoint

end SessionHandshake
