import SessionHandshake.Random

namespace SessionHandshake

/-!
# Drawn values

A source that is asked for a number of bytes either gives exactly so many, which are then
the drawn value, or withholds them, and then the fault tells in which way.
-/

/-- The surroundings fail in one of the ways in which a source of random bytes may fail. -/
inductive Fault.IsOutage : Fault → Prop where
  | systemFailure (message : Text) : IsOutage (.systemFailure message)
  | notAvailable (message : Text) : IsOutage (.notAvailable message)
  | unreadableFile (problem : FileProblem) : IsOutage (.unreadableFile problem)
  | unreachable (message : Text) : IsOutage (.unreachable message)

theorem Fault.isOutage_iff {fault : Fault} : fault.isOutage = true ↔ fault.IsOutage := by
  constructor
  · intro isOutage
    cases fault with
    | systemFailure message =>
        exact .systemFailure message
    | notAvailable message =>
        exact .notAvailable message
    | unreadableFile problem =>
        exact .unreadableFile problem
    | unreachable message =>
        exact .unreachable message
    | _ =>
        cases isOutage
  · intro isOutage
    cases isOutage <;> rfl

namespace RandomSource

/-- A source gives bytes, exactly as many as it is asked for. -/
def Gives (source : RandomSource) (before : List Value) (length : Nat) (content : Bytes) : Prop :=
  source before (.int length) = .ok (.bytes content) ∧ content.length = length

/-- A source does not give as many bytes as it is asked for, and that is the fault. -/
inductive Withholds (source : RandomSource) (before : List Value) (length : Nat) :
    Fault → Prop where
  | unavailable {raised : Fault} :
      source before (.int length) = .error raised →
      raised.IsOutage →
      Withholds source before length
        (.randomSource (.unavailable (.int length)) (some raised))
  /-- A fault that no source should raise is handed on as it is. -/
  | unforeseen {raised : Fault} :
      source before (.int length) = .error raised →
      ¬ raised.IsOutage →
      Withholds source before length raised
  | malformed {answer : Value} :
      source before (.int length) = .ok answer →
      (∀ content, answer = .bytes content → content.length ≠ length) →
      Withholds source before length (.randomSource (.malformed (.int length)) none)

variable
  {source : RandomSource}
  {before : List Value}
  {length : Nat}
  {content : Bytes}
  {fault : Fault}

theorem same_length_iff :
    Value.same (.int content.length) (.int length) = true ↔ content.length = length := by
  simp only [Value.same, Value.sameAtom, Value.toInt?, decide_eq_true_eq, Int.ofNat_inj]

/-! ## Checked answers -/

/-- An outage is reported as a failure of the source. -/
theorem accept_outage (isOutage : fault.IsOutage) (length : Value) :
    accept length (.error fault) =
      .error (.randomSource (.unavailable length) (some fault)) := by
  rw [accept, if_pos (Fault.isOutage_iff.mpr isOutage)]

theorem accept_unforeseen (notOutage : ¬ fault.IsOutage) (length : Value) :
    accept length (.error fault) = .error fault := by
  rw [accept, if_neg (mt Fault.isOutage_iff.mp notOutage)]

theorem accept_whole (isWhole : content.length = length) :
    accept (.int length) (.ok (.bytes content)) = .ok content := by
  rw [accept, if_pos (same_length_iff.mpr isWhole)]

/-- Anything but bytes of the right number is no answer. -/
theorem accept_malformed
    {answer : Value}
    (notWhole : ∀ content, answer = .bytes content → content.length ≠ length) :
    accept (.int length) (.ok answer) =
      .error (.randomSource (.malformed (.int length)) none) := by
  cases answer with
  | bytes content =>
      rw [accept, if_neg fun same => notWhole content rfl (same_length_iff.mp same)]
  | _ =>
      rfl

/-! ## Drawing -/

/-- Random bytes depend on one answer of the source alone. -/
theorem fixedBytes_congr
    {one other : RandomSource}
    {before otherBefore : List Value}
    (sameAnswer : one before (.int length) = other otherBefore (.int length)) :
    one.fixedBytes before length = other.fixedBytes otherBefore length :=
  congrArg (accept (.int length)) sameAnswer

theorem fixedBytes_of_gives (gives : source.Gives before length content) :
    source.fixedBytes before length = .ok content := by
  rw [fixedBytes, bytes, gives.1, accept_whole gives.2]

theorem fixedBytes_of_withholds (withholds : source.Withholds before length fault) :
    source.fixedBytes before length = .error fault := by
  rw [fixedBytes, bytes]
  cases withholds with
  | unavailable raised isOutage =>
      rw [raised, accept_outage isOutage]
  | unforeseen raised notOutage =>
      rw [raised, accept_unforeseen notOutage]
  | malformed answered notWhole =>
      rw [answered, accept_malformed notWhole]

/-- A source gives its bytes or withholds them: there is no third way. -/
theorem gives_or_withholds (source : RandomSource) (before : List Value) (length : Nat) :
    (∃ content, source.Gives before length content) ∨
      ∃ fault, source.Withholds before length fault := by
  cases answered : source before (.int length) with
  | error raised =>
      by_cases isOutage : raised.IsOutage
      · exact .inr ⟨_, .unavailable answered isOutage⟩
      · exact .inr ⟨_, .unforeseen answered isOutage⟩
  | ok answer =>
      by_cases isWhole : ∃ content, answer = .bytes content ∧ content.length = length
      · obtain ⟨content, rfl, isWhole⟩ := isWhole
        exact .inl ⟨content, answered, isWhole⟩
      · exact .inr ⟨_, .malformed answered fun content isBytes same =>
          isWhole ⟨content, isBytes, same⟩⟩

/-- The drawn bytes are exactly those that the source gives. -/
theorem fixedBytes_eq_ok_iff :
    source.fixedBytes before length = .ok content ↔ source.Gives before length content := by
  refine ⟨fun drawn => ?_, fixedBytes_of_gives⟩
  rcases source.gives_or_withholds before length with ⟨given, gives⟩ | ⟨fault, withholds⟩
  · cases (fixedBytes_of_gives gives).symm.trans drawn
    exact gives
  · cases (fixedBytes_of_withholds withholds).symm.trans drawn

end RandomSource

end SessionHandshake
