import SessionHandshake.Fault.Basic

namespace SessionHandshake

/-!
# Outcomes in sequence

A sequence of readings has a result exactly if every reading has one.  With
this, what a reader accepts is taken apart into what its parts accept, and two
readings are compared part by part.
-/

variable {First Second : Type}

theorem ok_bind (result : First) (next : First → Except Fault Second) :
    (Except.ok result >>= next) = next result :=
  rfl

/-- A sequence has a result if its first part has one from which the second makes it. -/
theorem bind_eq_ok_iff
    {first : Except Fault First}
    {next : First → Except Fault Second}
    {result : Second} :
    (first >>= next) = .ok result ↔ ∃ between, first = .ok between ∧ next between = .ok result := by
  constructor
  · intro succeeded
    cases first with
    | error fault =>
        cases succeeded
    | ok between =>
        exact ⟨between, rfl, succeeded⟩
  · rintro ⟨between, rfl, succeeded⟩
    exact succeeded

/-- A sequence has a fault if its first part has it, or else its second. -/
theorem bind_eq_error_iff
    {first : Except Fault First}
    {next : First → Except Fault Second}
    {fault : Fault} :
    (first >>= next) = .error fault ↔
      first = .error fault ∨ ∃ between, first = .ok between ∧ next between = .error fault := by
  constructor
  · intro failed
    cases first with
    | error other =>
        cases failed
        exact .inl rfl
    | ok between =>
        exact .inr ⟨between, rfl, failed⟩
  · rintro (rfl | ⟨between, rfl, failed⟩)
    · rfl
    · exact failed

theorem pure_eq_ok_iff {given result : First} :
    (pure given : Except Fault First) = .ok result ↔ given = result :=
  ⟨fun same => Except.ok.inj same, fun same => congrArg Except.ok same⟩

theorem map_eq_ok_iff
    {first : Except Fault First}
    {wrap : First → Second}
    {result : Second} :
    first.map wrap = .ok result ↔ ∃ found, first = .ok found ∧ wrap found = result := by
  cases first with
  | error fault =>
      constructor
      · intro succeeded
        cases succeeded
      · rintro ⟨found, succeeded, _⟩
        cases succeeded
  | ok found =>
      constructor
      · intro succeeded
        exact ⟨found, rfl, Except.ok.inj succeeded⟩
      · rintro ⟨other, same, rfl⟩
        cases same
        rfl

theorem map_eq_error_iff
    {first : Except Fault First}
    {wrap : First → Second}
    {fault : Fault} :
    first.map wrap = .error fault ↔ first = .error fault := by
  cases first with
  | error other =>
      exact ⟨fun same => congrArg Except.error (Except.error.inj same),
        fun same => by cases same; rfl⟩
  | ok result =>
      constructor <;> intro failed <;> cases failed

/-! ## Outcomes side by side -/

/-- Two outcomes of one kind: results that are alike, or faults that are. -/
inductive OutcomesAlike {First Second : Type}
    (faults : Fault → Fault → Prop)
    (results : First → Second → Prop) :
    Except Fault First → Except Fault Second → Prop where
  | ok {first : First} {second : Second} :
      results first second →
      OutcomesAlike faults results (.ok first) (.ok second)
  | error {first second : Fault} :
      faults first second →
      OutcomesAlike faults results (.error first) (.error second)

namespace OutcomesAlike

variable
  {First Second : Type}
  {faults otherFaults : Fault → Fault → Prop}
  {results otherResults : First → Second → Prop}
  {one : Except Fault First}
  {other : Except Fault Second}

theorem mono
    (alike : OutcomesAlike faults results one other)
    (weakerFaults : ∀ {first second}, faults first second → otherFaults first second)
    (weakerResults : ∀ {first second}, results first second → otherResults first second) :
    OutcomesAlike otherFaults otherResults one other := by
  cases alike with
  | ok results =>
      exact .ok (weakerResults results)
  | error faults =>
      exact .error (weakerFaults faults)

/-- An outcome is alike to itself where its result is. -/
theorem self
    {Result : Type}
    {results : Result → Result → Prop}
    {outcome : Except Fault Result}
    (sameFault : ∀ fault, faults fault fault)
    (sameResult : ∀ result, outcome = .ok result → results result result) :
    OutcomesAlike faults results outcome outcome := by
  cases outcome with
  | ok result =>
      exact .ok (sameResult result rfl)
  | error fault =>
      exact .error (sameFault fault)

theorem refl
    {Result : Type}
    (sameFault : ∀ fault, faults fault fault)
    (outcome : Except Fault Result) :
    OutcomesAlike faults Eq outcome outcome :=
  self sameFault fun _ _ => rfl

theorem map
    {Third Fourth : Type}
    {mapped : Third → Fourth → Prop}
    {wrap : First → Third}
    {otherWrap : Second → Fourth}
    (alike : OutcomesAlike faults results one other)
    (wraps : ∀ {first second}, results first second → mapped (wrap first) (otherWrap second)) :
    OutcomesAlike faults mapped (one.map wrap) (other.map otherWrap) := by
  cases alike with
  | ok results =>
      exact .ok (wraps results)
  | error faults =>
      exact .error faults

theorem bind
    {Third Fourth : Type}
    {nextResults : Third → Fourth → Prop}
    {next : First → Except Fault Third}
    {otherNext : Second → Except Fault Fourth}
    (alike : OutcomesAlike faults results one other)
    (goesOn :
      ∀ {first second}, results first second →
        OutcomesAlike faults nextResults (next first) (otherNext second)) :
    OutcomesAlike faults nextResults (one >>= next) (other >>= otherNext) := by
  cases alike with
  | ok results =>
      exact goesOn results
  | error faults =>
      exact .error faults

/-- Two ways to go on from one outcome end alike if they do from each result. -/
theorem bind_self
    {Result Third Fourth : Type}
    {nextResults : Third → Fourth → Prop}
    {outcome : Except Fault Result}
    {next : Result → Except Fault Third}
    {otherNext : Result → Except Fault Fourth}
    (sameFault : ∀ fault, faults fault fault)
    (goesOn : ∀ result, OutcomesAlike faults nextResults (next result) (otherNext result)) :
    OutcomesAlike faults nextResults (outcome >>= next) (outcome >>= otherNext) := by
  cases outcome with
  | ok result =>
      exact goesOn result
  | error fault =>
      exact .error (sameFault fault)

/-- Equal results are alike in whatever way each result of the outcome is alike to itself. -/
theorem of_eq
    {Result : Type}
    {results : Result → Result → Prop}
    {one other : Except Fault Result}
    (alike : OutcomesAlike faults Eq one other)
    (holds : ∀ result, one = .ok result → results result result) :
    OutcomesAlike faults results one other := by
  cases alike with
  | @ok first _ same =>
      subst same
      exact .ok (holds first rfl)
  | error faults =>
      exact .error faults

/-- Outcomes with equal results and equal faults are equal. -/
theorem eq
    {Result : Type}
    {one other : Except Fault Result}
    (alike : OutcomesAlike Eq Eq one other) :
    one = other := by
  cases alike with
  | ok same =>
      exact congrArg Except.ok same
  | error same =>
      exact congrArg Except.error same

end OutcomesAlike

end SessionHandshake
