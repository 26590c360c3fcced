import SessionHandshake.Proofs.DashedForm
import SessionHandshake.Proofs.Random

namespace SessionHandshake

/-!
# What is made of random bytes

A random value is made of the answer to one question, and of nothing else.  Bytes of the
right number are the value as they are, or are written in hexadecimal, and then they can be
read back.  Every other answer and every outage is reported as a failure of the source, and
a fault that no source should raise goes on as it is.
-/

/-! ## Hexadecimal -/

namespace Text

/-- The bytes that hexadecimal digits in either case write, two digits for each. -/
def hexBytes? : Text → Option Bytes
  | [] =>
      some []
  | [_] =>
      none
  | high :: low :: rest => do
      let number := 16 * (← high.hexValue?) + (← low.hexValue?)
      return UInt8.ofNat number :: (← hexBytes? rest)

/-- A text is the hexadecimal form of bytes, in lower case. -/
structure IsHexOf (text : Text) (content : Bytes) : Prop where
  length : text.length = 2 * content.length
  points : ∀ point ∈ text, point ∈ Uuid.lowerDigits
  readBack : text.hexBytes? = some content

theorem hexBytes?_ofBytes_cons (first : UInt8) (rest : Bytes) :
    hexBytes? (ofBytes (first :: rest)) = (hexBytes? (ofBytes rest)).map (first :: ·) := by
  have isByte := first.toNat_lt
  have whole : 16 * (first.toNat / 16) + first.toNat % 16 = first.toNat := Nat.div_add_mod _ _
  have written :
      ofBytes (first :: rest) =
        CodePoint.hexDigit (first.toNat / 16) :: CodePoint.hexDigit (first.toNat % 16) ::
          ofBytes rest :=
    rfl
  rw [written, hexBytes?, CodePoint.hexDigit_hexValue? (by omega),
    CodePoint.hexDigit_hexValue? (by omega)]
  simp only [Option.bind_eq_bind, Option.bind_some, whole, UInt8.ofNat_toNat]
  cases hexBytes? (ofBytes rest) <;> rfl

/-- Bytes are read back from their hexadecimal form. -/
theorem isHexOf_ofBytes (content : Bytes) : IsHexOf (ofBytes content) content := by
  induction content with
  | nil =>
      exact ⟨rfl, fun _ member => absurd member List.not_mem_nil, rfl⟩
  | cons first rest inductionHypothesis =>
      have isByte := first.toNat_lt
      constructor
      case length =>
        exact congrArg (· + 2) inductionHypothesis.length
      case points =>
        rintro point (_ | ⟨_, _ | ⟨_, isLater⟩⟩)
        · exact Uuid.hexDigit_mem_lowerDigits (by omega)
        · exact Uuid.hexDigit_mem_lowerDigits (by omega)
        · exact inductionHypothesis.points point isLater
      case readBack =>
        rw [hexBytes?_ofBytes_cons, inductionHypothesis.readBack]
        rfl

end Text

/-! ## One question -/

namespace RandomSource

/--
Random values are made of the answer to one question for a number of bytes, in some form,
and of nothing else.
-/
structure IsMadeOf
    {Result : Type}
    (make : RandomSource → List Value → Except Fault Result)
    (length : Nat)
    (form : Bytes → Result) : Prop where
  asksOnce :
    ∀ {one other : RandomSource} {before : List Value},
      one before (.int length) = other before (.int length) →
      make one before = make other before
  whole :
    ∀ {source : RandomSource} {before : List Value} {content : Bytes},
      source before (.int length) = .ok (.bytes content) →
      content.length = length →
      make source before = .ok (form content)
  malformed :
    ∀ {source : RandomSource} {before : List Value} {answer : Value},
      source before (.int length) = .ok answer →
      (∀ content, answer = .bytes content → content.length ≠ length) →
      make source before = .error (.randomSource (.malformed (.int length)) none)
  unavailable :
    ∀ {source : RandomSource} {before : List Value} {raised : Fault},
      source before (.int length) = .error raised →
      raised.IsOutage →
      make source before = .error (.randomSource (.unavailable (.int length)) (some raised))
  /-- A fault that no source should raise is handed on as it is. -/
  unforeseen :
    ∀ {source : RandomSource} {before : List Value} {raised : Fault},
      source before (.int length) = .error raised →
      ¬ raised.IsOutage →
      make source before = .error raised

variable
  {Result : Type}
  {make : RandomSource → List Value → Except Fault Result}
  {length : Nat}
  {form : Bytes → Result}

/-- Whatever is an accepted answer in some form is made of this answer alone. -/
theorem isMadeOf_of_accept
    (accepted :
      ∀ source before, make source before =
        (accept (.int length) (source before (.int length))).map form) :
    IsMadeOf make length form := by
  constructor
  case asksOnce =>
    intro one other before sameAnswer
    rw [accepted, accepted, sameAnswer]
  case whole =>
    intro source before content answered isWhole
    rw [accepted, answered, accept_whole isWhole]
    rfl
  case malformed =>
    intro source before answer answered notWhole
    rw [accepted, answered, accept_malformed notWhole]
    rfl
  case unavailable =>
    intro source before raised failed isOutage
    rw [accepted, failed, accept_outage isOutage]
    rfl
  case unforeseen =>
    intro source before raised failed notOutage
    rw [accepted, failed, accept_unforeseen notOutage]
    rfl

theorem isMadeOf_fixedBytes (length : Nat) :
    IsMadeOf (fun source before => source.fixedBytes before length) length id := by
  refine isMadeOf_of_accept fun source before => ?_
  rw [fixedBytes, bytes]
  cases accept (.int length) (source before (.int length)) <;> rfl

theorem isMadeOf_ofBytes (length : Nat) :
    IsMadeOf (fun source before => (source.fixedBytes before length).map Text.ofBytes) length
      Text.ofBytes :=
  isMadeOf_of_accept fun _ _ => rfl

end RandomSource

end SessionHandshake
