import SessionHandshake.Proofs.Percent
import SessionHandshake.Proofs.Splitting
import SessionHandshake.Text.Lowercase

namespace SessionHandshake

/-!
# Lower case in ASCII

A text in ASCII is put in lower case letter by letter.  Letters beyond ASCII may have a
form in ASCII too, but these forms are only `i` and `k`: a text of which the lower-case
form is in ASCII, and has neither of the two, is in ASCII itself.
-/

/-- The code points that are the lower-case form of letters beyond ASCII, too. -/
def sharedLowercase : Text := "ik"

/-- The lower-case form of what is beyond ASCII is beyond ASCII or one of two letters. -/
def CodePoint.ComesFromBeyond (point : CodePoint) : Prop :=
  0x80 ≤ point.value ∨ point ∈ sharedLowercase

namespace CodePoint

theorem le_value_ofNat {number : Nat} (isBeyond : 0x80 ≤ number) : 0x80 ≤ (ofNat number).value := by
  by_cases isBounded : number < 0x110000
  · rwa [value_ofNat_of_lt isBounded]
  · rw [ofNat, ofNat?, dif_neg isBounded]
    decide

theorem exists_row_of_lowercaseOffset?
    {number : Nat}
    {rows : List (Nat × Nat × Nat × Int)}
    {offset : Int}
    (found : lowercaseOffset? number rows = some offset) :
    ∃ row ∈ rows, row.1 ≤ number ∧ number ≤ row.2.1 ∧ row.2.2.2 = offset := by
  induction rows with
  | nil =>
      cases found
  | cons first rest inductionHypothesis =>
      obtain ⟨least, greatest, stride, added⟩ := first
      rw [lowercaseOffset?] at found
      split at found
      · next isInside =>
          cases found
          exact ⟨_, List.mem_cons_self, isInside.1, isInside.2.1, rfl⟩
      · obtain ⟨row, member, isInside⟩ := inductionHypothesis found
        exact ⟨row, List.mem_cons_of_mem _ member, isInside⟩

/-- Of the rows beyond ASCII, only that of the Kelvin sign leads back into ASCII. -/
theorem lowercaseRows_beyond :
    ∀ row ∈ lowercaseRows,
      row.2.1 < 0x80 ∨ 0x80 ≤ row.1 + row.2.2.2 ∨
        row.1 = row.2.1 ∧ row.1 + row.2.2.2 = 'k'.toNat := by
  decide +kernel

theorem comesFromBeyond_of_mem_lowercase
    {point written : CodePoint}
    (isBeyond : 0x80 ≤ point.value)
    (member : written ∈ point.lowercase) :
    written.ComesFromBeyond := by
  rw [lowercase, if_neg (Nat.not_lt.mpr isBeyond)] at member
  split at member
  · have dotted : ∀ written ∈ [ofNat 0x69, ofNat 0x307],
        0x80 ≤ written.value ∨ written ∈ sharedLowercase := by
      decide
    exact dotted written member
  · split at member
    · rw [List.mem_singleton.mp member]
      exact .inl isBeyond
    · next offset found =>
        rw [List.mem_singleton.mp member]
        obtain ⟨row, listed, atLeast, atMost, rfl⟩ := exists_row_of_lowercaseOffset? found
        rcases lowercaseRows_beyond row listed with inside | beyond | ⟨isOne, isKelvin⟩
        · omega
        · exact .inl (le_value_ofNat (by omega))
        · have isLetter : (point.value + row.2.2.2).toNat = 'k'.toNat := by omega
          rw [isLetter]
          exact .inr (by decide)

theorem lowercase_ne_nil (point : CodePoint) : point.lowercase ≠ [] := by
  rw [lowercase]
  repeat' split
  all_goals exact List.cons_ne_nil _ _

theorem lowercase_of_isAscii {point : CodePoint} (isAscii : point.value < 0x80) :
    point.lowercase = [Text.lowerPoint point] := by
  rw [lowercase, if_pos isAscii, Text.lowerPoint]
  split <;> rfl

end CodePoint

namespace Text

/-- Letters of ASCII do not look at what is around them. -/
theorem lowercase_eq_asciiLowercase
    {text : Text}
    (areAscii : ∀ point ∈ text, point.value < 0x80) :
    text.lowercase = text.asciiLowercase := by
  have after (before : Text) : lowercaseAfter before text = text.map lowerPoint := by
    induction text generalizing before with
    | nil =>
        rfl
    | cons first rest inductionHypothesis =>
        have isAscii := areAscii first List.mem_cons_self
        have restAscii : ∀ point ∈ rest, point.value < 0x80 :=
          fun point member => areAscii point (List.mem_cons_of_mem first member)
        have notSigma : first.value ≠ 0x3a3 := by omega
        rw [lowercaseAfter, if_neg notSigma, CodePoint.lowercase_of_isAscii isAscii,
          inductionHypothesis restAscii]
        rfl
  exact after []

/-- What is beyond ASCII leaves a trace in the lower-case form, whatever is before it. -/
theorem areAscii_of_lowercaseAfter
    {before text : Text}
    (arePlain : ∀ point ∈ lowercaseAfter before text, ¬ point.ComesFromBeyond) :
    ∀ point ∈ text, point.value < 0x80 := by
  induction text generalizing before with
  | nil =>
      intro point member
      cases member
  | cons first rest inductionHypothesis =>
      rw [lowercaseAfter] at arePlain
      have firstPlain :=
        fun point member => arePlain point (List.mem_append_left _ member)
      have isAscii : first.value < 0x80 := by
        refine Nat.lt_of_not_le fun isBeyond => ?_
        split at firstPlain
        · -- Both forms of the sigma are beyond ASCII.
          refine firstPlain _ List.mem_cons_self (.inl ?_)
          rw [lowercaseSigma]
          split <;> decide
        · obtain ⟨written, others, isWritten⟩ := List.exists_cons_of_ne_nil first.lowercase_ne_nil
          have member : written ∈ first.lowercase := isWritten ▸ List.mem_cons_self
          exact firstPlain written member
            (CodePoint.comesFromBeyond_of_mem_lowercase isBeyond member)
      intro point member
      rcases List.mem_cons.mp member with rfl | isRest
      · exact isAscii
      · exact inductionHypothesis
          (fun other isWritten => arePlain other (List.mem_append_right _ isWritten)) point isRest

theorem areAscii_of_lowercase
    {text : Text}
    (arePlain : ∀ point ∈ text.lowercase, ¬ point.ComesFromBeyond) :
    ∀ point ∈ text, point.value < 0x80 :=
  areAscii_of_lowercaseAfter arePlain

end Text

end SessionHandshake
