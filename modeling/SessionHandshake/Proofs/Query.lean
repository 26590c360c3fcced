import SessionHandshake.Proofs.Outcome
import SessionHandshake.Proofs.Percent
import SessionHandshake.Proofs.Splitting
import SessionHandshake.Transport.Query

namespace SessionHandshake

/-!
# Reading a query as a form

The fields of a form are separated by `&`; the first `=` of a field ends its
name, a plus sign stands for a space and an escape for a byte of UTF-8.  The
query of textual parameters reads as a form with exactly these parameters.
-/

namespace Query

/-! ## Forms -/

/-- The plus sign, which stands for a space in a form. -/
def plus : CodePoint := CodePoint.ofChar '+'

/-- A part of a form with spaces for its plus signs. -/
def spaced (part : Text) : Text :=
  part.map fun point => if point = plus then space else point

/-- The name or the value that a part of a form stands for. -/
def decodePart? (part : Text) : Option Text :=
  Text.ofUtf8? false (Percent.bytesOf (spaced part))

/-- The name and the value of a field; the value is blank if there is no `=`. -/
def decodeField? (field : Text) : Option (Text × Text) := do
  let (name, value) := field.splitAtFirst (CodePoint.ofChar '=')
  return (← decodePart? name, ← decodePart? (value.getD []))

/-- The fields of a form, those with blank values included. -/
def decode? (form : Text) : Option (List (Text × Text)) :=
  ((form.splitOn (CodePoint.ofChar '&')).filter fun field => !field.isEmpty).mapM decodeField?

/-! ## One encoded byte -/

/-- The text of one byte in a query. -/
inductive EncodesByte : UInt8 → Text → Prop where
  | unreserved {byte : UInt8}
      (isAscii : byte.toNat < 0x80)
      (isUnreserved : Percent.isUnreserved (CodePoint.ofNat byte.toNat) = true) :
      EncodesByte byte [CodePoint.ofNat byte.toNat]
  | space {byte : UInt8} (isSpace : byte.toNat = 0x20) : EncodesByte byte [plus]
  | escape {byte : UInt8}
      (needed : Percent.isUnreserved (CodePoint.ofNat byte.toNat) = false) :
      EncodesByte byte (Percent.escape byte)

theorem mem_escape {byte : UInt8} {point : CodePoint} (member : point ∈ Percent.escape byte) :
    point = Percent.sign ∨ Percent.isUnreserved point = true := by
  obtain ⟨isHigh, isLow, _⟩ := Percent.byte_digits byte
  rcases List.mem_cons.mp member with rfl | isDigit
  · exact .inl rfl
  · rcases List.mem_cons.mp isDigit with rfl | isLast
    · exact .inr (Percent.upperDigit_isUnreserved isHigh)
    · rw [List.mem_singleton.mp isLast]
      exact .inr (Percent.upperDigit_isUnreserved isLow)

/-- An escape holds no other mark than its sign, so replacing another one changes nothing. -/
theorem map_escape
    (byte : UInt8)
    {mark : CodePoint}
    (notSign : mark ≠ Percent.sign)
    (isReserved : Percent.isUnreserved mark = false)
    (other : CodePoint) :
    (Percent.escape byte).map (fun point => if point = mark then other else point) =
      Percent.escape byte := by
  refine (List.map_congr_left fun point member => if_neg ?_).trans (List.map_id _)
  rintro rfl
  rcases mem_escape member with isSign | isUnreserved
  · exact notSign isSign
  · rw [isReserved] at isUnreserved
    cases isUnreserved

/-- A point of an encoded part: an unreserved one, a plus sign or the sign of an escape. -/
def isPartPoint (point : CodePoint) : Bool :=
  Percent.isUnreserved point || point.isOneOf "+%"

namespace EncodesByte

variable {byte : UInt8} {written : Text}

theorem isPartPoint (encodes : EncodesByte byte written) :
    ∀ point ∈ written, Query.isPartPoint point = true := by
  cases encodes with
  | unreserved _ isUnreserved =>
      intro point member
      rw [List.mem_singleton.mp member, Query.isPartPoint, isUnreserved]
      rfl
  | space _ =>
      intro point member
      rw [List.mem_singleton.mp member]
      decide
  | escape _ =>
      intro point member
      rcases mem_escape member with rfl | isUnreserved
      · decide
      · rw [Query.isPartPoint, isUnreserved]
        rfl

theorem isUsual (encodes : EncodesByte byte written) {rest : Text}
    (restUsual : Percent.IsUsual rest) :
    Percent.IsUsual (written ++ rest) := by
  cases encodes with
  | unreserved _ isUnreserved =>
      exact .point (by rw [Percent.isAddressPoint, isUnreserved]; rfl) restUsual
  | space _ =>
      exact .point (by decide) restUsual
  | escape needed =>
      exact .escape needed restUsual

/-- A form reads the byte back. -/
theorem bytesOf_spaced (encodes : EncodesByte byte written) (rest : Text) :
    Percent.bytesOf (spaced (written ++ rest)) = byte :: Percent.bytesOf (spaced rest) := by
  rw [spaced, List.map_append]
  cases encodes with
  | unreserved isAscii isUnreserved =>
      have notPlus : CodePoint.ofNat byte.toNat ≠ plus := by
        intro isPlus
        rw [isPlus] at isUnreserved
        exact absurd isUnreserved (by decide)
      have notSign : CodePoint.ofNat byte.toNat ≠ Percent.sign :=
        Percent.ne_sign_of_isAddressPoint (by rw [Percent.isAddressPoint, isUnreserved]; rfl)
      have value : (CodePoint.ofNat byte.toNat).value = byte.toNat :=
        CodePoint.value_ofNat_of_lt (by omega)
      rw [List.map_singleton, if_neg notPlus, List.singleton_append,
        Percent.bytesOf_cons_of_ne_sign notSign, CodePoint.utf8, value, if_pos isAscii,
        UInt8.ofNat_toNat]
      rfl
  | space isSpace =>
      have same : byte = 0x20 := UInt8.toNat_inj.mp isSpace
      rw [same, List.map_singleton, if_pos rfl, List.singleton_append,
        Percent.bytesOf_cons_of_ne_sign (by decide)]
      rfl
  | escape _ =>
      rw [map_escape byte (by decide) (by decide), Percent.bytesOf_escape_append]
      rfl

end EncodesByte

/-- Bytes are encoded one after the other. -/
theorem encode_cons (byte : UInt8) (rest : Bytes) :
    ∃ written, EncodesByte byte written ∧ encode (byte :: rest) = written ++ encode rest := by
  let accepts (point : CodePoint) : Bool := Percent.isUnreserved point || point = space
  let closed (point : CodePoint) : CodePoint :=
    if point = space then CodePoint.ofChar '+' else point
  have split :
      encode (byte :: rest) = (Percent.encodeByte accepts byte).map closed ++ encode rest := by
    rw [encode, Percent.encode, List.flatMap_cons, List.map_append]
    rfl
  refine ⟨_, ?_, split⟩
  have value :
      (CodePoint.ofNat byte.toNat).value = byte.toNat :=
    CodePoint.value_ofNat_of_lt (Nat.lt_trans byte.toNat_lt (by decide))
  unfold Percent.encodeByte
  by_cases isAccepted :
      (decide (byte.toNat < 0x80) && accepts (CodePoint.ofNat byte.toNat)) = true
  · simp only [isAccepted, if_true, List.map_singleton]
    obtain ⟨isAscii, accepted⟩ := Bool.and_eq_true_iff.mp isAccepted
    by_cases isSpace : CodePoint.ofNat byte.toNat = space
    · simp only [closed, if_pos isSpace]
      rw [isSpace] at value
      exact .space value.symm
    · simp only [closed, if_neg isSpace]
      refine .unreserved (of_decide_eq_true isAscii) ?_
      simpa only [accepts, decide_eq_false isSpace, Bool.or_false] using accepted
  · have needed : Percent.isUnreserved (CodePoint.ofNat byte.toNat) = false := by
      refine Bool.eq_false_iff.mpr fun isUnreserved => isAccepted ?_
      have isAscii : byte.toNat < 0x80 := value ▸ Percent.isUnreserved_value_lt isUnreserved
      simp only [accepts, isUnreserved, decide_eq_true isAscii, Bool.true_or, Bool.and_self]
    have unchanged : (Percent.escape byte).map closed = Percent.escape byte :=
      map_escape byte (by decide) (by decide) _
    simp only [isAccepted, Bool.false_eq_true, if_false, unchanged]
    exact .escape needed

/-! ## Encoded parts -/

theorem isPartPoint_encode (bytes : Bytes) :
    ∀ point ∈ encode bytes, isPartPoint point = true := by
  induction bytes with
  | nil =>
      exact fun point member => nomatch member
  | cons byte rest inductionHypothesis =>
      obtain ⟨written, encodes, split⟩ := encode_cons byte rest
      rw [split]
      intro point member
      rcases List.mem_append.mp member with isWritten | isRest
      · exact encodes.isPartPoint point isWritten
      · exact inductionHypothesis point isRest

theorem isUsual_encode (bytes : Bytes) : Percent.IsUsual (encode bytes) := by
  induction bytes with
  | nil =>
      exact .nil
  | cons byte rest inductionHypothesis =>
      obtain ⟨written, encodes, split⟩ := encode_cons byte rest
      rw [split]
      exact encodes.isUsual inductionHypothesis

theorem bytesOf_spaced_encode (bytes : Bytes) :
    Percent.bytesOf (spaced (encode bytes)) = bytes := by
  induction bytes with
  | nil =>
      rfl
  | cons byte rest inductionHypothesis =>
      obtain ⟨written, encodes, split⟩ := encode_cons byte rest
      rw [split, encodes.bytesOf_spaced, inductionHypothesis]

theorem notMem_encode
    {mark : CodePoint}
    (isOther : isPartPoint mark = false)
    (bytes : Bytes) :
    mark ∉ encode bytes := by
  intro member
  rw [isPartPoint_encode bytes mark member] at isOther
  cases isOther

/-- A text of scalar values is read back from its encoded form. -/
theorem decodePart?_encode {content : Text} (isScalar : content.IsScalar) :
    decodePart? (encode (content.flatMap CodePoint.utf8)) = some content := by
  rw [decodePart?, bytesOf_spaced_encode]
  exact Text.ofUtf8?_flatMap_utf8 false isScalar

/-! ## Fields -/

/-- A textual parameter as it is written in a query. -/
def field (name value : Text) : Text :=
  encode (name.flatMap CodePoint.utf8) ++ ("=" : Text) ++ encode (value.flatMap CodePoint.utf8)

theorem isUsual_field (name value : Text) : Percent.IsUsual (field name value) :=
  ((isUsual_encode _).append (.point (by decide) .nil)).append (isUsual_encode _)

theorem field_ne_nil (name value : Text) : field name value ≠ [] := by
  intro isEmpty
  have noMark := (List.append_eq_nil_iff.mp isEmpty).1
  exact absurd (List.append_eq_nil_iff.mp noMark).2 (by decide)

theorem notMem_field (name value : Text) : CodePoint.ofChar '&' ∉ field name value := by
  intro member
  rcases List.mem_append.mp member with isFront | isValue
  · rcases List.mem_append.mp isFront with isName | isMark
    · exact notMem_encode (by decide) _ isName
    · exact absurd isMark (by decide)
  · exact notMem_encode (by decide) _ isValue

theorem decodeField?_field
    {name value : Text}
    (nameScalar : name.IsScalar)
    (valueScalar : value.IsScalar) :
    decodeField? (field name value) = some (name, value) := by
  have split :
      (field name value).splitAtFirst (CodePoint.ofChar '=') =
        (encode (name.flatMap CodePoint.utf8), some (encode (value.flatMap CodePoint.utf8))) := by
    rw [field, List.append_assoc]
    exact Text.splitAtFirst_append (notMem_encode (by decide) _) _
  rw [decodeField?, split]
  simp only [Option.getD_some, decodePart?_encode nameScalar, decodePart?_encode valueScalar]
  rfl

theorem parts_text
    {name value : Text}
    (nameScalar : name.IsScalar)
    (valueScalar : value.IsScalar) :
    parts (.text name) (.text value) = .ok [field name value] := by
  have nameBytes : bytesOf (.text name) = .ok (name.flatMap CodePoint.utf8) := by
    rw [bytesOf, Value.shown, Text.utf8?_of_isScalar nameScalar]
    intro content isBytes
    cases isBytes
  have valueBytes : bytesOf (.text value) = .ok (value.flatMap CodePoint.utf8) := by
    rw [bytesOf, Value.shown, Text.utf8?_of_isScalar valueScalar]
    intro content isBytes
    cases isBytes
  have present :
      ((valuesOf (.text value)).filter fun value => !value.isNull).flatMap valuesOf =
        [.text value] :=
    rfl
  rw [parts]
  simp only [present, List.isEmpty_cons, Bool.false_eq_true, if_false, nameBytes, List.mapM_cons,
    List.mapM_nil, valueBytes, ok_bind]
  rfl

/-! ## Whole queries -/

/-- A form of fields without values of other types. -/
def ofFields (fields : List (Text × Text)) : Text :=
  Text.joined "&" (fields.map fun entry => field entry.1 entry.2)

/-- All names and values of a form are texts of scalar values. -/
def AreScalar (fields : List (Text × Text)) : Prop :=
  ∀ entry ∈ fields, entry.1.IsScalar ∧ entry.2.IsScalar

theorem ofEntries_texts {fields : List (Text × Text)} (areScalar : AreScalar fields) :
    ofEntries (fields.map fun entry => (.text entry.1, .text entry.2)) = .ok (ofFields fields) := by
  have eachPart :
      (fields.map fun entry => (Value.text entry.1, Value.text entry.2)).mapM
          (fun entry => parts entry.1 entry.2) =
        .ok (fields.map fun entry => [field entry.1 entry.2]) := by
    induction fields with
    | nil =>
        rfl
    | cons entry rest inductionHypothesis =>
        obtain ⟨nameScalar, valueScalar⟩ := areScalar entry List.mem_cons_self
        rw [List.map_cons, List.mapM_cons, parts_text nameScalar valueScalar, ok_bind,
          inductionHypothesis fun other member =>
            areScalar other (List.mem_cons_of_mem entry member)]
        rfl
  have flat :
      (fields.map fun entry => [field entry.1 entry.2]).flatten =
        fields.map fun entry => field entry.1 entry.2 := by
    rw [← List.flatMap_def, List.map_eq_flatMap]
  rw [ofEntries, eachPart, ok_bind, flat]
  rfl

theorem isUsual_joined {parts : List Text} (areUsual : ∀ part ∈ parts, Percent.IsUsual part) :
    Percent.IsUsual (Text.joined "&" parts) := by
  match parts with
  | [] =>
      exact .nil
  | [only] =>
      exact areUsual only List.mem_cons_self
  | first :: second :: others =>
      have inductionHypothesis : Percent.IsUsual (Text.joined "&" (second :: others)) :=
        isUsual_joined fun part member => areUsual part (List.mem_cons_of_mem first member)
      exact ((areUsual first List.mem_cons_self).append (.point (by decide) .nil)).append
        inductionHypothesis

theorem isUsual_ofFields (fields : List (Text × Text)) : Percent.IsUsual (ofFields fields) := by
  refine isUsual_joined fun part member => ?_
  obtain ⟨entry, _, rfl⟩ := List.mem_map.mp member
  exact isUsual_field entry.1 entry.2

/-- A form gives back exactly the fields of which a query was made. -/
theorem decode?_ofFields
    {fields : List (Text × Text)}
    (someFields : fields ≠ [])
    (areScalar : AreScalar fields) :
    decode? (ofFields fields) = some fields := by
  have split :
      (ofFields fields).splitOn (CodePoint.ofChar '&') =
        fields.map fun entry => field entry.1 entry.2 := by
    refine Text.splitOn_joined (fun isEmpty => someFields (List.map_eq_nil_iff.mp isEmpty)) ?_
    intro part member
    obtain ⟨entry, _, rfl⟩ := List.mem_map.mp member
    exact notMem_field entry.1 entry.2
  have kept :
      ((fields.map fun entry => field entry.1 entry.2).filter fun part => !part.isEmpty) =
        fields.map fun entry => field entry.1 entry.2 := by
    refine List.filter_eq_self.mpr fun part member => ?_
    obtain ⟨entry, _, rfl⟩ := List.mem_map.mp member
    rw [List.isEmpty_eq_false_iff.mpr (field_ne_nil entry.1 entry.2)]
    rfl
  rw [decode?, split, kept]
  clear split kept someFields
  induction fields with
  | nil =>
      rfl
  | cons entry rest inductionHypothesis =>
      obtain ⟨nameScalar, valueScalar⟩ := areScalar entry List.mem_cons_self
      rw [List.map_cons, List.mapM_cons, decodeField?_field nameScalar valueScalar,
        inductionHypothesis fun other member => areScalar other (List.mem_cons_of_mem entry member)]
      rfl

end Query

end SessionHandshake
