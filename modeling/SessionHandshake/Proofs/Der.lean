import SessionHandshake.Proofs.Bytes

namespace SessionHandshake

/-!
# Reading what was written in distinguished encoding

An element is read back from the bytes that were written for it, whatever comes
after them.  The same holds for sequences of elements, and for the numbers and
strings of bits inside them.
-/

/-- An element whose tag takes one byte and whose length can be written. -/
structure DerElement.IsPlain (element : DerElement) : Prop where
  number : element.tag.number < DerTag.firstLongNumber
  form : element.tag.form.toNat % 32 = 0
  length : element.content.length < 256 ^ 4

namespace Der

theorem readTag?_writeTag
    {tag : DerTag}
    (number : tag.number < DerTag.firstLongNumber)
    (form : tag.form.toNat % 32 = 0)
    (rest : Bytes) :
    readTag? (writeTag tag ++ rest) = some (tag, rest) := by
  have isShort : tag.number < 31 := number
  have isByte := tag.form.toNat_lt
  have joint : (tag.form + UInt8.ofNat tag.number).toNat = tag.form.toNat + tag.number := by
    rw [UInt8.toNat_add, UInt8.toNat_ofNat']
    omega
  have lower : (tag.form.toNat + tag.number) % 32 = tag.number := by
    omega
  rw [writeTag, if_pos number, List.singleton_append, readTag?]
  simp only [joint, lower, if_pos number, Nat.add_sub_cancel, UInt8.ofNat_toNat]

theorem readLength?_writeLength
    {length : Nat}
    (fits : length < 256 ^ 4)
    (rest : Bytes) :
    readLength? (writeLength length ++ rest) = some (length, rest) := by
  by_cases isShort : length < 0x80
  · have same : (UInt8.ofNat length).toNat = length := by
      rw [UInt8.toNat_ofNat']
      omega
    rw [writeLength, if_pos isShort, List.singleton_append, readLength?]
    simp only [same, if_pos isShort]
  · have atMostFour := significantBytes_length_le fits
    obtain ⟨first, others, split, notZero⟩ := significantBytes_head (show length ≠ 0 by omega)
    have positive : 0 < (significantBytes length).length := by
      rw [split]
      exact Nat.succ_pos _
    have marked :
        (UInt8.ofNat (0x80 + (significantBytes length).length)).toNat =
          0x80 + (significantBytes length).length := by
      rw [UInt8.toNat_ofNat']
      omega
    have head : (significantBytes length).head? ≠ some 0 := by
      rw [split]
      intro isZero
      exact notZero (Option.some.inj isZero)
    have taken :
        (significantBytes length ++ rest).take (significantBytes length).length =
          significantBytes length :=
      List.take_left
    have dropped :
        (significantBytes length ++ rest).drop (significantBytes length).length = rest :=
      List.drop_left
    rw [writeLength, if_neg isShort]
    simp only [List.cons_append, readLength?, marked, Nat.add_sub_cancel_left, taken, dropped,
      numberOf_significantBytes]
    rw [if_neg (by omega), if_neg]
    rintro (isEmpty | tooMany | missing | isZero | isSmall)
    · omega
    · omega
    · omega
    · exact head isZero
    · exact isShort isSmall

/-- An element is read back, whatever comes after it. -/
theorem readElement?_encoded
    {element : DerElement}
    (isPlain : element.IsPlain)
    (rest : Bytes) :
    readElement? (element.encoded ++ rest) = some (element, rest) := by
  rw [DerElement.encoded, writeElement, List.append_assoc, List.append_assoc, readElement?,
    readTag?_writeTag isPlain.number isPlain.form]
  simp only [readLength?_writeLength isPlain.length]
  rw [if_neg (by rw [List.length_append]; omega), List.take_left, List.drop_left]

theorem element?_encoded {element : DerElement} (isPlain : element.IsPlain) :
    element? element.encoded = some element := by
  have read := readElement?_encoded isPlain []
  rw [List.append_nil] at read
  rw [element?, read]

theorem encoded_ne_nil (element : DerElement) : element.encoded ≠ [] := by
  rw [DerElement.encoded, writeElement, writeTag]
  split <;> simp

theorem length_le_flatten (elements : List DerElement) :
    elements.length ≤ (elements.map DerElement.encoded).flatten.length := by
  induction elements with
  | nil =>
      exact Nat.le_refl 0
  | cons first rest inductionHypothesis =>
      have notEmpty := List.length_pos_iff.mpr (encoded_ne_nil first)
      rw [List.map_cons, List.flatten_cons, List.length_append, List.length_cons]
      omega

theorem readElements?_flatten
    {elements : List DerElement}
    (arePlain : ∀ element ∈ elements, element.IsPlain)
    {fuel : Nat}
    (enough : elements.length ≤ fuel) :
    readElements? fuel (elements.map DerElement.encoded).flatten = some elements := by
  induction elements generalizing fuel with
  | nil =>
      cases fuel <;> rfl
  | cons first rest inductionHypothesis =>
      cases fuel with
      | zero =>
          cases enough
      | succ fuel =>
          have read :=
            readElement?_encoded (arePlain first List.mem_cons_self)
              (rest.map DerElement.encoded).flatten
          have others :=
            inductionHypothesis
              (fun element member => arePlain element (List.mem_cons_of_mem first member))
              (Nat.le_of_succ_le_succ enough)
          obtain ⟨byte, more, split⟩ :=
            List.exists_cons_of_ne_nil
              (List.append_ne_nil_of_left_ne_nil (encoded_ne_nil first)
                (rest.map DerElement.encoded).flatten)
          rw [split] at read
          rw [List.map_cons, List.flatten_cons, split, readElements?, read]
          · simp only [others, Option.map_some]
          · exact List.cons_ne_nil byte more

/-- The element that a sequence of elements is written as. -/
def sequenceElement (elements : List DerElement) : DerElement where
  tag := DerTag.sequence
  content := (elements.map DerElement.encoded).flatten

/-- A sequence of elements is read back. -/
theorem members?_sequenceElement
    {elements : List DerElement}
    (arePlain : ∀ element ∈ elements, element.IsPlain) :
    (sequenceElement elements).members? = some elements := by
  have isSequence : (sequenceElement elements).tag = DerTag.sequence := rfl
  rw [DerElement.members?, if_pos isSequence, elements?]
  exact readElements?_flatten arePlain (length_le_flatten elements)

/-! ## Lengths -/

theorem writeLength_length_le {length : Nat} (fits : length < 256 ^ 4) :
    (writeLength length).length ≤ 5 := by
  have digits := significantBytes_length_le fits
  unfold writeLength
  split
  · exact Nat.le_add_left 1 4
  · exact Nat.succ_le_succ digits

/-- Tag and length take at most six bytes. -/
theorem encoded_length_le {element : DerElement} (isPlain : element.IsPlain) :
    element.encoded.length ≤ element.content.length + 6 := by
  have length := writeLength_length_le isPlain.length
  rw [DerElement.encoded, writeElement, writeTag, if_pos isPlain.number, List.length_append,
    List.length_append, List.length_singleton]
  omega

/-- Short elements make a short sequence. -/
theorem sequenceElement_length_le
    {bound : Nat}
    {elements : List DerElement}
    (arePlain : ∀ element ∈ elements, element.IsPlain)
    (areShort : ∀ element ∈ elements, element.content.length ≤ bound) :
    (sequenceElement elements).content.length ≤ elements.length * (bound + 6) := by
  induction elements with
  | nil =>
      exact Nat.zero_le _
  | cons first rest inductionHypothesis =>
      rw [List.forall_mem_cons] at arePlain areShort
      obtain ⟨firstPlain, restPlain⟩ := arePlain
      obtain ⟨firstShort, restShort⟩ := areShort
      have others := inductionHypothesis restPlain restShort
      have firstLength := encoded_length_le firstPlain
      have split :
          (sequenceElement (first :: rest)).content =
            first.encoded ++ (sequenceElement rest).content := by
        simp [sequenceElement]
      rw [split, List.length_append, List.length_cons, Nat.succ_mul]
      omega

theorem sequenceElement_isPlain
    {elements : List DerElement}
    (fits : (sequenceElement elements).content.length < 256 ^ 4) :
    (sequenceElement elements).IsPlain where
  number := by
    show 16 < 31
    decide
  form := by
    show DerTag.sequence.form.toNat % 32 = 0
    decide
  length := fits

/-! ## Numbers and strings -/

/-- The element that a number is written as. -/
def naturalElement (number : Nat) : DerElement where
  tag := DerTag.integer
  content :=
    if 0x80 ≤ ((significantBytes number).headD 0).toNat then
      0 :: significantBytes number
    else
      significantBytes number

theorem naturalElement_length_le
    {count number : Nat}
    (fits : number < 256 ^ (count + 1)) :
    (naturalElement number).content.length ≤ count + 2 := by
  have short := significantBytes_length_le fits
  rw [naturalElement]
  simp only
  split
  · rw [List.length_cons]
    omega
  · omega

/-- A number is read back. -/
theorem natural?_naturalElement (number : Nat) :
    (naturalElement number).natural? = some number := by
  have written := numberOf_significantBytes number
  by_cases isHigh : 0x80 ≤ ((significantBytes number).headD 0).toNat
  · rw [naturalElement, if_pos isHigh, DerElement.natural?, if_neg fun differs => differs rfl]
    simp only
    rw [if_neg (by decide), if_neg, Hash.numberOf_zero_cons, written]
    rintro ⟨_, _, isLow⟩
    exact absurd isHigh (Nat.not_le.mpr isLow)
  · obtain ⟨first, rest, split⟩ :=
      List.exists_cons_of_ne_nil (significantBytes_ne_nil number)
    rw [naturalElement, if_neg isHigh, DerElement.natural?, if_neg fun differs => differs rfl]
    rw [split] at isHigh written ⊢
    simp only [List.headD_cons] at isHigh ⊢
    rw [if_neg isHigh, if_neg, written]
    rintro ⟨rfl, notEmpty, _⟩
    by_cases isZero : number = 0
    · rw [isZero, significantBytes_of_lt (by decide)] at split
      cases split
      exact notEmpty rfl
    · obtain ⟨other, others, splitToo, notZero⟩ := significantBytes_head isZero
      cases split.symm.trans splitToo
      exact notZero rfl

theorem mapM_natural?_naturalElement (numbers : List Nat) :
    (numbers.map naturalElement).mapM DerElement.natural? = some numbers := by
  induction numbers with
  | nil =>
      rfl
  | cons first rest inductionHypothesis =>
      rw [List.map_cons, List.mapM_cons, natural?_naturalElement, inductionHypothesis]
      rfl

/-- The element that a string of bytes is written as. -/
def bytesElement (bytes : Bytes) : DerElement where
  tag := DerTag.byteString
  content := bytes

theorem bytesElement_isPlain {bytes : Bytes} (fits : bytes.length < 256 ^ 4) :
    (bytesElement bytes).IsPlain where
  number := by
    show 4 < 31
    decide
  form := rfl
  length := fits

/-- The element that a string of bits is written as. -/
def bitsElement (bytes : Bytes) : DerElement where
  tag := DerTag.bitString
  content := 0 :: bytes

theorem bitsElement_isPlain {bytes : Bytes} (fits : bytes.length + 1 < 256 ^ 4) :
    (bitsElement bytes).IsPlain where
  number := by
    show 3 < 31
    decide
  form := rfl
  length := fits

/-- A string of bits is read back. -/
theorem wholeBits?_bitsElement (bytes : Bytes) :
    (bitsElement bytes).wholeBits? = some bytes := by
  have isWhole : (bitsElement bytes).content.head? = some 0 := rfl
  rw [DerElement.wholeBits?, if_pos isWhole, DerElement.bits?, if_neg fun differs => differs rfl]
  simp only [bitsElement]
  rw [if_neg (by decide)]
  split
  · next isEmpty =>
      rw [isEmpty]
      rfl
  · rw [if_neg]
    intro unused
    exact unused (Nat.mod_one _)

end Der

end SessionHandshake
