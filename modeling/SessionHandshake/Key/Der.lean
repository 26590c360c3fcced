import SessionHandshake.Key.ObjectIdentifier

namespace SessionHandshake

/-!
# Distinguished encoding

Keys travel as nested elements of tag, length and content.  The encoding is the
distinguished one: tags, lengths and integers take the fewest bytes, sets are
sorted, and nothing may follow the last element.  So an element has one encoding
only, and equal elements have equal bytes.
-/

/-- The tag of an element: its class and form, which high bits hold, and its number. -/
structure DerTag where
  form : UInt8
  number : Nat
  deriving DecidableEq

namespace DerTag

/-- The tag of an integer. -/
def integer : DerTag := ⟨0x00, 2⟩

/-- The tag of a string of bits. -/
def bitString : DerTag := ⟨0x00, 3⟩

/-- The tag of a string of bytes. -/
def byteString : DerTag := ⟨0x00, 4⟩

/-- The tag of the empty value. -/
def null : DerTag := ⟨0x00, 5⟩

/-- The tag of an object identifier. -/
def identifier : DerTag := ⟨0x00, 6⟩

/-- The tag of a sequence of elements. -/
def sequence : DerTag := ⟨0x20, 16⟩

/-- The tag of a set of elements. -/
def set : DerTag := ⟨0x20, 17⟩

/-- The tag that stands in for another one at a numbered place. -/
def place (number : Nat) : DerTag := ⟨0x80, number⟩

/-- The tag of elements at a numbered place. -/
def enclosing (number : Nat) : DerTag := ⟨0xa0, number⟩

/-- The numbers from here on do not fit into one byte with the class and form. -/
def firstLongNumber : Nat := 31

end DerTag

/-- One element: its tag and its content. -/
structure DerElement where
  tag : DerTag
  content : Bytes
  deriving DecidableEq

namespace Der

/-! ## Reading -/

/-- A length at the front, in the shortest form only, and the bytes after it. -/
def readLength? : Bytes → Option (Nat × Bytes)
  | [] =>
      none
  | first :: rest =>
      if first.toNat < 0x80 then
        some (first.toNat, rest)
      else
        let count := first.toNat - 0x80
        let digits := rest.take count
        let length := Hash.numberOf digits
        if count = 0 ∨ 4 < count ∨ digits.length < count ∨ digits.head? = some 0 ∨
            length < 0x80 then
          none
        else
          some (length, rest.drop count)

/-- A tag at the front, in the shortest form only, and the bytes after it. -/
def readTag? : Bytes → Option (DerTag × Bytes)
  | [] =>
      none
  | first :: rest =>
      let number := first.toNat % 32
      let form := UInt8.ofNat (first.toNat - number)
      if number < DerTag.firstLongNumber then
        some (⟨form, number⟩, rest)
      else
        match Septets.read? rest with
        | none =>
            none
        | some (number, rest) =>
            if number < DerTag.firstLongNumber then
              none
            else
              some (⟨form, number⟩, rest)

/-- An element at the front, and the bytes after it. -/
def readElement? (bytes : Bytes) : Option (DerElement × Bytes) :=
  match readTag? bytes with
  | none =>
      none
  | some (tag, rest) =>
      match readLength? rest with
      | none =>
          none
      | some (length, rest) =>
          if rest.length < length then
            none
          else
            some (⟨tag, rest.take length⟩, rest.drop length)

/-- All elements of a content; each takes at least two of its bytes. -/
def readElements? : Nat → Bytes → Option (List DerElement)
  | _, [] =>
      some []
  | 0, _ :: _ =>
      none
  | fuel + 1, bytes =>
      match readElement? bytes with
      | none =>
          none
      | some (element, rest) =>
          (readElements? fuel rest).map (element :: ·)

/-- All elements of a content. -/
def elements? (content : Bytes) : Option (List DerElement) :=
  readElements? content.length content

/-- The element that bytes are, with nothing after it. -/
def element? (bytes : Bytes) : Option DerElement :=
  match readElement? bytes with
  | some (element, []) =>
      some element
  | _ =>
      none

/-! ## Writing -/

/-- The bytes of a number without leading zeros; zero is one byte. -/
def significantBytes (number : Nat) : Bytes :=
  (Text.digits 256 number).map UInt8.ofNat

/-- A length in the shortest form. -/
def writeLength (length : Nat) : Bytes :=
  if length < 0x80 then
    [UInt8.ofNat length]
  else
    let digits := significantBytes length
    UInt8.ofNat (0x80 + digits.length) :: digits

/-- A tag in the shortest form. -/
def writeTag (tag : DerTag) : Bytes :=
  if tag.number < DerTag.firstLongNumber then
    [tag.form + UInt8.ofNat tag.number]
  else
    (tag.form + UInt8.ofNat DerTag.firstLongNumber) :: Septets.write tag.number

/-- An element with a tag and a content. -/
def writeElement (tag : DerTag) (content : Bytes) : Bytes :=
  writeTag tag ++ writeLength content.length ++ content

/-- A number that is not negative: a zero byte in front keeps the sign bit clear. -/
def writeNatural (number : Nat) : Bytes :=
  let digits := significantBytes number
  let content := if 0x80 ≤ (digits.headD 0).toNat then 0 :: digits else digits
  writeElement DerTag.integer content

/-- A string of bytes. -/
def writeBytes (bytes : Bytes) : Bytes :=
  writeElement DerTag.byteString bytes

/-- A string of bits that fill whole bytes. -/
def writeBits (bytes : Bytes) : Bytes :=
  writeElement DerTag.bitString (0 :: bytes)

/-- An object identifier. -/
def writeIdentifier (identifier : ObjectIdentifier) : Bytes :=
  writeElement DerTag.identifier identifier.write

/-- The empty value. -/
def writeNull : Bytes :=
  writeElement DerTag.null []

/-- A sequence of written elements. -/
def writeSequence (elements : List Bytes) : Bytes :=
  writeElement DerTag.sequence elements.flatten

end Der

namespace DerElement

/-! ## What an element is -/

/-- The bytes of an element: its one encoding, from which it was read. -/
def encoded (element : DerElement) : Bytes :=
  Der.writeElement element.tag element.content

/-- The members of an element that is a sequence. -/
def members? (element : DerElement) : Option (List DerElement) :=
  if element.tag = DerTag.sequence then
    Der.elements? element.content
  else
    none

/-- Elements do not decrease in the order of their bytes. -/
def areSorted : List DerElement → Bool
  | first :: second :: rest =>
      decide (first.encoded ≤ second.encoded) && areSorted (second :: rest)
  | _ =>
      true

/-- The members of a content that is a set: they are sorted. -/
def ofSet? (content : Bytes) : Option (List DerElement) :=
  match Der.elements? content with
  | some members =>
      if areSorted members then
        some members
      else
        none
  | none =>
      none

/-- The one element that an element with a given tag encloses. -/
def enclosed? (tag : DerTag) (element : DerElement) : Option DerElement :=
  if element.tag = tag then
    Der.element? element.content
  else
    none

/-- The number of an integer element: not negative, and in the fewest bytes. -/
def natural? (element : DerElement) : Option Nat :=
  if element.tag ≠ DerTag.integer then
    none
  else
    match element.content with
    | [] =>
        none
    | first :: rest =>
        if 0x80 ≤ first.toNat then
          none
        else if first = 0 ∧ rest ≠ [] ∧ (rest.headD 0).toNat < 0x80 then
          none
        else
          some (Hash.numberOf element.content)

/-- An element is a number of at most so many bits. -/
def isNaturalOf (bits : Nat) (element : DerElement) : Bool :=
  match element.natural? with
  | some number =>
      number < Nat.pow 2 bits
  | none =>
      false

/-- The bytes of a string of bits, whose unused last bits must be zero. -/
def bits? (element : DerElement) : Option Bytes :=
  if element.tag ≠ DerTag.bitString then
    none
  else
    match element.content with
    | [] =>
        none
    | unused :: bytes =>
        if 7 < unused.toNat then
          none
        else if bytes = [] then
          if unused = 0 then some [] else none
        else if (bytes.getLastD 0).toNat % Nat.pow 2 unused.toNat ≠ 0 then
          none
        else
          some bytes

/-- The bytes of a string of bits that fill whole bytes. -/
def wholeBits? (element : DerElement) : Option Bytes :=
  if element.content.head? = some 0 then
    element.bits?
  else
    none

/-- The bytes of a string of bytes. -/
def bytes? (element : DerElement) : Option Bytes :=
  if element.tag = DerTag.byteString then
    some element.content
  else
    none

/-- The path of an object identifier. -/
def identifier? (element : DerElement) : Option ObjectIdentifier :=
  if element.tag = DerTag.identifier then
    ObjectIdentifier.read? element.content
  else
    none

/-- An element is the empty value. -/
def isNull (element : DerElement) : Bool :=
  element.tag = DerTag.null && element.content.isEmpty

end DerElement

end SessionHandshake
