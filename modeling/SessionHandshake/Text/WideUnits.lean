import SessionHandshake.Text.Utf8

namespace SessionHandshake

/-!
# UTF-16, UTF-32 and the choice between encodings

An answer may come in any of the Unicode encodings.  `Encoding.detect` picks
one from a byte-order mark or from the place of the zero bytes, and
`Text.ofEncoded?` reads the bytes accordingly.  Surrogates that belong to no
pair are kept.
-/

/-- The order of the bytes of one unit. -/
inductive ByteOrder where
  | bigEndian
  | littleEndian
  deriving DecidableEq

/-- The encoding of a sequence of bytes, and how many bytes its mark takes. -/
inductive Encoding where
  | utf8 (mark : Nat)
  | utf16 (order : ByteOrder) (mark : Nat)
  | utf32 (order : ByteOrder) (mark : Nat)
  deriving DecidableEq

/-- The number that two bytes write. -/
def ByteOrder.pair (order : ByteOrder) (first second : UInt8) : Nat :=
  match order with
  | .bigEndian =>
      first.toNat * 256 + second.toNat
  | .littleEndian =>
      second.toNat * 256 + first.toNat

/-- The number that four bytes write. -/
def ByteOrder.quad (order : ByteOrder) (first second third fourth : UInt8) : Nat :=
  match order with
  | .bigEndian =>
      order.pair first second * 65536 + order.pair third fourth
  | .littleEndian =>
      order.pair third fourth * 65536 + order.pair first second

/-- The 16-bit units of bytes, if their number is even. -/
def units16? (order : ByteOrder) : Bytes → Option (List Nat)
  | [] =>
      some []
  | [_] =>
      none
  | first :: second :: rest =>
      (units16? order rest).map (order.pair first second :: ·)

/-- The 32-bit units of bytes, if their number is a multiple of four. -/
def units32? (order : ByteOrder) : Bytes → Option (List Nat)
  | [] =>
      some []
  | first :: second :: third :: fourth :: rest =>
      (units32? order rest).map (order.quad first second third fourth :: ·)
  | _ =>
      none

/-- A unit that opens a surrogate pair. -/
def isHighSurrogate (unit : Nat) : Bool :=
  0xd800 ≤ unit && unit ≤ 0xdbff

/-- A unit that closes a surrogate pair. -/
def isLowSurrogate (unit : Nat) : Bool :=
  0xdc00 ≤ unit && unit ≤ 0xdfff

/-- The number that a surrogate pair stands for. -/
def pairedSurrogates (high low : Nat) : Nat :=
  0x10000 + (high - 0xd800) * 1024 + (low - 0xdc00)

namespace Text

/-- The text of 16-bit units: pairs are joined and lone surrogates kept. -/
def ofUnits16 : List Nat → Text
  | [] =>
      []
  | [unit] =>
      [CodePoint.ofNat unit]
  | high :: low :: rest =>
      if isHighSurrogate high && isLowSurrogate low then
        CodePoint.ofNat (pairedSurrogates high low) :: ofUnits16 rest
      else
        CodePoint.ofNat high :: ofUnits16 (low :: rest)

end Text

namespace Encoding

/-- The encoding that the first bytes without a mark suggest. -/
def detectUnmarked : Bytes → Encoding
  | first :: second :: third :: fourth :: _ =>
      if first = 0 then
        if second = 0 then
          .utf32 .bigEndian 0
        else
          .utf16 .bigEndian 0
      else if second = 0 then
        if third = 0 ∧ fourth = 0 then
          .utf32 .littleEndian 0
        else
          .utf16 .littleEndian 0
      else
        .utf8 0
  | [first, second] =>
      if first = 0 then
        .utf16 .bigEndian 0
      else if second = 0 then
        .utf16 .littleEndian 0
      else
        .utf8 0
  | _ =>
      .utf8 0

/-- The encoding of a body: by its byte-order mark, else by its zero bytes. -/
def detect (bytes : Bytes) : Encoding :=
  if [0x00, 0x00, 0xfe, 0xff].isPrefixOf bytes then
    .utf32 .bigEndian 4
  else if [0xff, 0xfe, 0x00, 0x00].isPrefixOf bytes then
    .utf32 .littleEndian 4
  else if [0xfe, 0xff].isPrefixOf bytes then
    .utf16 .bigEndian 2
  else if [0xff, 0xfe].isPrefixOf bytes then
    .utf16 .littleEndian 2
  else if [0xef, 0xbb, 0xbf].isPrefixOf bytes then
    .utf8 3
  else
    detectUnmarked bytes

end Encoding

namespace Text

/-- The text of bytes in a given encoding, its mark left out. -/
def ofEncoded? (encoding : Encoding) (bytes : Bytes) : Option Text :=
  match encoding with
  | .utf8 mark =>
      ofUtf8? true (bytes.drop mark)
  | .utf16 order mark =>
      (units16? order (bytes.drop mark)).map ofUnits16
  | .utf32 order mark =>
      (units32? order (bytes.drop mark)).bind (·.mapM CodePoint.ofNat?)

end Text

end SessionHandshake
