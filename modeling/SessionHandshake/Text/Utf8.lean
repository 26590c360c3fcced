import SessionHandshake.Text.Basic

namespace SessionHandshake

/-!
# UTF-8

`Text.utf8?` writes a text as bytes and refuses a surrogate.  `Text.ofUtf8?`
reads bytes in the shortest-form encoding only; whether the three bytes that
would encode a surrogate are read as one is the caller's choice.
-/

/-- A byte that continues a sequence: its two top bits are `10`. -/
def isContinuation (byte : UInt8) : Bool :=
  0x80 ≤ byte.toNat && byte.toNat ≤ 0xbf

/-- The six low bits of a continuation byte. -/
def continuationBits (byte : UInt8) : Nat :=
  byte.toNat - 0x80

namespace CodePoint

/-- The UTF-8 bytes of a code point, surrogates written like any other. -/
def utf8 (point : CodePoint) : Bytes :=
  let number := point.value
  if number < 0x80 then
    [UInt8.ofNat number]
  else if number < 0x800 then
    [UInt8.ofNat (0xc0 + number / 64),
      UInt8.ofNat (0x80 + number % 64)]
  else if number < 0x10000 then
    [UInt8.ofNat (0xe0 + number / 4096),
      UInt8.ofNat (0x80 + number / 64 % 64),
      UInt8.ofNat (0x80 + number % 64)]
  else
    [UInt8.ofNat (0xf0 + number / 262144),
      UInt8.ofNat (0x80 + number / 4096 % 64),
      UInt8.ofNat (0x80 + number / 64 % 64),
      UInt8.ofNat (0x80 + number % 64)]

end CodePoint

/-- The number that a sequence of two bytes encodes. -/
def twoByteNumber (first second : UInt8) : Nat :=
  (first.toNat - 0xc0) * 64 + continuationBits second

/-- The number that a sequence of three bytes encodes. -/
def threeByteNumber (first second third : UInt8) : Nat :=
  (first.toNat - 0xe0) * 4096 + continuationBits second * 64 + continuationBits third

/-- The number that a sequence of four bytes encodes. -/
def fourByteNumber (first second third fourth : UInt8) : Nat :=
  (first.toNat - 0xf0) * 262144 + continuationBits second * 4096 +
    continuationBits third * 64 + continuationBits fourth

namespace Text

/-- The UTF-8 bytes of a text, unless it holds a surrogate. -/
def utf8? (text : Text) : Option Bytes :=
  if text.any CodePoint.isSurrogate then
    none
  else
    some (text.flatMap CodePoint.utf8)

/--
The text that UTF-8 bytes encode.

Overlong forms, numbers past the code space and truncated sequences are
refused.  Surrogates are read only when they are let through.
-/
def ofUtf8? (letsSurrogates : Bool) : Bytes → Option Text
  | [] =>
      some []
  | first :: rest =>
      if first.toNat < 0x80 then
        (ofUtf8? letsSurrogates rest).map (CodePoint.ofNat first.toNat :: ·)
      else
        match rest with
        | [] =>
            none
        | second :: rest =>
            if !isContinuation second then
              none
            else if 0xc2 ≤ first.toNat ∧ first.toNat ≤ 0xdf then
              (ofUtf8? letsSurrogates rest).map
                (CodePoint.ofNat (twoByteNumber first second) :: ·)
            else
              match rest with
              | [] =>
                  none
              | third :: rest =>
                  if !isContinuation third then
                    none
                  else if 0xe0 ≤ first.toNat ∧ first.toNat ≤ 0xef then
                    let point := CodePoint.ofNat (threeByteNumber first second third)
                    if point.value < 0x800 || (point.isSurrogate && !letsSurrogates) then
                      none
                    else
                      (ofUtf8? letsSurrogates rest).map (point :: ·)
                  else
                    match rest with
                    | [] =>
                        none
                    | fourth :: rest =>
                        let number := fourByteNumber first second third fourth
                        if isContinuation fourth ∧ 0xf0 ≤ first.toNat ∧
                            first.toNat ≤ 0xf4 ∧ 0x10000 ≤ number ∧ number < 0x110000 then
                          (ofUtf8? letsSurrogates rest).map (CodePoint.ofNat number :: ·)
                        else
                          none

end Text

end SessionHandshake
