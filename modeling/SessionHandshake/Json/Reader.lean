import SessionHandshake.Fault.Basic
import SessionHandshake.Text.Numeral
import SessionHandshake.Text.WideUnits

namespace SessionHandshake

/-!
# Reading JSON

The grammar is the usual one with three additions: `NaN`, `Infinity` and
`-Infinity` are numbers, an escaped surrogate without its partner is kept, and
of two members with one name the later value counts.  A number with a fraction
or an exponent is a double; any other number is a whole one and may have at
most 4300 digits.

Each reader takes the text that is left and gives back what it read together
with the rest.  Lists and objects may be nested only so deep, and one level too
many is met before anything that is wrong further on.  The bound on the number of
steps is twice the length of the text, so it never decides what is read.
-/

namespace Json

/-- What is left when one value has been read. -/
abbrev Read (Result : Type) := Option (Result × Text)

/-- White space between tokens. -/
def isBlank (point : CodePoint) : Bool :=
  point.value = 0x20 || point.value = 0x09 || point.value = 0x0a || point.value = 0x0d

/-- The text from its first token on. -/
def skipBlanks (text : Text) : Text :=
  text.dropWhile isBlank

/-- The value of four hexadecimal digits, and the text after them. -/
def readUnit : Text → Read Nat
  | first :: second :: third :: fourth :: rest =>
      match first.hexValue?, second.hexValue?, third.hexValue?, fourth.hexValue? with
      | some a, some b, some c, some d =>
          some (((a * 16 + b) * 16 + c) * 16 + d, rest)
      | _, _, _, _ =>
          none
  | _ =>
      none

/-- The text of an escape that is one letter, by that letter. -/
def simpleEscape? (letter : CodePoint) : Option CodePoint :=
  if letter.isOneOf "\"\\/" then
    some letter
  else if letter = CodePoint.ofChar 'b' then
    some (CodePoint.ofNat 0x08)
  else if letter = CodePoint.ofChar 'f' then
    some (CodePoint.ofNat 0x0c)
  else if letter = CodePoint.ofChar 'n' then
    some (CodePoint.ofNat 0x0a)
  else if letter = CodePoint.ofChar 'r' then
    some (CodePoint.ofNat 0x0d)
  else if letter = CodePoint.ofChar 't' then
    some (CodePoint.ofNat 0x09)
  else
    none

/-- A second escaped unit right here that closes a surrogate pair. -/
def readLowSurrogate? (text : Text) : Read Nat :=
  match text with
  | backslash :: letter :: rest =>
      if backslash = CodePoint.ofChar '\\' ∧ letter = CodePoint.ofChar 'u' then
        match readUnit rest with
        | some (unit, rest) =>
            if isLowSurrogate unit then
              some (unit, rest)
            else
              none
        | none =>
            none
      else
        none
  | _ =>
      none

/-- The code point of an escape, from the letter after the backslash on. -/
def readEscape (text : Text) : Read CodePoint :=
  match text with
  | [] =>
      none
  | letter :: rest =>
      if letter = CodePoint.ofChar 'u' then
        match readUnit rest with
        | none =>
            none
        | some (unit, rest) =>
            if isHighSurrogate unit then
              match readLowSurrogate? rest with
              | some (low, rest) =>
                  some (CodePoint.ofNat (pairedSurrogates unit low), rest)
              | none =>
                  some (CodePoint.ofNat unit, rest)
            else
              some (CodePoint.ofNat unit, rest)
      else
        (simpleEscape? letter).map (·, rest)

/-- The content of a quoted text, from after the opening quote on. -/
def readQuoted : Nat → Text → Read Text
  | 0, _ =>
      none
  | _, [] =>
      none
  | fuel + 1, point :: rest =>
      if point = CodePoint.ofChar '"' then
        some ([], rest)
      else if point = CodePoint.ofChar '\\' then
        match readEscape rest with
        | none =>
            none
        | some (escaped, rest) =>
            (readQuoted fuel rest).map fun (content, rest) => (escaped :: content, rest)
      else if point.value < 0x20 then
        none
      else
        (readQuoted fuel rest).map fun (content, rest) => (point :: content, rest)

/-- The digits at the front, and the text after them. -/
def readDigits (text : Text) : Text × Text :=
  (text.takeWhile CodePoint.isDigit, text.dropWhile CodePoint.isDigit)

/-- A fraction at the front: a point and at least one digit. -/
def readFraction? (text : Text) : Read Text :=
  match text with
  | point :: rest =>
      let (digits, rest) := readDigits rest
      if point = CodePoint.ofChar '.' ∧ digits ≠ [] then
        some (digits, rest)
      else
        none
  | [] =>
      none

/-- A sign at the front, as whether it is a minus, and the text after it. -/
def readSign (text : Text) : Bool × Text :=
  match text with
  | sign :: rest =>
      if sign = CodePoint.ofChar '-' then
        (true, rest)
      else if sign = CodePoint.ofChar '+' then
        (false, rest)
      else
        (false, text)
  | [] =>
      (false, [])

/-- An exponent at the front: a letter, perhaps a sign, at least one digit. -/
def readExponent? (text : Text) : Read Int :=
  match text with
  | letter :: rest =>
      let (isNegative, rest) := readSign rest
      let (digits, rest) := readDigits rest
      if letter.isOneOf "eE" ∧ digits ≠ [] then
        let number : Int := Text.decimalValue digits
        some (if isNegative then -number else number, rest)
      else
        none
  | [] =>
      none

/-- The digits before the fraction: a zero by itself, or no leading zero. -/
def readWhole? (text : Text) : Read Text :=
  match text with
  | [] =>
      none
  | first :: rest =>
      if first = CodePoint.ofChar '0' then
        some ([first], rest)
      else if first.isDigit then
        some (readDigits text)
      else
        none

/-- A number without its sign. -/
def readUnsigned (isNegative : Bool) (text : Text) : Read Value :=
  match readWhole? text with
  | none =>
      none
  | some (whole, rest) =>
      let fraction := readFraction? rest
      let (places, rest) := fraction.getD ([], rest)
      let exponent := readExponent? rest
      let (power, rest) := exponent.getD (0, rest)
      if fraction.isSome || exponent.isSome then
        some (.float (Binary64.ofDecimal isNegative
          (Text.decimalValue (whole ++ places)) (power - places.length)), rest)
      else if Numeral.maximalDigits < whole.length then
        none
      else
        let number : Int := Text.decimalValue whole
        some (.int (if isNegative then -number else number), rest)

/-- The words that stand for a value. -/
def words : List (Text × Value) := [
  ("null", .null),
  ("true", .bool true),
  ("false", .bool false),
  ("NaN", .float .notANumber),
  ("Infinity", .float (.infinite false)),
  ("-Infinity", .float (.infinite true))]

/-- A word that stands for a value. -/
def readWord? (text : Text) : Read Value :=
  words.findSome? fun (word, value) => (text.dropPrefix? word).map (value, ·)

/-- A value that is neither a text nor a collection. -/
def readAtom (text : Text) : Read Value :=
  match readWord? text with
  | some read =>
      some read
  | none =>
      match text with
      | [] =>
          none
      | sign :: rest =>
          if sign = CodePoint.ofChar '-' then
            readUnsigned true rest
          else
            readUnsigned false text

/-- What is left when a value that may be nested has been read. -/
abbrev Reading (Result : Type) := Except Fault (Result × Text)

/-- The fault of a text that is no document. -/
def malformed : Fault := .badValue .unspecified

/-- What has been read, without which there is no document. -/
def orMalformed {Result : Type} (read : Read Result) : Reading Result :=
  match read with
  | some read =>
      .ok read
  | none =>
      .error malformed

/--
How deep lists and objects may be nested.

The interpreter has room for a thousand calls within one another, and some of them
are made before a document is read.
-/
def deepestNesting : Nat := 990

mutual

/-- A value at the front of a text that begins with its first token. -/
def readValue : Nat → Nat → Text → Reading Value
  | 0, _, _ =>
      .error malformed
  | _, _, [] =>
      .error malformed
  | fuel + 1, levels, point :: rest =>
      if point = CodePoint.ofChar '"' then
        (orMalformed (readQuoted (rest.length + 1) rest)).map fun (content, rest) =>
          (.text content, rest)
      else if point = CodePoint.ofChar '[' then
        let inside := skipBlanks rest
        if levels = 0 then
          .error .tooDeep
        else if inside.head? = some (CodePoint.ofChar ']') then
          .ok (.list [], inside.drop 1)
        else
          (readItems fuel (levels - 1) inside).map fun (items, rest) => (.list items, rest)
      else if point = CodePoint.ofChar '\x7b' then
        let inside := skipBlanks rest
        if levels = 0 then
          .error .tooDeep
        else if inside.head? = some (CodePoint.ofChar '\x7d') then
          .ok (.mapping [], inside.drop 1)
        else
          (readMembers fuel (levels - 1) inside).map fun (entries, rest) =>
            (.mapping (Value.insertAll entries), rest)
      else
        orMalformed (readAtom (point :: rest))

/-- The items of a list that is not empty, and the text after its bracket. -/
def readItems : Nat → Nat → Text → Reading (List Value)
  | 0, _, _ =>
      .error malformed
  | fuel + 1, levels, text =>
      match readValue fuel levels text with
      | .error fault =>
          .error fault
      | .ok (item, rest) =>
          match skipBlanks rest with
          | [] =>
              .error malformed
          | point :: rest =>
              if point = CodePoint.ofChar ']' then
                .ok ([item], rest)
              else if point = CodePoint.ofChar ',' then
                (readItems fuel levels (skipBlanks rest)).map fun (items, rest) =>
                  (item :: items, rest)
              else
                .error malformed

/-- The members of an object that is not empty, and the text after its brace. -/
def readMembers : Nat → Nat → Text → Reading (List (Value × Value))
  | 0, _, _ =>
      .error malformed
  | _, _, [] =>
      .error malformed
  | fuel + 1, levels, quote :: rest =>
      if quote ≠ CodePoint.ofChar '"' then
        .error malformed
      else
        match readQuoted (rest.length + 1) rest with
        | none =>
            .error malformed
        | some (name, rest) =>
            match skipBlanks rest with
            | [] =>
                .error malformed
            | colon :: rest =>
                if colon ≠ CodePoint.ofChar ':' then
                  .error malformed
                else
                  match readValue fuel levels (skipBlanks rest) with
                  | .error fault =>
                      .error fault
                  | .ok (value, rest) =>
                      match skipBlanks rest with
                      | [] =>
                          .error malformed
                      | point :: rest =>
                          if point = CodePoint.ofChar '\x7d' then
                            .ok ([(.text name, value)], rest)
                          else if point = CodePoint.ofChar ',' then
                            (readMembers fuel levels (skipBlanks rest)).map
                              fun (entries, rest) => ((.text name, value) :: entries, rest)
                          else
                            .error malformed

end

/-- The value of a text that is one JSON document. -/
def read (text : Text) : Except Fault Value :=
  match readValue (2 * text.length + 1) deepestNesting (skipBlanks text) with
  | .error fault =>
      .error fault
  | .ok (value, rest) =>
      if (skipBlanks rest).isEmpty then
        .ok value
      else
        .error malformed

/-- The value of a text, for those who do not ask why it is no document. -/
def read? (text : Text) : Option Value :=
  (read text).toOption

/-- The value of bytes in any of the Unicode encodings that are one document. -/
def readBytes (bytes : Bytes) : Except Fault Value :=
  match Text.ofEncoded? (Encoding.detect bytes) bytes with
  | none =>
      .error .undecodable
  | some text =>
      read text

/--
The value of a body, which must be text or bytes.

A text that begins with a byte-order mark is no document, while bytes may.
-/
def readBody (body : Value) : Except Fault Value :=
  match body with
  | .text content =>
      if content.head? = some (CodePoint.ofNat 0xfeff) then
        .error malformed
      else
        read content
  | other =>
      match other.toBytes? with
      | none =>
          .error .wrongType
      | some bytes =>
          readBytes bytes

end Json

end SessionHandshake
