namespace SessionHandshake

/-!
# Text as a list of code points

A text that came out of an escaped answer may hold a lone surrogate, which
neither `Char` nor `String` can hold.  Text is therefore a list of code points,
and every rule of this library that looks at text is a function on that list.

String literals are read as text through a coercion, so the wording of a
message can be written as it is printed.
-/

/-- A number below the end of the Unicode code space, surrogates included. -/
structure CodePoint where
  value : Nat
  isBounded : value < 0x110000
  deriving DecidableEq

namespace CodePoint

/-- The code point of a character. -/
def ofChar (character : Char) : CodePoint where
  value := character.toNat
  isBounded := by
    have valid := character.valid
    simp only [Char.toNat, UInt32.isValidChar, Nat.isValidChar] at *
    omega

instance : Coe Char CodePoint := ⟨ofChar⟩

instance : Inhabited CodePoint := ⟨ofChar ' '⟩

/-- The code point with a given number, if there is one. -/
def ofNat? (value : Nat) : Option CodePoint :=
  if isBounded : value < 0x110000 then
    some ⟨value, isBounded⟩
  else
    none

/-- The code point with a given number; the replacement character otherwise. -/
def ofNat (value : Nat) : CodePoint :=
  (ofNat? value).getD ⟨0xfffd, by decide⟩

/-- One half of a surrogate pair, which stands for no character by itself. -/
def isSurrogate (point : CodePoint) : Bool :=
  0xd800 ≤ point.value && point.value ≤ 0xdfff

/-- The number of the code point lies between two characters, ends included. -/
def isBetween (point : CodePoint) (first last : Char) : Bool :=
  first.toNat ≤ point.value && point.value ≤ last.toNat

/-- One of the digits `0` to `9`. -/
def isDigit (point : CodePoint) : Bool :=
  point.isBetween '0' '9'

/-- One of the letters `a` to `z` and `A` to `Z`. -/
def isLetter (point : CodePoint) : Bool :=
  point.isBetween 'a' 'z' || point.isBetween 'A' 'Z'

/-- The value of a hexadecimal digit in either case. -/
def hexValue? (point : CodePoint) : Option Nat :=
  if point.isDigit then
    some (point.value - 0x30)
  else if point.isBetween 'a' 'f' then
    some (point.value - 0x61 + 10)
  else if point.isBetween 'A' 'F' then
    some (point.value - 0x41 + 10)
  else
    none

/-- A hexadecimal digit in either case. -/
def isHexDigit (point : CodePoint) : Bool :=
  point.hexValue?.isSome

/-- The lower-case digit for a value below sixteen. -/
def hexDigit (value : Nat) : CodePoint :=
  if value < 10 then
    ofNat (0x30 + value)
  else
    ofNat (0x61 + (value - 10))

/-- The code point is one of those of a literal. -/
def isOneOf (point : CodePoint) (candidates : String) : Bool :=
  candidates.toList.any (fun character => point = ofChar character)

end CodePoint

/-- A sequence of code points. -/
abbrev Text := List CodePoint

/-- A sequence of bytes. -/
abbrev Bytes := List UInt8

namespace Text

/-- The code points of a string. -/
def ofString (string : String) : Text :=
  string.toList.map CodePoint.ofChar

instance : Coe String Text := ⟨ofString⟩

instance : Coe String (List CodePoint) := ⟨ofString⟩

/-- The digits of a number in a base, most significant first. -/
def digits (base : Nat) (number : Nat) : List Nat :=
  if _reducible : 1 < base ∧ base ≤ number then
    digits base (number / base) ++ [number % base]
  else
    [number]
termination_by number
decreasing_by exact Nat.div_lt_self (by omega) _reducible.1

/-- A natural number in decimal digits. -/
def ofNat (number : Nat) : Text :=
  (digits 10 number).map CodePoint.hexDigit

/-- An integer in decimal digits, with a minus sign if it is negative. -/
def ofInt : Int → Text
  | .ofNat number =>
      ofNat number
  | .negSucc predecessor =>
      CodePoint.ofChar '-' :: ofNat (predecessor + 1)

/-- A number in lower-case hexadecimal digits, filled with zeros to a width. -/
def hexPadded (width : Nat) (number : Nat) : Text :=
  let written := (digits 16 number).map CodePoint.hexDigit
  List.replicate (width - written.length) (CodePoint.ofChar '0') ++ written

/-- The number that decimal digits write. -/
def decimalValue (text : Text) : Nat :=
  text.foldl (fun total point => 10 * total + (point.value - 0x30)) 0

/-- The lower-case hexadecimal form of bytes, two digits for each. -/
def ofBytes (bytes : Bytes) : Text :=
  bytes.flatMap fun byte =>
    [CodePoint.hexDigit (byte.toNat / 16), CodePoint.hexDigit (byte.toNat % 16)]

/-- The text begins with a given one. -/
def startsWith (text start : Text) : Bool :=
  start.isPrefixOf text

/-- The text ends with a given one. -/
def endsWith (text finish : Text) : Bool :=
  finish.isSuffixOf text

/-- The rest of the text after a given start. -/
def dropPrefix? (text start : Text) : Option Text :=
  if text.startsWith start then
    some (text.drop start.length)
  else
    none

/-- The text with every occurrence of one code point left out. -/
def without (text : Text) (unwanted : CodePoint) : Text :=
  text.filter (fun point => point ≠ unwanted)

/--
The text with every occurrence of a non-empty pattern left out, scanning from
the left and never looking again at what an occurrence covered.
-/
def withoutAll (pattern : Text) (text : Text) : Text :=
  match text with
  | [] =>
      []
  | point :: rest =>
      if pattern ≠ [] ∧ Text.startsWith (point :: rest) pattern then
        withoutAll pattern (rest.drop (pattern.length - 1))
      else
        point :: withoutAll pattern rest
termination_by text.length
decreasing_by
  · simp only [List.length_drop, List.length_cons]
    omega
  · simp only [List.length_cons]
    omega

/-- A text without the break after its last line. -/
def withoutFinalBreak (text : Text) : Text :=
  if text.getLast? = some (CodePoint.ofChar '\n') then text.dropLast else text

/-- The text without the leading and trailing code points of a class. -/
def trim (drops : CodePoint → Bool) (text : Text) : Text :=
  ((text.dropWhile drops).reverse.dropWhile drops).reverse

/-- The first part up to a separator, and what follows the separator, if any. -/
def splitAtFirst (separator : CodePoint) : Text → Text × Option Text
  | [] =>
      ([], none)
  | point :: rest =>
      if point = separator then
        ([], some rest)
      else
        let (before, after) := splitAtFirst separator rest
        (point :: before, after)

/-- The parts between the occurrences of a separator. -/
def splitOn (separator : CodePoint) : Text → List Text
  | [] =>
      [[]]
  | point :: rest =>
      if point = separator then
        [] :: splitOn separator rest
      else
        match splitOn separator rest with
        | [] =>
            [[point]]
        | part :: parts =>
            (point :: part) :: parts

/-- Texts with a separator between neighbours. -/
def joined (separator : Text) : List Text → Text
  | [] =>
      []
  | [only] =>
      only
  | first :: rest =>
      first ++ separator ++ joined separator rest

/-- ASCII letters in lower case, all else unchanged. -/
def asciiLowercase (text : Text) : Text :=
  text.map fun point =>
    if point.isBetween 'A' 'Z' then
      CodePoint.ofNat (point.value + 32)
    else
      point

/-- The text as a string, if it holds no surrogate. -/
def toString? (text : Text) : Option String :=
  (text.mapM fun (point : CodePoint) =>
    if valid : point.value.isValidChar then
      some (Char.ofNatAux point.value valid)
    else
      none).map String.ofList

end Text

end SessionHandshake
