import SessionHandshake.Text.Basic

namespace SessionHandshake

/-!
# Tables of replacements

A table says which text stands for a code point.  It is written as rows: a row
names a code point in hexadecimal, and after it what stands for this code point
and for those that follow it, one word each.  The numbers of a word have plus
signs between them, and a hyphen passes over a code point.
-/

/-- Code points, each with the text that stands for it. -/
abbrev Replacements := List (Nat × Text)

namespace Replacements

/-- The number that hexadecimal digits write. -/
def number (digits : Text) : Nat :=
  digits.foldl (fun total digit => 16 * total + digit.hexValue?.getD 0) 0

/-- The text of a word, unless the word passes over a code point. -/
def word? (word : Text) : Option Text :=
  if word = ("-" : Text) then
    none
  else
    some ((word.splitOn (CodePoint.ofChar '+')).map fun digits => CodePoint.ofNat (number digits))

/-- The replacements of a code point and those that follow it. -/
def ofWords : Nat → List Text → Replacements
  | _, [] =>
      []
  | start, word :: rest =>
      match word? word with
      | some text =>
          (start, text) :: ofWords (start + 1) rest
      | none =>
          ofWords (start + 1) rest

/-- The replacements of one row. -/
def ofRow (row : Text) : Replacements :=
  match (row.splitOn (CodePoint.ofChar ' ')).filter fun word => !word.isEmpty with
  | [] =>
      []
  | start :: words =>
      ofWords (number start) words

/-- The replacements of lines that hold rows with semicolons between them. -/
def ofLines (lines : List String) : Replacements :=
  lines.flatMap fun line => ((Text.ofString line).splitOn (CodePoint.ofChar ';')).flatMap ofRow

/-- The text that stands for a code point. -/
def find? (table : Replacements) (point : CodePoint) : Option Text :=
  (List.find? (fun entry => entry.1 = point.value) table).map Prod.snd

/-- The code point for which a text stands. -/
def origin? (table : Replacements) (text : Text) : Option CodePoint :=
  (List.find? (fun entry => entry.2 = text) table).map fun entry => CodePoint.ofNat entry.1

end Replacements

end SessionHandshake
