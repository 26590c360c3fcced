import SessionHandshake.Text.Composition
import SessionHandshake.Text.Direction
import SessionHandshake.Text.DomainMapping
import SessionHandshake.Text.DomainName
import SessionHandshake.Text.Joining
import SessionHandshake.Text.Mark
import SessionHandshake.Text.Punycode
import SessionHandshake.Text.Script

namespace SessionHandshake

/-!
# Labels of host names

A host name is a row of labels.  A label is in its composed form, begins with no
mark, has hyphens only inside and not in its third and fourth place, and holds
characters of host names in directions that go together.  A few signs may stand
in a label only where their surroundings ask for them.

A label beyond ASCII is written in ASCII behind `xn--`.
-/

namespace DomainLabel

/-! ## Signs that need surroundings -/

/-- The class of the marks that take the vowel from a letter. -/
def vowelKiller : Nat := 9

/-- Behind a mark that takes the vowel from a letter, letters may be joined or kept apart. -/
def followsVowelKiller (reversedBefore : Text) : Bool :=
  reversedBefore.head?.any fun point => point.markClass = vowelKiller

/-- The letters around a place would join. -/
def wouldJoin (reversedBefore after : Text) : Bool :=
  (reversedBefore.dropWhile CodePoint.isPassedOver).head?.any CodePoint.joinsNext &&
    (after.dropWhile CodePoint.isPassedOver).head?.any CodePoint.joinsPrevious

/-- One of the Arabic digits. -/
def isArabicDigit (point : CodePoint) : Bool :=
  0x660 ≤ point.value && point.value ≤ 0x669

/-- One of the Arabic digits of the eastern form. -/
def isEasternDigit (point : CodePoint) : Bool :=
  0x6f0 ≤ point.value && point.value ≤ 0x6f9

/-- The letter between two of which a raised dot may stand. -/
def isDottedLetter (point : CodePoint) : Bool :=
  point = CodePoint.ofChar 'l'

/-- A sign may stand at a place of a label; what is before it is given from the place on. -/
def mayStand (label reversedBefore : Text) (point : CodePoint) (after : Text) : Bool :=
  match point.value with
  | 0xb7 =>
      reversedBefore.head?.any isDottedLetter && after.head?.any isDottedLetter
  | 0x375 =>
      after.head?.any CodePoint.isGreek
  | 0x5f3 | 0x5f4 =>
      reversedBefore.head?.any CodePoint.isHebrew
  | 0x200c =>
      followsVowelKiller reversedBefore || wouldJoin reversedBefore after
  | 0x200d =>
      followsVowelKiller reversedBefore
  | 0x30fb =>
      label.any fun other => other ≠ point && other.isJapanese
  | _ =>
      (isArabicDigit point && !label.any isEasternDigit) ||
        (isEasternDigit point && !label.any isArabicDigit)

/-- All characters of a label may stand where they do. -/
def holdsTogether (label : Text) : Text → Text → Bool
  | _, [] =>
      true
  | reversedBefore, point :: after =>
      (point.isDomainPoint || mayStand label reversedBefore point after) &&
        holdsTogether label (point :: reversedBefore) after

/-! ## Labels -/

/-- The greatest length of a label in its written form. -/
def greatestLength : Nat := 63

/-- The greatest length of a whole name, a full stop at its end apart. -/
def greatestNameLength : Nat := 253

/-- Hyphens stand inside the label only, and not in its third and fourth place. -/
def hasSoundHyphens (label : Text) : Bool :=
  !Text.startsWith (label.drop 2) "--" && !label.startsWith "-" && !label.endsWith "-"

/-- A label that a host name may have. -/
def isLabel (label : Text) : Bool :=
  !label.isEmpty && label.length ≤ greatestNameLength + 1 && label.isComposed &&
    hasSoundHyphens label && !label.head?.any CodePoint.isMark && holdsTogether label [] label &&
    Direction.areSound (label.map CodePoint.direction)

/-- What a label beyond ASCII begins with when it is written in ASCII. -/
def writtenMark : Text := "xn--"

/-- A label in ASCII: one for itself, or the written form of one beyond ASCII. -/
def isAsciiLabel (label : Text) : Bool :=
  let label := label.asciiLowercase
  match label.dropPrefix? writtenMark with
  | none =>
      isLabel label
  | some written =>
      !written.isEmpty && !written.endsWith "-" && (Punycode.decode? written).any isLabel

/-- A text that holds only ASCII. -/
def isAscii (text : Text) : Bool :=
  text.all fun point => point.value < 0x80

/-- The written form of a label, if it is one. -/
def written? (label : Text) : Option Text :=
  let written := if isAscii label then label else writtenMark ++ Punycode.encode label
  let isSound := if isAscii label then isAsciiLabel label else isLabel label
  if isSound && written.length ≤ greatestLength then
    some written
  else
    none

/-- The longest name that is looked at. -/
def greatestInput : Nat := 1024

/-- The labels of a name, and whether a full stop follows the last. -/
def labels (name : Text) : List Text × Bool :=
  let labels := name.splitOn (CodePoint.ofChar '.')
  if 1 < labels.length && labels.getLast? = some [] then
    (labels.dropLast, true)
  else
    (labels, false)

/-- The written form of a whole name, which is first brought into its usual form. -/
def writtenName? (name : Text) : Option Text := do
  let usual := name.usualDomainForm
  let (labels, isClosed) := labels usual
  let stop : Text := if isClosed then "." else []
  let written := Text.joined "." (← labels.mapM written?) ++ stop
  if name.length ≤ greatestInput && usual.length ≤ greatestNameLength + 1 &&
      written.length ≤ greatestNameLength + stop.length then
    some written
  else
    none

end DomainLabel

end SessionHandshake
