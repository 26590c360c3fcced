import SessionHandshake.Text.Composite

namespace SessionHandshake

/-!
# Composing characters

The composed form of a text is found in three steps: every composite character
is taken apart, the marks behind a letter are brought into the order of their
classes, and what belongs together is put together again.  Texts that mean the
same have one composed form.

The syllables of the Korean script are numbered so that their parts follow from
their numbers.
-/

namespace Syllable

/-- The first syllable. -/
def first : Nat := 0xac00

/-- The first leading consonant. -/
def firstLead : Nat := 0x1100

/-- The first vowel. -/
def firstVowel : Nat := 0x1161

/-- The number before the first trailing consonant. -/
def noTrail : Nat := 0x11a7

/-- How many leading consonants there are. -/
def leads : Nat := 19

/-- How many vowels there are. -/
def vowels : Nat := 21

/-- How many trailing consonants there are, none included. -/
def trails : Nat := 28

/-- The parts of a syllable: two, or three with a trailing consonant. -/
def parts? (point : CodePoint) : Option Text :=
  let index := point.value - first
  if first ≤ point.value ∧ index < leads * vowels * trails then
    let lead := CodePoint.ofNat (firstLead + index / (vowels * trails))
    let vowel := CodePoint.ofNat (firstVowel + index / trails % vowels)
    let trail := index % trails
    some ([lead, vowel] ++ if trail = 0 then [] else [CodePoint.ofNat (noTrail + trail)])
  else
    none

/-- The syllable of two parts, the first of which may be a syllable without an end. -/
def joined? (before after : CodePoint) : Option CodePoint :=
  let lead := before.value - firstLead
  let vowel := after.value - firstVowel
  let index := before.value - first
  let trail := after.value - noTrail
  if firstLead ≤ before.value ∧ lead < leads ∧ firstVowel ≤ after.value ∧ vowel < vowels then
    some (CodePoint.ofNat (first + (lead * vowels + vowel) * trails))
  else if first ≤ before.value ∧ index < leads * vowels * trails ∧ index % trails = 0 ∧
      noTrail < after.value ∧ trail < trails then
    some (CodePoint.ofNat (before.value + trail))
  else
    none

end Syllable

namespace CodePoint

/-- The characters that a composite one is made of, if it is one. -/
def parts? (point : CodePoint) : Option Text :=
  (Syllable.parts? point).or ((composites.find? point).or (variants.find? point))

/-- The character that two others make, if they make one. -/
def joined? (before after : CodePoint) : Option CodePoint :=
  (Syllable.joined? before after).or (composites.origin? [before, after])

/-- A character taken apart a number of times. -/
def takenApart : Nat → CodePoint → Text
  | 0, point =>
      [point]
  | depth + 1, point =>
      match point.parts? with
      | some parts =>
          parts.flatMap (takenApart depth)
      | none =>
          [point]

end CodePoint

namespace Text

/-- How often a character can be taken apart. -/
def compositeDepth : Nat := 4

/-- A mark put behind those of its own and of lower classes; the latest comes first. -/
def placeMark (point : CodePoint) : Text → Text
  | [] =>
      [point]
  | latest :: earlier =>
      if point.markClass ≠ 0 ∧ point.markClass < latest.markClass then
        latest :: placeMark point earlier
      else
        point :: latest :: earlier

/-- The text taken apart, its marks in the order of their classes. -/
def decomposed (text : Text) : Text :=
  ((text.flatMap (CodePoint.takenApart compositeDepth)).foldl
    (fun reversed point => placeMark point reversed) []).reverse

/-- What has been put together so far, the latest character first. -/
structure Composing where
  done : Text
  /-- The character with which what follows may be put together. -/
  base : Option CodePoint
  /-- The marks behind the base that could not be put together with it. -/
  marks : Text

namespace Composing

/-- All characters so far, the latest first. -/
def reversed (composing : Composing) : Text :=
  composing.marks ++ composing.base.toList ++ composing.done

/-- No mark stands between the base and the next character that keeps them apart. -/
def isOpen (composing : Composing) (point : CodePoint) : Bool :=
  match composing.marks with
  | [] =>
      true
  | latest :: _ =>
      latest.markClass < point.markClass

/-- The next character put together with the base, or put behind it. -/
def add (composing : Composing) (point : CodePoint) : Composing :=
  let joined :=
    if composing.isOpen point then
      composing.base.bind fun base => base.joined? point
    else
      none
  match joined with
  | some base =>
      { composing with base := some base }
  | none =>
      if point.markClass = 0 then
        { done := composing.reversed, base := some point, marks := [] }
      else
        { composing with marks := point :: composing.marks }

end Composing

/-- The composed form of a text. -/
def composed (text : Text) : Text :=
  (text.decomposed.foldl Composing.add { done := [], base := none, marks := [] }).reversed.reverse

/-- The text is in its composed form. -/
def isComposed (text : Text) : Bool :=
  text.composed = text

end Text

end SessionHandshake
