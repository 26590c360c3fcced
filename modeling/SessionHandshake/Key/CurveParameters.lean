import SessionHandshake.Key.Curve
import SessionHandshake.Key.Der

namespace SessionHandshake

/-!
# The parameters of a key on a curve

A key says which curve it is on by the name of the curve, by a description in
full, or not at all.  A description is accepted if it is that of one of three
known curves; the curve is unknown otherwise.
-/

/-- Where the coordinates of a described curve come from. -/
inductive CurveField where
  /-- The integers modulo a prime. -/
  | prime (modulus : Nat)
  /-- Any other field, named and perhaps described further. -/
  | other (identifier : ObjectIdentifier) (description : List DerElement)
  deriving DecidableEq

/-- A curve described in full. -/
structure CurveDescription where
  version : Nat
  field : CurveField
  linear : Bytes
  constant : Bytes
  seed : Option Bytes
  base : Bytes
  order : Nat
  cofactor : Option Nat
  deriving DecidableEq

/-- Which curve a key is on. -/
inductive CurveParameters where
  | named (identifier : ObjectIdentifier)
  | implicit
  | described (description : CurveDescription)
  deriving DecidableEq

namespace CurveField

/-- The name of the fields of integers modulo a prime. -/
def primeIdentifier : ObjectIdentifier := [1, 2, 840, 10045, 1, 1]

/-- The field that an element describes. -/
def ofElement? (element : DerElement) : Option CurveField :=
  match element.members? with
  | some (identifier :: description) =>
      match identifier.identifier? with
      | none =>
          none
      | some identifier =>
          if identifier = primeIdentifier then
            match description.map DerElement.natural? with
            | [some modulus] =>
                some (.prime modulus)
            | _ =>
                none
          else if description.length ≤ 1 then
            some (.other identifier description)
          else
            none
  | _ =>
      none

end CurveField

namespace CurveDescription

/-- The version that a description of a curve carries. -/
def currentVersion : Nat := 1

/-- The constants of a described curve, and the seed that may follow them. -/
def constants? (element : DerElement) : Option (Bytes × Bytes × Option Bytes) :=
  match element.members? with
  | some (linear :: constant :: seed) =>
      match linear.bytes?, constant.bytes?, seed.map DerElement.wholeBits? with
      | some linear, some constant, [] =>
          some (linear, constant, none)
      | some linear, some constant, [some seed] =>
          some (linear, constant, some seed)
      | _, _, _ =>
          none
  | _ =>
      none

/-- The cofactor at the end of a description: nothing, or a number of one byte. -/
def cofactor? (elements : List DerElement) : Option (Option Nat) :=
  match elements with
  | [] =>
      some none
  | [element] =>
      if element.isNaturalOf 8 then
        some element.natural?
      else
        none
  | _ =>
      none

/-- The description that an element is. -/
def ofElement? (element : DerElement) : Option CurveDescription :=
  match element.members? with
  | some (version :: field :: constants :: base :: order :: cofactor) => do
      let number ← version.natural?
      let field ← CurveField.ofElement? field
      let (linear, constant, seed) ← constants? constants
      let base ← base.bytes?
      let order ← order.natural?
      let cofactor ← cofactor? cofactor
      if version.isNaturalOf 8 then
        some {
          version := number
          field := field
          linear := linear
          constant := constant
          seed := seed
          base := base
          order := order
          cofactor := cofactor
        }
      else
        none
  | _ =>
      none

/-- The description of a known curve, with or without its seed. -/
def ofCurve (curve : Curve) (withSeed : Bool) : CurveDescription where
  version := currentVersion
  field := .prime curve.prime
  linear := Hash.bigEndian curve.coordinateLength curve.linear
  constant := Hash.bigEndian curve.coordinateLength curve.constant
  seed := if withSeed then some curve.seed else none
  base := curve.writePoint curve.base
  order := curve.order
  cofactor := some 1

/-- The curves that may be described in full. -/
def describable : List Curve := [Curve.nist256, Curve.nist384, Curve.nist521]

/-- The known curve that a description is of. -/
def curve? (description : CurveDescription) : Option Curve :=
  describable.find? fun curve =>
    description = ofCurve curve true ∨ description = ofCurve curve false

end CurveDescription

namespace CurveParameters

/-- The parameters that an element is. -/
def ofElement? (element : DerElement) : Option CurveParameters :=
  if element.tag = DerTag.identifier then
    element.identifier?.map .named
  else if element.isNull then
    some .implicit
  else
    (CurveDescription.ofElement? element).map .described

/-- The known curve that parameters stand for. -/
def curve? : CurveParameters → Option Curve
  | .named identifier =>
      Curve.named? identifier
  | .implicit =>
      none
  | .described description =>
      description.curve?

end CurveParameters

end SessionHandshake
