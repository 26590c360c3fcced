import SessionHandshake.Fault.Basic
import SessionHandshake.Transport.Percent

namespace SessionHandshake

/-!
# The query of an address

The parameters of a request are written as names and values with `=` between
them and `&` after each but the last, a space as `+` and all but unreserved
characters encoded.  A parameter without a value is left out, and one with
several values is written several times.
-/

namespace Query

/-- The space, which a query writes as a plus sign. -/
def space : CodePoint := CodePoint.ofChar ' '

/-- Bytes as a name or a value of a query. -/
def encode (bytes : Bytes) : Text :=
  (Percent.encode (fun point => Percent.isUnreserved point || point = space) bytes).map
    fun point => if point = space then CodePoint.ofChar '+' else point

/-- The bytes of a name or a value of any type. -/
def bytesOf (value : Value) : Except Fault Bytes :=
  match value with
  | .bytes content =>
      .ok content
  | other =>
      match Text.utf8? other.shown with
      | some bytes =>
          .ok bytes
      | none =>
          .error .unencodable

/-- The values that a value stands for: itself, or its members. -/
def valuesOf (value : Value) : List Value :=
  match value with
  | .text _ =>
      [value]
  | .bytes _ =>
      [value]
  | other =>
      other.members?.getD [other]

/-- The parts of a query that one parameter makes up. -/
def parts (name value : Value) : Except Fault (List Text) := do
  let present := (valuesOf value).filter fun value => !value.isNull
  let values := present.flatMap valuesOf
  if values.isEmpty then
    return []
  else
    let name ← bytesOf name
    let values ← values.mapM bytesOf
    return values.map fun value => encode name ++ ("=" : Text) ++ encode value

/-- The query of parameters with names. -/
def ofEntries (entries : List (Value × Value)) : Except Fault Text := do
  let parts ← entries.mapM fun entry => parts entry.1 entry.2
  return Text.joined "&" parts.flatten

/-- A name and a value given as a sequence. -/
def entryOf (pair : Value) : Except Fault (Value × Value) :=
  match pair.members? with
  | none =>
      .error .wrongType
  | some [name, value] =>
      .ok (name, value)
  | some _ =>
      .error (.badValue .unspecified)

/--
The query of parameters of any type: named, in a sequence, or already written.

Any other value can only be added to a query that is there.
-/
def ofParameters (hasQuery : Bool) (parameters : Value) : Except Fault Text :=
  match parameters with
  | .null =>
      .ok []
  | .mapping entries =>
      ofEntries entries
  | .text content =>
      .ok content
  | .bytes content =>
      if content.all fun byte => byte.toNat < 0x80 then
        .ok (content.map fun byte => CodePoint.ofNat byte.toNat)
      else
        .error .undecodable
  | other =>
      match other.members? with
      | some pairs => do
          let entries ← pairs.mapM entryOf
          ofEntries entries
      | none =>
          if !other.isTruthy then
            .ok []
          else if hasQuery then
            .ok other.shown
          else
            .error .wrongType

end Query

end SessionHandshake
