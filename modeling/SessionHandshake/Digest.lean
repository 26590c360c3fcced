import SessionHandshake.Fault.Basic
import SessionHandshake.Hash.Md5
import SessionHandshake.Hash.Sha1
import SessionHandshake.Hash.Sha2
import SessionHandshake.Text.Utf8

namespace SessionHandshake

/-!
# The digest that names a server

The session server knows a game server by a digest of the server's identifier,
the shared secret and the public key.  The twenty bytes of the hash are read as
one signed number, most significant byte first, and written in hexadecimal: a
minus sign for a negative number, no leading zeros, and `0` for zero.
-/

/--
A hash function that is fed in parts.

`hasher parts` is the hash after the parts were fed in order.  The usual hash
functions look only at the concatenation of the parts, which
`Hasher.ofFunction` makes explicit.
-/
abbrev Hasher := List Bytes → Bytes

namespace Hasher

/-- The hasher of a function on whole messages. -/
def ofFunction (hash : Bytes → Bytes) : Hasher :=
  fun parts => hash parts.flatten

/-- The hasher that is used unless another one is asked for. -/
def sha1 : Hasher :=
  ofFunction Hash.sha1

/-- A hasher by the name of its function. -/
def named? (name : Text) : Option Hasher :=
  if name = ("sha1" : Text) then
    some sha1
  else if name = ("md5" : Text) then
    some (ofFunction Hash.md5)
  else if name = ("sha224" : Text) then
    some (ofFunction Hash.sha224)
  else if name = ("sha256" : Text) then
    some (ofFunction Hash.sha256)
  else if name = ("sha512" : Text) then
    some (ofFunction Hash.sha512)
  else
    none

end Hasher

namespace Digest

/-- The number of bytes of a hash that can be written as a digest. -/
def hashLength : Nat := 20

/--
One added to a number given least significant byte first.

A byte that overflows becomes zero and the carry goes on; a carry out of the
last byte is lost.
-/
def increment : Bytes → Bytes
  | [] =>
      []
  | byte :: rest =>
      if byte = 0xff then
        0 :: increment rest
      else
        (byte + 1) :: rest

/-- The negation of a two's complement number: every bit inverted, one added. -/
def twosComplement (bytes : Bytes) : Bytes :=
  (increment (bytes.map (· ^^^ 0xff)).reverse).reverse

/-- A magnitude in hexadecimal without leading zeros, and `0` for zero. -/
def magnitude (bytes : Bytes) : Text :=
  let significant := (Text.ofBytes bytes).dropWhile (· = CodePoint.ofChar '0')
  if significant.isEmpty then
    "0"
  else
    significant

/-- The first bit is set, so the bytes stand for a negative number. -/
def isNegative (bytes : Bytes) : Bool :=
  0x80 ≤ (bytes.headD 0).toNat

/-- Bytes as a signed hexadecimal number. -/
def signedHex (bytes : Bytes) : Text :=
  if isNegative bytes then
    CodePoint.ofChar '-' :: magnitude (twosComplement bytes)
  else
    magnitude bytes

/-- The digest text of a hash, which must be of the right length. -/
def ofHash (hash : Bytes) : Except Fault Text :=
  if hash.length = hashLength then
    .ok (signedHex hash)
  else
    .error (.badValue (.digestLength hash.length))

/-- The digest text of a message. -/
def ofMessage (hasher : Hasher) (message : Bytes) : Except Fault Text :=
  ofHash (hasher [message])

/-- The digest that names a server, from the bytes of its identifier. -/
def ofServer (hasher : Hasher) (serverId secret publicKey : Bytes) : Except Fault Text :=
  ofHash (hasher [serverId, secret, publicKey])

/-! ## Arguments of any type -/

/-- Members inverted bit by bit; each must be a number that fits a byte. -/
def invertMembers : List Value → Except Fault Bytes
  | [] =>
      .ok []
  | member :: rest =>
      match member.toInt? with
      | none =>
          .error .wrongType
      | some number =>
          if 0 ≤ number ∧ number < 256 then
            match invertMembers rest with
            | .ok inverted =>
                .ok ((UInt8.ofNat number.toNat ^^^ 0xff) :: inverted)
            | .error fault =>
                .error fault
          else
            .error (.badValue .unspecified)

/-- The negation of a two's complement number given as a value of any type. -/
def twosComplementOf (value : Value) : Except Fault Bytes :=
  match value.toBytes? with
  | some bytes =>
      .ok (twosComplement bytes)
  | none =>
      match value.members? with
      | none =>
          .error .wrongType
      | some members =>
          (invertMembers members).map fun inverted => (increment inverted.reverse).reverse

/-- The member that decides the sign of a value that is no sequence of bytes. -/
def leadingMember : Value → Except Fault Value
  | .text (point :: _) =>
      .ok (.text [point])
  | .list (first :: _) =>
      .ok first
  | .mapping entries =>
      match Value.find? (.int 0) entries with
      | some first =>
          .ok first
      | none =>
          .error (.missingKey (.int 0))
  | _ =>
      .error .wrongType

/-- A value is at least `0x80`; only numbers can be compared with that. -/
def isAtLeastSignBit (value : Value) : Except Fault Bool :=
  match value with
  | .float number =>
      .ok (match number.compareInt? 0x80 with
        | some .gt =>
            false
        | some _ =>
            true
        | none =>
            false)
  | other =>
      match other.toInt? with
      | some number =>
          .ok (0x80 ≤ number)
      | none =>
          .error .wrongType

/-- The digest text of a hash given as a value of any type. -/
def ofHashValue (value : Value) : Except Fault Text :=
  match value.toBytes? with
  | some hash =>
      ofHash hash
  | none =>
      match value.length? with
      | none =>
          .error .wrongType
      | some length =>
          if length = hashLength then do
            let leading ← leadingMember value
            if ← isAtLeastSignBit leading then
              return CodePoint.ofChar '-' :: magnitude (← twosComplementOf value)
            else
              throw .noSuchOperation
          else
            .error (.badValue (.digestLength length))

/-- The bytes of a value that a hash function can be fed with. -/
def hashInput (value : Value) : Except Fault Bytes :=
  match value.toBytes? with
  | some bytes =>
      .ok bytes
  | none =>
      .error .wrongType

/-- The digest text of a message given as a value of any type. -/
def ofMessageValue (hasher : Hasher) (message : Value) : Except Fault Text := do
  ofMessage hasher (← hashInput message)

/-- The bytes of a server identifier: a text is encoded, bytes are taken as they are. -/
def serverIdBytes (serverId : Value) : Except Fault Bytes :=
  match serverId with
  | .text content =>
      match content.utf8? with
      | some bytes =>
          .ok bytes
      | none =>
          .error .unencodable
  | other =>
      hashInput other

/-- The digest that names a server, from arguments of any type. -/
def ofServerValues
    (hasher : Hasher)
    (serverId secret publicKey : Value) :
    Except Fault Text := do
  let serverId ← serverIdBytes serverId
  let secret ← hashInput secret
  let publicKey ← hashInput publicKey
  ofServer hasher serverId secret publicKey

end Digest

end SessionHandshake
