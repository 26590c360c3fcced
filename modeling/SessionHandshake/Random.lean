import SessionHandshake.Fault.Basic

namespace SessionHandshake

/-!
# Random values

Secrets and tokens are drawn from a source that is asked for a number of bytes
and may answer anything or fail.  A drawn value is exactly what the source gave,
and anything but the right number of bytes is a fault.
-/

/--
A source of random bytes.

Its answer to a request for a number of bytes may depend on the requests before
it, which come first, the oldest at the front.  The number is a value, since a
caller may ask for anything.
-/
abbrev RandomSource := List Value → Value → Except Fault Value

/-- The number of bytes of a shared secret. -/
def sharedSecretLength : Nat := 16

/-- The number of bytes of a verify token. -/
def verifyTokenLength : Nat := 4

/-- The number of bytes whose hexadecimal form is a server identifier. -/
def serverIdLength : Nat := 10

/-- The number of bytes whose hexadecimal form is a client token. -/
def clientTokenLength : Nat := 16

/--
The system failed, or lacks what was asked of it.

Files that cannot be read and requests that get no answer are failures of the
system, too, wherever they are raised.
-/
def Fault.isOutage : Fault → Bool
  | .systemFailure _ =>
      true
  | .notAvailable _ =>
      true
  | .unreadableFile _ =>
      true
  | .unreachable _ =>
      true
  | _ =>
      false

namespace RandomSource

/-- An answer of a source, checked against the number of bytes asked for. -/
def accept (length : Value) (answer : Except Fault Value) : Except Fault Bytes :=
  match answer with
  | .error fault =>
      if fault.isOutage then
        .error (.randomSource (.unavailable length) (some fault))
      else
        .error fault
  | .ok (.bytes content) =>
      if Value.same (.int content.length) length then
        .ok content
      else
        .error (.randomSource (.malformed length) none)
  | .ok _ =>
      .error (.randomSource (.malformed length) none)

/-- A number of random bytes, given the requests made before. -/
def bytes (source : RandomSource) (before : List Value) (length : Value) :
    Except Fault Bytes :=
  accept length (source before length)

/-- A fixed number of random bytes. -/
def fixedBytes (source : RandomSource) (before : List Value) (length : Nat) :
    Except Fault Bytes :=
  source.bytes before (.int length)

/-- A shared secret. -/
def sharedSecret (source : RandomSource) (before : List Value) : Except Fault Bytes :=
  source.fixedBytes before sharedSecretLength

/-- The token by which a server recognises the answer to its own request. -/
def verifyToken (source : RandomSource) (before : List Value) : Except Fault Bytes :=
  source.fixedBytes before verifyTokenLength

/-- The identifier of a server, in hexadecimal. -/
def serverId (source : RandomSource) (before : List Value) : Except Fault Text :=
  (source.fixedBytes before serverIdLength).map Text.ofBytes

/-- The token by which a client is known to the authentication server. -/
def clientToken (source : RandomSource) (before : List Value) : Except Fault Text :=
  (source.fixedBytes before clientTokenLength).map Text.ofBytes

end RandomSource

end SessionHandshake
