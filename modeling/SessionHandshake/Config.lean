import SessionHandshake.Endpoint.Authentication
import SessionHandshake.Endpoint.Joining
import SessionHandshake.Text.Utf8
import SessionHandshake.Yaml.Document

namespace SessionHandshake

/-!
# Configuration

A configuration is a mapping, written in a file or given by the program.  What
it holds counts, whatever it is; only what it does not hold has a default.
-/

/-- The values that are configured. -/
structure Config where
  entries : List (Value × Value)

namespace Config

/-- Nothing is configured. -/
def empty : Config where
  entries := []

/-- The values of keys that are not configured. -/
def defaults : List (Value × Value) := [
  (Value.ofString "auth-server", Endpoint.defaultAuthServer),
  (Value.ofString "session-server", Endpoint.defaultSessionServer),
  (Value.ofString "timeout", .int 10),
  (Value.ofString "debug", .bool false)]

/-- A key is configured. -/
def has (config : Config) (key : Value) : Except Fault Bool :=
  if key.isHashable then
    .ok (Value.find? key config.entries).isSome
  else
    .error .wrongType

/--
The value of a key: the configured one, else the one that the caller gives for
this case, else the default one.
-/
def get (config : Config) (key : Value) (fallback : Option Value) : Except Fault Value :=
  if key.isHashable then
    match Value.find? key config.entries, fallback, Value.find? key defaults with
    | some value, _, _ =>
        .ok value
    | none, some value, _ =>
        .ok value
    | none, none, some value =>
        .ok value
    | none, none, none =>
        .error (.missingKey key)
  else
    .error .wrongType

/-- The configured value of a key, or its default. -/
def lookup (config : Config) (key : String) : Except Fault Value :=
  config.get (Value.ofString key) none

/-- The configured value of a key, or a given one. -/
def lookupOr (config : Config) (key : String) (fallback : Value) : Value :=
  (Value.find? (Value.ofString key) config.entries).getD fallback

/-- The authentication server. -/
def authServer (config : Config) : Value :=
  config.lookupOr "auth-server" Endpoint.defaultAuthServer

/-- The session server. -/
def sessionServer (config : Config) : Value :=
  config.lookupOr "session-server" Endpoint.defaultSessionServer

/-- How many seconds a request may take. -/
def timeout (config : Config) : Value :=
  config.lookupOr "timeout" (.int 10)

/-! ## Given by the program -/

/-- One entry set, given as a sequence of a key and a value. -/
def insertPair (entries : List (Value × Value)) (pair : Value) :
    Except Fault (List (Value × Value)) :=
  match pair.members? with
  | none =>
      .error .wrongType
  | some [key, value] =>
      if key.isHashable then
        .ok (Value.insert key value entries)
      else
        .error .wrongType
  | some _ =>
      .error (.badValue .unspecified)

/-- The configuration that a value of any type stands for: a mapping, or pairs. -/
def ofValue (value : Value) : Except Fault Config :=
  match value with
  | .mapping entries =>
      .ok { entries := entries }
  | other =>
      match other.members? with
      | none =>
          .error .wrongType
      | some pairs => do
          let entries ← pairs.foldlM insertPair []
          return { entries := entries }

/-! ## Written in a file -/

/-- The text of a file with one kind of line break. -/
def unifyBreaks : Text → Text
  | [] =>
      []
  | [point] =>
      [if point.value = 0x0d then CodePoint.ofNat 0x0a else point]
  | first :: second :: rest =>
      if first.value = 0x0d then
        if second.value = 0x0a then
          CodePoint.ofNat 0x0a :: unifyBreaks rest
        else
          CodePoint.ofNat 0x0a :: unifyBreaks (second :: rest)
      else
        first :: unifyBreaks (second :: rest)

/-- The configuration of a document, which may be empty. -/
def ofDocument (path : Text) (document : Value) : Except Fault Config :=
  if !document.isTruthy then
    .ok empty
  else
    match document with
    | .mapping entries =>
        .ok { entries := entries }
    | _ =>
        .error (.badValue (.configurationNotMapping path))

/-- The configuration in a file of a given content. -/
def ofFile (path : Text) (content : Bytes) : Except Fault Config :=
  match Text.ofUtf8? false content with
  | none =>
      .error .undecodable
  | some text => do
      let document ← Yaml.read (unifyBreaks text)
      ofDocument path document

end Config

end SessionHandshake
