import SessionHandshake.Json.Writer
import SessionHandshake.Transport.Address

namespace SessionHandshake

/-!
# Requests as they are sent

On the way to a server a request has a final address, its payload is written as
JSON, and it says what kind of content it has and which program sends it.
-/

/-- A request as it is sent. -/
structure WebRequest where
  method : Text
  url : Text
  body : Option Text
  /-- How many seconds the request may take. -/
  timeout : Value
  /-- What kind of content is posted; absent if nothing is said about it. -/
  contentType : Value
  /-- Which program sends the request, if it says so by itself. -/
  userAgent : Option Text

namespace WebRequest

/-- The name under which this library sends requests. -/
def libraryAgent : Text := "yggauth/1.0"

/-- The name of the type of a value, as messages show it. -/
def typeName : Value → Text
  | .null =>
      "NoneType"
  | .bool _ =>
      "bool"
  | .int _ =>
      "int"
  | .float _ =>
      "float"
  | .text _ =>
      "str"
  | .bytes _ =>
      "bytes"
  | .byteBuffer _ =>
      "bytearray"
  | .moment date =>
      if date.clock.isSome then "datetime.datetime" else "datetime.date"
  | .list _ =>
      "list"
  | .mapping _ =>
      "dict"
  | .pair _ _ =>
      "tuple"
  | .set _ =>
      "set"
  | .enclosing .list =>
      "list"
  | .enclosing .mapping =>
      "dict"

/-- A header must not begin with white space or have more than one line. -/
def isHeaderText (isSpace : CodePoint → Bool) (content : Text) : Bool :=
  match content with
  | [] =>
      true
  | first :: rest =>
      !isSpace first && rest.all fun point => point.value ≠ 10 && point.value ≠ 13

/-- The value of a header is malformed. -/
def malformedHeader (value : Value) : Fault :=
  .unreachable
    (("Invalid leading whitespace, reserved character(s), or return character(s) in " ++
      "header value: " : Text) ++ value.quoted)

/-- The value of a header has a type that no header has. -/
def mistypedHeader (value : Value) : Fault :=
  .unreachable (("Header part (" : Text) ++ value.quoted ++ (") from ('Content-Type', " : Text) ++
    value.quoted ++ (") must be of type str or bytes, not <class '" : Text) ++ typeName value ++
    ("'>" : Text))

/-- What kind of content a request says it has. -/
def checkedContentType (value : Value) : Except Fault Value :=
  match value with
  | .null =>
      .ok .null
  | .text content =>
      if isHeaderText CodePoint.isSpace content then .ok value else .error (malformedHeader value)
  | .bytes content =>
      let characters := content.map fun byte => CodePoint.ofNat byte.toNat
      if isHeaderText (fun point => isAsciiBlank point.value) characters then
        .ok value
      else
        .error (malformedHeader value)
  | other =>
      .error (mistypedHeader other)

/-- The posted text of a request, if it posts one. -/
def bodyOf : Request → Except Fault (Option Text)
  | .get _ _ =>
      .ok none
  | .post _ payload _ =>
      (Json.write payload).map some

/-- The parameters that a request adds to its address. -/
def parametersOf : Request → Value
  | .get _ parameters =>
      parameters
  | .post _ _ _ =>
      .null

/-- What kind of content a request posts, if it posts any. -/
def contentTypeOf : Request → Value
  | .get _ _ =>
      .null
  | .post _ _ contentType =>
      contentType

/-- The text of an address: bytes are decoded, and any other value is shown. -/
def addressText : Value → Except Fault Text
  | .bytes content =>
      match Text.ofUtf8? false content with
      | some text =>
          .ok text
      | none =>
          .error .undecodable
  | other =>
      .ok other.shown

/-- A request as it is sent, given the text that it posts. -/
def ofRequest
    (timeout : Value)
    (userAgent : Option Text)
    (body : Option Text)
    (request : Request) :
    Except Fault WebRequest := do
  let written ← addressText request.url
  let url ← Address.prepare written (parametersOf request)
  let contentType ← checkedContentType (contentTypeOf request)
  Address.checkSent url
  return {
    method := request.method
    url := url
    body := body
    timeout := timeout
    contentType := contentType
    userAgent := userAgent
  }

end WebRequest

end SessionHandshake
