import SessionHandshake.Fault.Basic
import SessionHandshake.Text.Blank

namespace SessionHandshake

/-!
# Endpoints

An endpoint is one request together with the meaning of its outcome.  Whatever
carries the request, the body that comes back or the fault that prevents one is
read by the same function, so nothing about an endpoint depends on the carrier
and no endpoint sends more than one request.
-/

/-- A request: its address, which is a text if this library asks, and what it carries. -/
inductive Request where
  | get (url : Value) (parameters : Value)
  | post (url : Value) (payload : Value) (contentType : Value)

namespace Request

/-- The content type of a posted body unless another one is given. -/
def jsonContentType : Value :=
  Value.ofString "application/json"

/-- The name of the method of a request. -/
def method : Request → Text
  | .get .. =>
      "GET"
  | .post .. =>
      "POST"

/-- The address of a request. -/
def url : Request → Value
  | .get url _ =>
      url
  | .post url _ _ =>
      url

end Request

/-- One request and the meaning of its outcome, a body or a fault. -/
structure Endpoint (Result : Type) where
  request : Request
  read : Except Fault Value → Except Fault Result

namespace Endpoint

/-- The address of a path on a server. -/
def address (server : Value) (path : String) : Value :=
  .text (server.shown ++ Text.ofString path)

/-- An object with textual names. -/
def object (members : List (String × Value)) : Value :=
  .mapping (members.map fun member => (Value.ofString member.1, member.2))

/-- A posted object. -/
def postObject (server : Value) (path : String) (members : List (String × Value)) : Request :=
  .post (address server path) (object members) Request.jsonContentType

end Endpoint

/-- White space at the ends of a text, which does not make it less blank. -/
def CodePoint.isSpace (point : CodePoint) : Bool :=
  point.isBlank || (0x1c ≤ point.value && point.value ≤ 0x1f)

/-- A body holds nothing but white space; only text and bytes can be asked. -/
def Value.isBlankBody (body : Value) : Except Fault Bool :=
  match body with
  | .text content =>
      .ok (content.all CodePoint.isSpace)
  | other =>
      match other.toBytes? with
      | some content =>
          .ok (content.all fun byte => isAsciiBlank byte.toNat)
      | none =>
          .error .noSuchOperation

end SessionHandshake
