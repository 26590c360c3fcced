import SessionHandshake.Console
import SessionHandshake.Transport.Web

namespace SessionHandshake

/-!
# Transports

A transport carries a request to a server and brings back the body of the
answer.  Whatever keeps a body from coming back, a status that is no success
included, is a transport fault.

There are two transports.  The direct one hands a request over as it is, and says
for itself which statuses bring a body back.  The web transport gives a request the
form in which it is sent, and reports what it does while debugging is on.  What the
servers answer is given in advance.
-/

/-- What comes back for a request. -/
inductive Reply where
  | answered (status : Int) (body : Value)
  | failed (fault : Fault)

/-- What comes back when the servers have nothing left to say. -/
def Reply.nothing : Reply :=
  .failed (.unreachable "no more responses")

/-- The web transport takes the status of an answer for a success. -/
def isSuccess (status : Int) : Bool :=
  200 ≤ status && status < 300

/-- A request as a transport has handed it over. -/
inductive SentRequest where
  | direct (request : Request)
  | web (request : WebRequest)

/-- A way to carry requests. -/
inductive Transport where
  | direct
  | web (timeout : Value) (userAgent : Option Text)

/-- What has happened to one request: at most one has been handed over. -/
structure Exchange where
  outcome : Except Fault Value
  sent : Option SentRequest
  replies : List Reply
  console : Console

namespace Transport

/-- The body of an answer that failed before there was any. -/
def noBody : Value := .bytes []

/-! ## Handing a request over as it is -/

/-- The outcome of a reply to a request that was handed over as it is. -/
def directOutcome : Reply → Except Fault Value
  | .answered status body =>
      if 200 ≤ status ∧ status ≤ 299 then
        .ok body
      else
        .error (.transport (("HTTP " : Text) ++ Text.ofInt status) (.int status) body none)
  | .failed (.unreachable message) =>
      .error (.transport message .null noBody none)
  | .failed fault =>
      .error fault

/-- The exchange of a request that is handed over as it is. -/
def directExchange (request : Request) (replies : List Reply) (console : Console) : Exchange where
  outcome := directOutcome (replies.head?.getD Reply.nothing)
  sent := some (.direct request)
  replies := replies.drop 1
  console := console

/-! ## Sending a request -/

/-- The line that announces a request. -/
def requestLine (request : Request) : Text :=
  ("HTTP request! [method=" : Text) ++ request.method ++ (", url=" : Text) ++ request.url.shown ++
    ("]" : Text)

/-- The line that reports an answer. -/
def responseLine (status : Int) (length : Nat) : Text :=
  ("HTTP response! [status=" : Text) ++ Text.ofInt status ++ (", length=" : Text) ++
    Text.ofNat length ++ ("]" : Text)

/-- The fault of a request that got no answer. -/
def failedRequest (request : Request) (message : Text) : Fault :=
  .transport
    (request.method ++ (" " : Text) ++ request.url.shown ++ (" failed: " : Text) ++ message)
    .null noBody (some (.unreachable message))

/-- The fault of a request whose answer is no success. -/
def refusedRequest (request : Request) (status : Int) (body : Value) : Fault :=
  .transport
    (request.method ++ (" " : Text) ++ request.url.shown ++ (" returned HTTP " : Text) ++
      Text.ofInt status ++ ("!" : Text))
    (.int status) body none

/-- What a caller learns of a fault on the way to a server. -/
def reported (request : Request) : Fault → Fault
  | .unreachable message =>
      failedRequest request message
  | fault =>
      fault

/-- The outcome of a reply to a request that was sent; its body must have a length. -/
def webOutcome (request : Request) : Reply → Except Fault Value
  | .answered status body =>
      if body.length?.isNone then
        .error .wrongType
      else if isSuccess status then
        .ok body
      else
        .error (refusedRequest request status body)
  | .failed fault =>
      .error (reported request fault)

/-- The console after a reply. -/
def replyReported (console : Console) : Reply → Console
  | .answered status body =>
      match body.length? with
      | some length =>
          console.report .debug (responseLine status length)
      | none =>
          console
  | .failed _ =>
      console

/-- The exchange of a request that is sent, unless it cannot be. -/
def webExchange
    (timeout : Value)
    (userAgent : Option Text)
    (request : Request)
    (replies : List Reply)
    (console : Console) :
    Exchange :=
  match WebRequest.bodyOf request with
  | .error fault =>
      { outcome := .error fault, sent := none, replies := replies, console := console }
  | .ok body =>
      let console := console.report .debug (requestLine request)
      match WebRequest.ofRequest timeout userAgent body request with
      | .error fault =>
          {
            outcome := .error (reported request fault)
            sent := none
            replies := replies
            console := console
          }
      | .ok prepared =>
          let reply := replies.head?.getD Reply.nothing
          {
            outcome := webOutcome request reply
            sent := some (.web prepared)
            replies := replies.drop 1
            console := replyReported console reply
          }

/-- The exchange of a request over a transport. -/
def exchange
    (transport : Transport)
    (request : Request)
    (replies : List Reply)
    (console : Console) :
    Exchange :=
  match transport with
  | .direct =>
      directExchange request replies console
  | .web timeout userAgent =>
      webExchange timeout userAgent request replies console

/-- The web transport of this library. -/
def ofTimeout (timeout : Value) : Transport :=
  .web timeout (some WebRequest.libraryAgent)

end Transport

end SessionHandshake
