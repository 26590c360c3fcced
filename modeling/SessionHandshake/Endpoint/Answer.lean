import SessionHandshake.Endpoint.Basic
import SessionHandshake.Json.Reader
import SessionHandshake.Profile.Basic

namespace SessionHandshake

/-!
# Reading the answers of the servers

Every answer that is read is a JSON object.  What is wrong with an answer is
reported in the form that the endpoint asks for, as a malformed response or as
a failed authentication.
-/

/-- How an endpoint reports an unusable answer, given the fault behind it. -/
abbrev AnswerFault := Malformation → Option Fault → Fault

namespace Answer

/-- An unusable answer, reported as such. -/
def malformed : AnswerFault :=
  fun problem cause => .malformedResponse problem cause

/-- An unusable answer, reported as a failed authentication. -/
def notAuthenticated : AnswerFault :=
  fun problem cause =>
    .refused .authentication (.unusableAnswer problem) RefusalDetails.none cause

/-- The members of the object that a body holds. -/
def members (report : AnswerFault) (body : Value) : Except Fault (List (Value × Value)) :=
  match Json.readBody body with
  | .ok (.mapping entries) =>
      .ok entries
  | .ok _ =>
      .error (report .notObject none)
  | .error fault =>
      if fault.isBadValue then
        .error (report .notJson (some fault))
      else
        .error fault

/-- A required member of an answer. -/
def require
    (report : AnswerFault)
    (entries : List (Value × Value))
    (name : String) :
    Except Fault Value :=
  match Value.member? entries name with
  | some value =>
      .ok value
  | none =>
      .error (report (.missingField name) (some (.missingKey (Value.ofString name))))

/-- An access token must be a text that is not empty. -/
def checkAccessToken (report : AnswerFault) (token : Value) : Except Fault Unit :=
  match token with
  | .text (_ :: _) =>
      .ok ()
  | _ =>
      .error (report .badAccessToken none)

/-- A client token must be a text. -/
def checkClientToken (report : AnswerFault) (token : Value) : Except Fault Unit :=
  match token with
  | .text _ =>
      .ok ()
  | _ =>
      .error (report .badClientToken none)

/-- The tokens of an answer. -/
def tokens
    (report : AnswerFault)
    (entries : List (Value × Value))
    (requestUser : Value) :
    Except Fault Tokens := do
  let accessToken ← require report entries "accessToken"
  let clientToken ← require report entries "clientToken"
  checkAccessToken report accessToken
  checkClientToken report clientToken
  return {
    accessToken := accessToken
    clientToken := clientToken
    requestUser := requestUser
  }

end Answer

namespace RefusalDetails

/-- The members of the object that a body holds; none if it holds no object. -/
def members (body : Value) : Except Fault (List (Value × Value)) :=
  match Json.readBody body with
  | .ok (.mapping entries) =>
      .ok entries
  | .ok _ =>
      .ok []
  | .error fault =>
      if fault.isBadValueOrType then
        .ok []
      else
        .error fault

/-- What the members of a refusal's body say about it. -/
def ofMembers (entries : List (Value × Value)) : RefusalDetails where
  error := (Value.member? entries "error").getD .null
  errorMessage := (Value.member? entries "errorMessage").getD .null

/-- What the body of a refusal says about it. -/
def ofBody (body : Value) : Except Fault RefusalDetails :=
  (members body).map ofMembers

end RefusalDetails

namespace Fault

/--
A refusal on account of a failed request, with what the body of the request's
answer says about it.
-/
def refusedOnAccountOf
    (refusal : Refusal)
    (reason : RefusalReason)
    (body : Value)
    (cause : Option Fault) :
    Fault :=
  match RefusalDetails.ofBody body with
  | .ok details =>
      .refused refusal reason details cause
  | .error fault =>
      fault

end Fault

end SessionHandshake
