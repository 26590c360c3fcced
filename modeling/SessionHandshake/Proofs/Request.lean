import SessionHandshake.Proofs.Wire

namespace SessionHandshake

/-!
# Requests that nothing keeps from being sent

A payload of texts, flags and nothing can always be written, whatever is in the
texts, and a request to a server is always sent.  What then comes of it is decided
by the reply alone.
-/

theorem Value.exists_ofText? {value : Value} (isTextOrNull : value.isNull ∨ value.isText) :
    ∃ content, value = .ofText? content := by
  rcases isTextOrNull with isNull | isText
  · cases value with
    | null =>
        exact ⟨none, rfl⟩
    | _ =>
        cases isNull
  · obtain ⟨content, rfl⟩ := isText_iff.mp isText
    exact ⟨some content, rfl⟩

namespace Json

/-- A value that has a document. -/
def IsWritable (value : Value) : Prop :=
  ∃ written, write value = .ok written

theorem IsReadBack.isWritable
    {depth : Nat}
    {value : Value}
    (isReadBack : IsReadBack depth value) :
    IsWritable value :=
  let ⟨written, document⟩ := isReadBack
  ⟨written, document.isWritten⟩

theorem isWritable_text (content : Text) : IsWritable (.text content) :=
  ⟨writeText content, by rw [write]⟩

theorem isWritable_of_isText {value : Value} (isText : value.isText) : IsWritable value := by
  obtain ⟨content, rfl⟩ := Value.isText_iff.mp isText
  exact isWritable_text content

/-- An object can be written if all its members can. -/
theorem isWritable_object
    {members : List (String × Value)}
    (areWritable : ∀ member ∈ members, IsWritable member.2) :
    IsWritable (Endpoint.object members) := by
  have membersWritten :
      ∃ written,
        writeMembers (members.map fun member => (Value.ofString member.1, member.2)) =
          .ok written := by
    induction members with
    | nil =>
        exact ⟨[], by rw [List.map_nil, writeMembers]⟩
    | cons first rest inductionHypothesis =>
        obtain ⟨value, isWritten⟩ := areWritable first List.mem_cons_self
        obtain ⟨others, restWritten⟩ :=
          inductionHypothesis fun member isMember =>
            areWritable member (List.mem_cons_of_mem first isMember)
        refine ⟨(writeText first.1 ++ (": " : Text) ++ value) :: others, ?_⟩
        rw [List.map_cons, writeMembers, isWritten, restWritten]
        rfl
  obtain ⟨written, areWritten⟩ := membersWritten
  refine ⟨("\x7b" : Text) ++ Text.joined ", " written ++ ("\x7d" : Text), ?_⟩
  rw [Endpoint.object, write, areWritten]
  rfl

end Json

/--
The address of a server to which paths can be added: a web scheme and a host, or
anything else with which all documented paths can be reached.
-/
inductive Address.IsBase : Text → Prop where
  | server (server : Server) :
      IsBase server.text
  | other {base : Text} :
      (∀ path ∈ documentedPaths, ∀ parameters query,
        Query.ofParameters false parameters = .ok query →
        Percent.IsUsual query →
        ∃ url, reached (base ++ Text.ofString path) parameters = .ok url) →
      IsBase base

theorem Address.IsBase.exists_reached
    {base : Text}
    (isBase : IsBase base)
    {path : String}
    (isDocumented : path ∈ documentedPaths)
    {parameters : Value}
    {query : Text}
    (written : Query.ofParameters false parameters = .ok query)
    (isUsual : Percent.IsUsual query) :
    ∃ url, reached (base ++ Text.ofString path) parameters = .ok url := by
  cases isBase with
  | server server =>
      exact ⟨_, server.reached_text (isPlainPath_documented isDocumented) written isUsual⟩
  | other reaches =>
      exact reaches path isDocumented parameters query written isUsual

/-- A value is the address of a server to which paths can be added. -/
def Value.IsBase (server : Value) : Prop :=
  ∃ base, server = .text base ∧ Address.IsBase base

/-- The authentication server unless another one is configured, as a server. -/
def defaultAuthServer : Address.Server where
  isSecure := true
  host := "authserver.mojang.com"
  port := none
  hasHost := by decide
  hostPoints := by decide
  isAsked := by decide
  portBound := Address.Server.portBound_none

theorem Endpoint.isBase_defaultServers :
    defaultAuthServer.IsBase ∧ defaultSessionServer.IsBase :=
  ⟨⟨_, rfl, .server SessionHandshake.defaultAuthServer⟩,
    _, rfl, .server SessionHandshake.defaultSessionServer⟩

namespace WebRequest

/-- A request whose payload can be written and whose address can be reached. -/
def IsReady (request : Request) : Prop :=
  ∃ body,
    bodyOf request = .ok body ∧
      ∀ timeout userAgent, ∃ prepared, ofRequest timeout userAgent body request = .ok prepared

/-- An object posted to a documented path of a server. -/
theorem isReady_post
    {server : Value}
    (isBase : server.IsBase)
    {path : String}
    (isDocumented : path ∈ documentedPaths)
    {members : List (String × Value)}
    (areWritable : ∀ member ∈ members, Json.IsWritable member.2) :
    IsReady (Endpoint.postObject server path members) := by
  obtain ⟨base, rfl, isBase⟩ := isBase
  obtain ⟨written, isWritten⟩ := Json.isWritable_object areWritable
  refine ⟨some written, congrArg (Except.map some) isWritten, fun timeout userAgent => ?_⟩
  have noParameters : Query.ofParameters false .null = .ok [] := rfl
  obtain ⟨url, reached⟩ := isBase.exists_reached isDocumented noParameters .nil
  have prepared :=
    ofRequest_eq timeout userAgent (some written)
      (Endpoint.postObject (.text base) path members) (base ++ Text.ofString path)
      Request.jsonContentType rfl rfl
  have withoutParameters :
      parametersOf (Endpoint.postObject (.text base) path members) = .null :=
    rfl
  rw [withoutParameters, reached] at prepared
  exact ⟨_, prepared⟩

section Documented

variable {server : Value} (isBase : server.IsBase)
include isBase

theorem isReady_authenticate
    {username password clientToken : Value}
    (isUsername : username.isText)
    (isPassword : password.isText)
    (isToken : clientToken.isText)
    (requestUser : Bool) :
    IsReady
      (Endpoint.authenticate server username password clientToken (.bool requestUser)).request := by
  refine isReady_post isBase (by decide) fun member isMember => ?_
  simp only [List.mem_cons, List.not_mem_nil, or_false] at isMember
  rcases isMember with rfl | rfl | rfl | rfl | rfl
  · exact PostingCall.isReadBack_agent.isWritable
  · exact Json.isWritable_of_isText isUsername
  · exact Json.isWritable_of_isText isPassword
  · exact Json.isWritable_of_isText isToken
  · exact (Json.isReadBack_bool requestUser 0).isWritable

theorem isReady_refresh
    {accessToken clientToken : Value}
    (isAccess : accessToken.isText)
    (isClient : clientToken.isText)
    (requestUser : Bool) :
    IsReady (Endpoint.refresh server accessToken clientToken (.bool requestUser)).request := by
  refine isReady_post isBase (by decide) fun member isMember => ?_
  simp only [List.mem_cons, List.not_mem_nil, or_false] at isMember
  rcases isMember with rfl | rfl | rfl
  · exact Json.isWritable_of_isText isAccess
  · exact Json.isWritable_of_isText isClient
  · exact (Json.isReadBack_bool requestUser 0).isWritable

theorem isReady_validate
    {accessToken clientToken : Value}
    (isAccess : accessToken.isText)
    (isClient : clientToken.isText) :
    IsReady (Endpoint.validate server accessToken clientToken).request := by
  refine isReady_post isBase (by decide) fun member isMember => ?_
  unfold Endpoint.tokenMembers at isMember
  split at isMember
  · rw [List.mem_singleton.mp isMember]
    exact Json.isWritable_of_isText isAccess
  · simp only [List.mem_cons, List.not_mem_nil, or_false] at isMember
    rcases isMember with rfl | rfl
    · exact Json.isWritable_of_isText isAccess
    · exact Json.isWritable_of_isText isClient

theorem isReady_signOut
    {username password : Value}
    (isUsername : username.isText)
    (isPassword : password.isText) :
    IsReady (Endpoint.signOut server username password).request := by
  refine isReady_post isBase (by decide) fun member isMember => ?_
  simp only [List.mem_cons, List.not_mem_nil, or_false] at isMember
  rcases isMember with rfl | rfl
  · exact Json.isWritable_of_isText isUsername
  · exact Json.isWritable_of_isText isPassword

theorem isReady_invalidate
    {accessToken clientToken : Value}
    (isAccess : accessToken.isText)
    (isClient : clientToken.isText) :
    IsReady (Endpoint.invalidate server accessToken clientToken).request := by
  refine isReady_post isBase (by decide) fun member isMember => ?_
  simp only [List.mem_cons, List.not_mem_nil, or_false] at isMember
  rcases isMember with rfl | rfl
  · exact Json.isWritable_of_isText isAccess
  · exact Json.isWritable_of_isText isClient

theorem isReady_join
    {accessToken profileId : Value}
    (isAccess : accessToken.isText)
    (isId : profileId.isText)
    (serverHash : Text) :
    IsReady (Endpoint.join server accessToken profileId (.text serverHash)).request := by
  refine isReady_post isBase (by decide) fun member isMember => ?_
  simp only [List.mem_cons, List.not_mem_nil, or_false] at isMember
  rcases isMember with rfl | rfl | rfl
  · exact Json.isWritable_of_isText isAccess
  · exact Json.isWritable_of_isText isId
  · exact Json.isWritable_text serverHash

/-- A question about a join with texts of scalar values. -/
theorem isReady_hasJoined
    {username serverHash : Text}
    {address : Option Text}
    (areScalar : ∀ content ∈ username :: serverHash :: address.toList, content.IsScalar) :
    IsReady (Endpoint.hasJoined server (.text username) (.text serverHash)
      (.ofText? address)).request := by
  obtain ⟨base, rfl, isBase⟩ := isBase
  refine ⟨none, rfl, fun timeout userAgent => ?_⟩
  have written :
      Query.ofParameters false
          (Endpoint.object (Endpoint.joinParameters (.text username) (.text serverHash)
            (.ofText? address))) =
        .ok (Query.ofFields (joinFields username serverHash address)) := by
    rw [joinParameters_eq]
    exact Query.ofEntries_texts (joinFields_areScalar areScalar)
  have isDocumented : "/session/minecraft/hasJoined" ∈ documentedPaths := by decide
  obtain ⟨url, reached⟩ := isBase.exists_reached isDocumented written (Query.isUsual_ofFields _)
  have prepared :=
    ofRequest_eq timeout userAgent none
      (Endpoint.hasJoined (.text base) (.text username) (.text serverHash)
        (.ofText? address)).request
      (base ++ ("/session/minecraft/hasJoined" : Text)) .null rfl rfl
  exact ⟨_, prepared.trans (congrArg (Except.map _) reached)⟩

end Documented

end WebRequest

namespace Transport

/-- What becomes of a request that is ready: it is sent, and the next reply decides. -/
theorem webExchange_of_isReady
    {request : Request}
    (isReady : WebRequest.IsReady request)
    (timeout : Value)
    (userAgent : Option Text)
    (replies : List Reply)
    (console : Console) :
    ∃ prepared,
      (Transport.web timeout userAgent).exchange request replies console = {
        outcome := webOutcome request (replies.head?.getD Reply.nothing)
        sent := some (.web prepared)
        replies := replies.drop 1
        console :=
          replyReported (console.report .debug (requestLine request))
            (replies.head?.getD Reply.nothing) } := by
  obtain ⟨body, isWritten, isPrepared⟩ := isReady
  obtain ⟨prepared, isPrepared⟩ := isPrepared timeout userAgent
  refine ⟨prepared, ?_⟩
  rw [exchange, webExchange, isWritten]
  simp only [isPrepared]

end Transport

end SessionHandshake
