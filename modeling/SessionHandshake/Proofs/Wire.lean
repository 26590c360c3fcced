import SessionHandshake.Endpoint.Authentication
import SessionHandshake.Endpoint.Joining
import SessionHandshake.Proofs.Address
import SessionHandshake.Proofs.Document
import SessionHandshake.Proofs.Transport

namespace SessionHandshake

/-!
# What is sent over the web

A request that posts carries a JSON object with the documented members of its
endpoint, and a question about a join carries its parameters in the query of its
address.  Whatever is in the texts, the server reads them as they were given.
-/

/-! ## Addresses that can be reached -/

/-- The address to which a request with parameters is sent, if it can be sent. -/
def Address.reached (url : Text) (parameters : Value) : Except Fault Text := do
  let prepared ← prepare url parameters
  checkSent prepared
  return prepared

theorem Address.Server.reached_text
    (server : Server)
    {path : Text}
    (isPlainPath : IsPlainPath path)
    {parameters : Value}
    {query : Text}
    (written : Query.ofParameters false parameters = .ok query)
    (isUsual : Percent.IsUsual query) :
    reached (server.text ++ path) parameters =
      .ok (server.usualText ++ path ++ marked "?" query) := by
  rw [reached, server.prepare_text isPlainPath written isUsual, ok_bind,
    server.checkSent_usualText isPlainPath]
  rfl

/-- The address reached with texts for parameters has a query that gives these texts back. -/
theorem Address.Server.reached_fields
    (server : Server)
    {path : Text}
    (isPlainPath : IsPlainPath path)
    {fields : List (Text × Text)}
    (someFields : fields ≠ [])
    (areScalar : Query.AreScalar fields) :
    ∃ query,
      Query.decode? query = some fields ∧
      reached (server.text ++ path)
          (.mapping (fields.map fun entry => (.text entry.1, .text entry.2))) =
        .ok (server.usualText ++ path ++ ("?" : Text) ++ query) := by
  have decoded := Query.decode?_ofFields someFields areScalar
  have notEmpty : (Query.ofFields fields).isEmpty = false := by
    refine List.isEmpty_eq_false_iff.mpr fun isEmpty => ?_
    rw [isEmpty] at decoded
    exact someFields (Option.some.inj decoded.symm)
  have written :
      Query.ofParameters false
          (.mapping (fields.map fun entry => (.text entry.1, .text entry.2))) =
        .ok (Query.ofFields fields) :=
    Query.ofEntries_texts areScalar
  have marked : marked "?" (Query.ofFields fields) = ("?" : Text) ++ Query.ofFields fields := by
    rw [Address.marked, notEmpty]
    rfl
  refine ⟨Query.ofFields fields, decoded, ?_⟩
  rw [server.reached_text isPlainPath written (Query.isUsual_ofFields fields), marked,
    ← List.append_assoc]

/-- The usual form of a server's address is the address up to the case of letters. -/
theorem Address.Server.asciiLowercase_usualText (server : Server) :
    server.usualText.asciiLowercase = server.text.asciiLowercase := by
  have twice :
      ∀ point : CodePoint, Text.lowerPoint (Text.lowerPoint point) = Text.lowerPoint point := by
    intro point
    by_cases isUpper : point.isBetween 'A' 'Z' = true
    · have bounds := CodePoint.mem_range_of_isBetween isUpper
      have isAscii : point.value < 128 := Nat.lt_of_le_of_lt bounds.2 (by decide)
      have checked :
          ∀ number : Fin 128,
            Text.lowerPoint (Text.lowerPoint (CodePoint.ofNat number)) =
              Text.lowerPoint (CodePoint.ofNat number) := by
        decide +kernel
      exact CodePoint.forall_ascii
        (fun point => Text.lowerPoint (Text.lowerPoint point) = Text.lowerPoint point)
        checked isAscii
    · have kept : Text.lowerPoint point = point := if_neg isUpper
      rw [kept, kept]
  have host : server.usualHost.map Text.lowerPoint = server.host.map Text.lowerPoint := by
    rw [usualHost]
    split
    · rfl
    · rw [Text.asciiLowercase_eq_map, List.map_map]
      exact List.map_congr_left fun point _ => twice point
  simp only [Text.asciiLowercase_eq_map, usualText, text, List.map_append, host]

namespace WebRequest

theorem ofRequest_eq
    (timeout : Value)
    (userAgent body : Option Text)
    (request : Request)
    (written : Text)
    (contentType : Value)
    (isText : addressText request.url = .ok written)
    (isContentType : checkedContentType (contentTypeOf request) = .ok contentType) :
    ofRequest timeout userAgent body request =
      (Address.reached written (parametersOf request)).map fun url => {
        method := request.method
        url := url
        body := body
        timeout := timeout
        contentType := contentType
        userAgent := userAgent } := by
  rw [ofRequest, isText, ok_bind, Address.reached]
  cases Address.prepare written (parametersOf request) with
  | error fault =>
      rfl
  | ok prepared =>
      rw [ok_bind, ok_bind, isContentType, ok_bind]
      cases Address.checkSent prepared <;> rfl

/-- A request that posts an object with certain members as JSON, in ASCII alone. -/
structure Posts (request : WebRequest) (members : List (String × Value)) : Prop where
  isPost : request.method = ("POST" : Text)
  isJson : request.contentType = Value.ofString "application/json"
  carries :
    ∃ body,
      request.body = some body ∧ (∀ point ∈ body, point.value < 0x80) ∧
        Json.readBytes (body.flatMap CodePoint.utf8) = .ok (Endpoint.object members)

/-- A request that asks for a path on a server with certain fields in its query. -/
structure Asks (request : WebRequest) (url : Text) (fields : List (Text × Text)) : Prop where
  isGet : request.method = ("GET" : Text)
  hasNoBody : request.body = none
  asks : ∃ query, request.url = url ++ ("?" : Text) ++ query ∧ Query.decode? query = some fields

end WebRequest

/-- The paths of all endpoints. -/
def documentedPaths : List String := [
  "/authenticate", "/refresh", "/validate", "/signout", "/invalidate", "/session/minecraft/join",
  "/session/minecraft/hasJoined"]

/-- The documented paths are in their usual form. -/
theorem isPlainPath_documented {path : String} (isDocumented : path ∈ documentedPaths) :
    Address.IsPlainPath path := by
  have checked :
      ∀ path ∈ documentedPaths,
        (Text.ofString path).head? = some (CodePoint.ofChar '/') ∧
          (∀ point ∈ Text.ofString path,
            (Percent.isUnreserved point || point = CodePoint.ofChar '/') = true) ∧
          Address.withoutDots path = path := by
    decide +kernel
  obtain ⟨isRooted, points, noDots⟩ := checked path isDocumented
  exact ⟨List.head?_eq_some_iff.mp isRooted, points, noDots⟩

/-! ## Requests that post -/

/-- A text that may be absent. -/
def Value.ofText? (content : Option Text) : Value :=
  (content.map Value.text).getD .null

/-- A call of an endpoint that posts, with arguments as they are documented. -/
inductive PostingCall where
  | authenticate (username password : Text) (clientToken : Option Text) (requestUser : Bool)
  | refresh (accessToken : Text) (clientToken : Option Text) (requestUser : Bool)
  | validate (accessToken : Text) (clientToken : Option Text)
  | signOut (username password : Text)
  | invalidate (accessToken : Text) (clientToken : Option Text)
  | join (accessToken profileId serverHash : Text)

namespace PostingCall

/-- The request of a call to a server. -/
def request (server : Text) : PostingCall → Request
  | .authenticate username password clientToken requestUser =>
      (Endpoint.authenticate (.text server) (.text username) (.text password)
        (.ofText? clientToken) (.bool requestUser)).request
  | .refresh accessToken clientToken requestUser =>
      (Endpoint.refresh (.text server) (.text accessToken) (.ofText? clientToken)
        (.bool requestUser)).request
  | .validate accessToken clientToken =>
      (Endpoint.validate (.text server) (.text accessToken) (.ofText? clientToken)).request
  | .signOut username password =>
      (Endpoint.signOut (.text server) (.text username) (.text password)).request
  | .invalidate accessToken clientToken =>
      (Endpoint.invalidate (.text server) (.text accessToken) (.ofText? clientToken)).request
  | .join accessToken profileId serverHash =>
      (Endpoint.join (.text server) (.text accessToken) (.text profileId)
        (.text serverHash)).request

/-- The documented path of a call. -/
def path : PostingCall → String
  | .authenticate .. =>
      "/authenticate"
  | .refresh .. =>
      "/refresh"
  | .validate .. =>
      "/validate"
  | .signOut .. =>
      "/signout"
  | .invalidate .. =>
      "/invalidate"
  | .join .. =>
      "/session/minecraft/join"

/-- The documented members of what a call posts. -/
def members : PostingCall → List (String × Value)
  | .authenticate username password clientToken requestUser => [
      ("agent", Endpoint.object [("name", Value.ofString "Minecraft"), ("version", .int 1)]),
      ("username", .text username),
      ("password", .text password),
      ("clientToken", .ofText? clientToken),
      ("requestUser", .bool requestUser)]
  | .refresh accessToken clientToken requestUser => [
      ("accessToken", .text accessToken),
      ("clientToken", .ofText? clientToken),
      ("requestUser", .bool requestUser)]
  | .validate accessToken clientToken =>
      ("accessToken", .text accessToken) ::
        clientToken.toList.map fun content => ("clientToken", .text content)
  | .signOut username password => [
      ("username", .text username),
      ("password", .text password)]
  | .invalidate accessToken clientToken => [
      ("accessToken", .text accessToken),
      ("clientToken", .ofText? clientToken)]
  | .join accessToken profileId serverHash => [
      ("accessToken", .text accessToken),
      ("selectedProfile", .text profileId),
      ("serverId", .text serverHash)]

/-- The texts among the arguments of a call. -/
def texts : PostingCall → List Text
  | .authenticate username password clientToken _ =>
      username :: password :: clientToken.toList
  | .refresh accessToken clientToken _ =>
      accessToken :: clientToken.toList
  | .validate accessToken clientToken =>
      accessToken :: clientToken.toList
  | .signOut username password =>
      [username, password]
  | .invalidate accessToken clientToken =>
      accessToken :: clientToken.toList
  | .join accessToken profileId serverHash =>
      [accessToken, profileId, serverHash]

/-- All texts among the arguments are texts of scalar values. -/
def IsScalar (call : PostingCall) : Prop :=
  ∀ content ∈ call.texts, content.IsScalar

/-- Every call posts its documented members to its documented path. -/
theorem request_eq (server : Text) (call : PostingCall) :
    call.request server = Endpoint.postObject (.text server) call.path call.members := by
  cases call with
  | validate accessToken clientToken =>
      cases clientToken <;> rfl
  | _ =>
      rfl

end PostingCall

theorem Json.isReadBack_endpointObject
    {depth : Nat}
    {members : List (String × Value)}
    (areReadBack : ∀ member ∈ members, IsReadBack depth member.2)
    (someMembers : members ≠ [])
    (distinct : (members.map fun member => Text.ofString member.1).Nodup) :
    IsReadBack (depth + 1) (Endpoint.object members) := by
  have textual :
      Endpoint.object members =
        .mapping (entriesOf (members.map fun member => (Text.ofString member.1, member.2))) := by
    rw [entriesOf, List.map_map]
    rfl
  rw [textual]
  refine isReadBack_object ?_ (fun isEmpty => someMembers (List.map_eq_nil_iff.mp isEmpty)) ?_
  · intro entry isEntry
    obtain ⟨member, isMember, rfl⟩ := List.mem_map.mp isEntry
    exact ⟨Text.isScalar_ofString member.1, areReadBack member isMember⟩
  · rw [List.map_map]
    exact distinct

theorem Json.isReadBack_ofText?
    {content : Option Text}
    (isScalar : ∀ given ∈ content.toList, given.IsScalar)
    (depth : Nat) :
    IsReadBack depth (.ofText? content) := by
  cases content with
  | none =>
      exact isReadBack_null depth
  | some given =>
      exact isReadBack_text (isScalar given List.mem_cons_self) depth

namespace PostingCall

theorem isReadBack_agent : Json.IsReadBack 1 Endpoint.agent := by
  refine Json.isReadBack_endpointObject (fun member isMember => ?_) (List.cons_ne_nil _ _)
    (by decide)
  rcases List.mem_cons.mp isMember with rfl | isVersion
  · exact Json.isReadBack_text (Text.isScalar_ofString _) 0
  · rw [List.mem_singleton.mp isVersion]
    exact Json.isReadBack_digit (by decide) 0

/-- What a call posts is read back member by member. -/
theorem isReadBack_members {call : PostingCall} (isScalar : call.IsScalar) :
    ∀ member ∈ call.members, Json.IsReadBack 1 member.2 := by
  intro member isMember
  cases call with
  | authenticate username password clientToken requestUser =>
      have tokenScalar : ∀ given ∈ clientToken.toList, given.IsScalar := fun given isToken =>
        isScalar given (List.mem_cons_of_mem _ (List.mem_cons_of_mem _ isToken))
      simp only [members, List.mem_cons, List.not_mem_nil, or_false] at isMember
      rcases isMember with rfl | rfl | rfl | rfl | rfl
      · exact isReadBack_agent
      · exact Json.isReadBack_text (isScalar username List.mem_cons_self) 1
      · exact Json.isReadBack_text
          (isScalar password (List.mem_cons_of_mem _ List.mem_cons_self)) 1
      · exact Json.isReadBack_ofText? tokenScalar 1
      · exact Json.isReadBack_bool requestUser 1
  | refresh accessToken clientToken requestUser =>
      simp only [members, List.mem_cons, List.not_mem_nil, or_false] at isMember
      rcases isMember with rfl | rfl | rfl
      · exact Json.isReadBack_text (isScalar accessToken List.mem_cons_self) 1
      · exact Json.isReadBack_ofText?
          (fun given isToken => isScalar given (List.mem_cons_of_mem _ isToken)) 1
      · exact Json.isReadBack_bool requestUser 1
  | validate accessToken clientToken =>
      rcases List.mem_cons.mp isMember with rfl | isToken
      · exact Json.isReadBack_text (isScalar accessToken List.mem_cons_self) 1
      · obtain ⟨given, isGiven, rfl⟩ := List.mem_map.mp isToken
        exact Json.isReadBack_text (isScalar given (List.mem_cons_of_mem _ isGiven)) 1
  | signOut username password =>
      simp only [members, List.mem_cons, List.not_mem_nil, or_false] at isMember
      rcases isMember with rfl | rfl
      · exact Json.isReadBack_text (isScalar username List.mem_cons_self) 1
      · exact Json.isReadBack_text
          (isScalar password (List.mem_cons_of_mem _ List.mem_cons_self)) 1
  | invalidate accessToken clientToken =>
      simp only [members, List.mem_cons, List.not_mem_nil, or_false] at isMember
      rcases isMember with rfl | rfl
      · exact Json.isReadBack_text (isScalar accessToken List.mem_cons_self) 1
      · exact Json.isReadBack_ofText?
          (fun given isToken => isScalar given (List.mem_cons_of_mem _ isToken)) 1
  | join accessToken profileId serverHash =>
      simp only [members, List.mem_cons, List.not_mem_nil, or_false] at isMember
      rcases isMember with rfl | rfl | rfl
      · exact Json.isReadBack_text (isScalar accessToken List.mem_cons_self) 1
      · exact Json.isReadBack_text
          (isScalar profileId (List.mem_cons_of_mem _ List.mem_cons_self)) 1
      · exact Json.isReadBack_text (isScalar serverHash
          (List.mem_cons_of_mem _ (List.mem_cons_of_mem _ List.mem_cons_self))) 1

theorem members_distinct (call : PostingCall) :
    (call.members.map fun member => Text.ofString member.1).Nodup := by
  cases call with
  | validate accessToken clientToken =>
      cases clientToken with
      | none =>
          exact List.nodup_cons.mpr ⟨List.not_mem_nil, List.nodup_nil⟩
      | some content =>
          have distinct : (["accessToken", "clientToken"].map Text.ofString).Nodup := by decide
          exact distinct
  | authenticate username password clientToken requestUser =>
      have distinct :
          (["agent", "username", "password", "clientToken", "requestUser"].map
            Text.ofString).Nodup := by
        decide
      exact distinct
  | refresh accessToken clientToken requestUser =>
      have distinct : (["accessToken", "clientToken", "requestUser"].map Text.ofString).Nodup := by
        decide
      exact distinct
  | signOut username password =>
      have distinct : (["username", "password"].map Text.ofString).Nodup := by decide
      exact distinct
  | invalidate accessToken clientToken =>
      have distinct : (["accessToken", "clientToken"].map Text.ofString).Nodup := by decide
      exact distinct
  | join accessToken profileId serverHash =>
      have distinct : (["accessToken", "selectedProfile", "serverId"].map Text.ofString).Nodup := by
        decide
      exact distinct

theorem members_ne_nil (call : PostingCall) : call.members ≠ [] := by
  cases call <;> exact List.cons_ne_nil _ _

theorem path_mem (call : PostingCall) : call.path ∈ documentedPaths := by
  cases call <;> simp only [path, documentedPaths, List.mem_cons, true_or, or_true]

section Exchange

variable
  {call : PostingCall}
  (timeout : Value)
  (userAgent : Option Text)
  (replies : List Reply)
  (console : Console)

/-- A call posts its members to where its path on the server is, if that can be reached. -/
theorem exchange_posts (isScalar : call.IsScalar) (server : Text) :
    let exchange := (Transport.web timeout userAgent).exchange (call.request server) replies console
    match Address.reached (server ++ Text.ofString call.path) .null with
    | .ok url =>
        ∃ request,
          exchange.sent = some (.web request) ∧ request.url = url ∧ request.Posts call.members
    | .error _ =>
        exchange.sent = none := by
  obtain ⟨body, document⟩ :=
    Json.isReadBack_endpointObject (isReadBack_members isScalar) call.members_ne_nil
      call.members_distinct
  have written :
      WebRequest.bodyOf (Endpoint.postObject (.text server) call.path call.members) =
        .ok (some body) :=
    congrArg (Except.map some) document.isWritten
  have withoutParameters :
      WebRequest.parametersOf (Endpoint.postObject (.text server) call.path call.members) = .null :=
    rfl
  have prepared :=
    WebRequest.ofRequest_eq timeout userAgent (some body)
      (Endpoint.postObject (.text server) call.path call.members)
      (server ++ Text.ofString call.path) Request.jsonContentType rfl rfl
  rw [withoutParameters] at prepared
  simp only [Transport.exchange_sent, request_eq, Transport.handedOver?, written, prepared]
  cases Address.reached (server ++ Text.ofString call.path) .null with
  | error fault =>
      rfl
  | ok url =>
      refine ⟨_, rfl, rfl, rfl, rfl, body, rfl, ?_, document.readBytes (by decide)⟩
      intro point member
      exact Nat.lt_of_le_of_lt (document.isPlain point member).2 (by decide)

end Exchange

end PostingCall

/-! ## The question about a join -/

/-- The documented fields of a question about a join. -/
def joinFields (username serverHash : Text) (address : Option Text) : List (Text × Text) :=
  [(Text.ofString "username", username), (Text.ofString "serverId", serverHash)] ++
    address.toList.map fun given => (Text.ofString "ip", given)

theorem joinParameters_eq (username serverHash : Text) (address : Option Text) :
    Endpoint.object
        (Endpoint.joinParameters (.text username) (.text serverHash) (.ofText? address)) =
      .mapping ((joinFields username serverHash address).map fun entry =>
        (.text entry.1, .text entry.2)) := by
  cases address <;> rfl

theorem joinFields_areScalar
    {username serverHash : Text}
    {address : Option Text}
    (areScalar : ∀ content ∈ username :: serverHash :: address.toList, content.IsScalar) :
    Query.AreScalar (joinFields username serverHash address) := by
  intro entry isEntry
  rcases List.mem_append.mp isEntry with isFront | isAddress
  · simp only [List.mem_cons, List.not_mem_nil, or_false] at isFront
    rcases isFront with rfl | rfl
    · exact ⟨Text.isScalar_ofString _, areScalar username List.mem_cons_self⟩
    · exact ⟨Text.isScalar_ofString _,
        areScalar serverHash (List.mem_cons_of_mem _ List.mem_cons_self)⟩
  · obtain ⟨given, isGiven, rfl⟩ := List.mem_map.mp isAddress
    exact ⟨Text.isScalar_ofString _,
      areScalar given (List.mem_cons_of_mem _ (List.mem_cons_of_mem _ isGiven))⟩

/-- The session server unless another one is configured, as a server. -/
def defaultSessionServer : Address.Server where
  isSecure := true
  host := "sessionserver.mojang.com"
  port := none
  hasHost := by decide
  hostPoints := by decide
  isAsked := by decide
  portBound := Address.Server.portBound_none

theorem defaultSessionServer_text :
    Endpoint.defaultSessionServer = .text defaultSessionServer.text ∧
      defaultSessionServer.usualText = defaultSessionServer.text := by
  constructor
  · rfl
  · decide +kernel

/-- A question about a join asks with exactly its fields in the query. -/
theorem hasJoined_asks
    {username serverHash : Text}
    {address : Option Text}
    (areScalar : ∀ content ∈ username :: serverHash :: address.toList, content.IsScalar)
    (server : Address.Server)
    (timeout : Value)
    (userAgent : Option Text)
    (replies : List Reply)
    (console : Console) :
    let question :=
      (Endpoint.hasJoined (.text server.text) (.text username) (.text serverHash)
        (.ofText? address)).request
    ∃ request,
      ((Transport.web timeout userAgent).exchange question replies console).sent =
          some (.web request) ∧
        request.Asks (server.usualText ++ ("/session/minecraft/hasJoined" : Text))
          (joinFields username serverHash address) := by
  intro question
  have isPlainPath : Address.IsPlainPath ("/session/minecraft/hasJoined" : Text) :=
    isPlainPath_documented (by decide)
  have someFields : joinFields username serverHash address ≠ [] := List.cons_ne_nil _ _
  obtain ⟨query, decoded, reached⟩ :=
    server.reached_fields isPlainPath someFields (joinFields_areScalar areScalar)
  have prepared :=
    WebRequest.ofRequest_eq timeout userAgent none question
      (server.text ++ ("/session/minecraft/hasJoined" : Text)) .null rfl rfl
  have withFields :
      WebRequest.parametersOf question =
        .mapping ((joinFields username serverHash address).map fun entry =>
          (.text entry.1, .text entry.2)) :=
    joinParameters_eq username serverHash address
  rw [withFields, reached] at prepared
  have noBody : WebRequest.bodyOf question = .ok none := rfl
  rw [Transport.exchange_sent, Transport.handedOver?, noBody]
  simp only [prepared]
  exact ⟨_, rfl, rfl, rfl, query, rfl, decoded⟩

/--
What goes to a server is the documented request: a call that posts does so once, to
its path on the server it is given, with its documented members as JSON in ASCII,
and a question about a join asks once, with exactly its fields in the query.

A call whose server makes up no address that can be reached sends nothing; a web
scheme and a host always make up one, in which at most the case of letters differs.
-/
theorem documented_requests
    (timeout : Value)
    (userAgent : Option Text)
    (replies : List Reply)
    (console : Console) :
    let exchange (request : Request) :=
      (Transport.web timeout userAgent).exchange request replies console
    (∀ call : PostingCall, call.IsScalar →
      (∀ server : Text,
        match Address.reached (server ++ Text.ofString call.path) .null with
        | .ok url =>
            ∃ request,
              (exchange (call.request server)).sent = some (.web request) ∧
                request.url = url ∧ request.Posts call.members
        | .error _ =>
            (exchange (call.request server)).sent = none) ∧
      ∀ server : Address.Server,
        server.usualText.asciiLowercase = server.text.asciiLowercase ∧
          ∃ request,
            (exchange (call.request server.text)).sent = some (.web request) ∧
              request.url = server.usualText ++ Text.ofString call.path ∧
              request.Posts call.members) ∧
    ∀ (username serverHash : Text) (address : Option Text),
      (∀ content ∈ username :: serverHash :: address.toList, content.IsScalar) →
      ∃ request url,
        Endpoint.defaultSessionServer = .text url ∧
          (exchange (Endpoint.hasJoined Endpoint.defaultSessionServer (.text username)
            (.text serverHash) (.ofText? address)).request).sent = some (.web request) ∧
          request.Asks (url ++ ("/session/minecraft/hasJoined" : Text))
            (joinFields username serverHash address) := by
  intro exchange
  constructor
  · intro call isScalar
    have posts := call.exchange_posts timeout userAgent replies console isScalar
    refine ⟨posts, fun server => ⟨server.asciiLowercase_usualText, ?_⟩⟩
    have noParameters : Query.ofParameters false .null = .ok [] := rfl
    have reached :=
      server.reached_text (isPlainPath_documented call.path_mem) noParameters .nil
    have sent := posts server.text
    simp only [reached] at sent
    obtain ⟨request, isSent, isUrl, isPosted⟩ := sent
    exact ⟨request, isSent, by rw [isUrl]; exact List.append_nil _, isPosted⟩
  · intro username serverHash address areScalar
    obtain ⟨isDefault, isUsual⟩ := defaultSessionServer_text
    obtain ⟨request, isSent, asks⟩ :=
      hasJoined_asks areScalar defaultSessionServer timeout userAgent replies console
    rw [isUsual] at asks
    rw [isDefault]
    exact ⟨request, _, rfl, isSent, asks⟩

/-- Marks that separate the parts of documents and of queries are sent as parts of texts. -/
theorem documented_requests_marks :
    let exchange (request : Request) :=
      (Transport.web (.int 10) none).exchange request [] { isDebugging := false, printed := [] }
    let login := PostingCall.authenticate "ma\"x" "50% & more" none true
    (∃ request,
      (exchange (login.request defaultSessionServer.text)).sent = some (.web request) ∧
        request.url = defaultSessionServer.usualText ++ Text.ofString login.path ∧
        request.Posts login.members) ∧
      ∃ request url,
        Endpoint.defaultSessionServer = .text url ∧
          (exchange (Endpoint.hasJoined Endpoint.defaultSessionServer (.text "a&b=c d")
            (.text "-1") (.ofText? (some "1.2.3.4"))).request).sent = some (.web request) ∧
          request.Asks (url ++ ("/session/minecraft/hasJoined" : Text))
            (joinFields "a&b=c d" "-1" (some "1.2.3.4")) := by
  intro exchange login
  obtain ⟨posts, asks⟩ :=
    documented_requests (.int 10) none [] { isDebugging := false, printed := [] }
  have loginScalar : login.IsScalar := by
    intro content isText
    simp only [login, PostingCall.texts, Option.toList_none, List.mem_cons, List.not_mem_nil,
      or_false] at isText
    rcases isText with rfl | rfl <;> exact Text.isScalar_ofString _
  refine ⟨((posts login loginScalar).2 defaultSessionServer).2, asks _ _ _ ?_⟩
  intro content isText
  simp only [Option.toList_some, List.mem_cons, List.not_mem_nil, or_false] at isText
  rcases isText with rfl | rfl | rfl <;> exact Text.isScalar_ofString _

end SessionHandshake
