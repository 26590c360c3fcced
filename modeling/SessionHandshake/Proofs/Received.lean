import SessionHandshake.Proofs.Wire

namespace SessionHandshake

/-!
# Requests as they are received

What a request says is read off the request itself, in the form in which it has been
handed over: its address, the object that it posts, and the parameters that it adds to its
address.  Nothing here refers to how an endpoint puts a request together.
-/

/-- An object, given by its members. -/
def Value.ofMembers (members : List (String × Value)) : Value :=
  .mapping (members.map fun member => (Value.ofString member.1, member.2))

namespace Json

/-- A value that its document gives back, with objects nested only so deep. -/
inductive IsPlain : Nat → Value → Prop where
  | null (depth : Nat) :
      IsPlain depth .null
  | bool (truth : Bool) (depth : Nat) :
      IsPlain depth (.bool truth)
  | digit {digit : Nat} (small : digit < 10) (depth : Nat) :
      IsPlain depth (.int digit)
  | text {content : Text} (isScalar : content.IsScalar) (depth : Nat) :
      IsPlain depth (.text content)
  | object {members : List (String × Value)} {depth : Nat} :
      (∀ member ∈ members, IsPlain depth member.2) →
      members ≠ [] →
      (members.map fun member => Text.ofString member.1).Nodup →
      IsPlain (depth + 1) (.ofMembers members)

theorem IsPlain.isReadBack {depth : Nat} {value : Value} (isPlain : IsPlain depth value) :
    IsReadBack depth value := by
  induction isPlain with
  | null depth =>
      exact isReadBack_null depth
  | bool truth depth =>
      exact isReadBack_bool truth depth
  | digit small depth =>
      exact isReadBack_digit small depth
  | text isScalar depth =>
      exact isReadBack_text isScalar depth
  | object _ someMembers distinct inductionHypothesis =>
      exact isReadBack_endpointObject inductionHypothesis someMembers distinct

/-- A plain value is what is read from the document that is written of it. -/
theorem IsPlain.readBytes
    {depth : Nat}
    {value : Value}
    {written : Text}
    (isPlain : IsPlain depth value)
    (notTooDeep : depth ≤ deepestNesting)
    (isWritten : write value = .ok written) :
    readBytes (written.flatMap CodePoint.utf8) = .ok value := by
  obtain ⟨document, isDocument⟩ := isPlain.isReadBack
  cases isWritten.symm.trans isDocument.isWritten
  exact isDocument.readBytes notTooDeep

end Json

namespace SentRequest

/--
A request that posts an object to an address.

What goes over the web keeps an address that is a path on a server, up to the case of
letters, and carries the object as a document, which gives it back if its members are plain.
-/
inductive Posts (url : Text) (members : List (String × Value)) : SentRequest → Prop where
  | direct :
      Posts url members
        (.direct (.post (.text url) (.ofMembers members) (Value.ofString "application/json")))
  | web {request : WebRequest} {body : Text} :
      request.method = ("POST" : Text) →
      request.contentType = Value.ofString "application/json" →
      Address.reached url .null = .ok request.url →
      (∀ (server : Address.Server) (path : Text),
        url = server.text ++ path →
        Address.IsPlainPath path →
        request.url = server.usualText ++ path) →
      request.body = some body →
      Json.write (.ofMembers members) = .ok body →
      ((∀ member ∈ members, Json.IsPlain 1 member.2) →
        Json.readBytes (body.flatMap CodePoint.utf8) = .ok (.ofMembers members)) →
      Posts url members (.web request)

/--
A request that asks at an address, with parameters.

What goes over the web has the parameters in its address.  There they can be read in the
query if they are texts and the address is a path on a server.
-/
inductive Asks (url : Text) (parameters : List (String × Value)) : SentRequest → Prop where
  | direct :
      Asks url parameters (.direct (.get (.text url) (.ofMembers parameters)))
  | web {request : WebRequest} :
      request.method = ("GET" : Text) →
      request.body = none →
      Address.reached url (.ofMembers parameters) = .ok request.url →
      (∀ (server : Address.Server) (path : Text) (fields : List (Text × Text)),
        url = server.text ++ path →
        Address.IsPlainPath path →
        Value.ofMembers parameters =
          .mapping (fields.map fun field => (.text field.1, .text field.2)) →
        fields ≠ [] →
        Query.AreScalar fields →
        request.Asks (server.usualText ++ path) fields) →
      Asks url parameters (.web request)

section HandedOver

variable {transport : Transport} {url : Text} {handed : SentRequest}

/-- What a transport hands over to be posted is received so. -/
theorem posts_of_handedOver
    {members : List (String × Value)}
    (names : List String)
    (areNamed : members.map Prod.fst = names)
    (someNames : names ≠ [])
    (distinct : (names.map Text.ofString).Nodup)
    (given :
      transport.handedOver?
          (.post (.text url) (.ofMembers members) (Value.ofString "application/json")) =
        some handed) :
    handed.Posts url members := by
  cases transport with
  | direct =>
      cases given
      exact .direct
  | web timeout userAgent =>
      cases isWritten : Json.write (.ofMembers members) with
      | error fault =>
          simp only [Transport.handedOver?, WebRequest.bodyOf, isWritten] at given
          cases given
      | ok body =>
          have prepared :=
            WebRequest.ofRequest_eq timeout userAgent (some body)
              (.post (.text url) (.ofMembers members) (Value.ofString "application/json"))
              url (Value.ofString "application/json") rfl rfl
          simp only [Transport.handedOver?, WebRequest.bodyOf, isWritten, Except.map, prepared,
            WebRequest.parametersOf] at given
          cases reached : Address.reached url .null with
          | error fault =>
              rw [reached] at given
              cases given
          | ok final =>
              rw [reached] at given
              cases given
              refine .web rfl rfl reached ?_ rfl isWritten ?_
              · intro server path isPath isPlainPath
                have noParameters : Query.ofParameters false .null = .ok [] := rfl
                rw [isPath, server.reached_text isPlainPath noParameters .nil] at reached
                cases reached
                exact List.append_nil _
              · intro arePlain
                rw [← areNamed] at someNames distinct
                rw [List.map_map] at distinct
                have isPlain :=
                  Json.IsPlain.object arePlain (fun isNil => someNames (isNil ▸ rfl)) distinct
                exact isPlain.readBytes (by decide) isWritten

/-- What a transport hands over to be asked is received so. -/
theorem asks_of_handedOver
    {parameters : List (String × Value)}
    (given :
      transport.handedOver? (.get (.text url) (.ofMembers parameters)) = some handed) :
    handed.Asks url parameters := by
  cases transport with
  | direct =>
      cases given
      exact .direct
  | web timeout userAgent =>
      have prepared :=
        WebRequest.ofRequest_eq timeout userAgent none
          (.get (.text url) (.ofMembers parameters)) url .null rfl rfl
      simp only [Transport.handedOver?, WebRequest.bodyOf, prepared,
        WebRequest.parametersOf] at given
      cases reached : Address.reached url (.ofMembers parameters) with
      | error fault =>
          rw [reached] at given
          cases given
      | ok final =>
          rw [reached] at given
          cases given
          refine .web rfl rfl reached fun server path fields isPath isPlainPath areFields
            someFields areScalar => ?_
          obtain ⟨query, decoded, same⟩ := server.reached_fields isPlainPath someFields areScalar
          rw [isPath, areFields] at reached
          cases reached.symm.trans same
          exact ⟨rfl, rfl, query, rfl, decoded⟩

end HandedOver

/-! ## What the session server is told and asked -/

/-- The session server is told that a player joins with a hash. -/
def TellsOfJoin (server accessToken profileId serverHash : Value) (handed : SentRequest) : Prop :=
  handed.Posts (server.shown ++ ("/session/minecraft/join" : Text)) [
    ("accessToken", accessToken),
    ("selectedProfile", profileId),
    ("serverId", serverHash)]

/-- The session server is asked whether a player has joined with a hash. -/
def AsksAboutJoin (server username serverHash address : Value) (handed : SentRequest) : Prop :=
  handed.Asks (server.shown ++ ("/session/minecraft/hasJoined" : Text))
    ([("username", username), ("serverId", serverHash)] ++
      if address.isNull then [] else [("ip", address)])

theorem tellsOfJoin_of_handedOver
    {transport : Transport}
    {server accessToken profileId serverHash : Value}
    {handed : SentRequest}
    (given :
      transport.handedOver? (Endpoint.join server accessToken profileId serverHash).request =
        some handed) :
    handed.TellsOfJoin server accessToken profileId serverHash :=
  posts_of_handedOver ["accessToken", "selectedProfile", "serverId"] rfl (by decide) (by decide)
    given

theorem asksAboutJoin_of_handedOver
    {transport : Transport}
    {server username serverHash address : Value}
    {handed : SentRequest}
    (given :
      transport.handedOver? (Endpoint.hasJoined server username serverHash address).request =
        some handed) :
    handed.AsksAboutJoin server username serverHash address :=
  asks_of_handedOver given

end SentRequest

end SessionHandshake
