import SessionHandshake.Proofs.Appearance
import SessionHandshake.Proofs.Question
import SessionHandshake.Proofs.Transport

namespace SessionHandshake

/-!
# Exchanges side by side

Two requests over one transport that differ only in what they keep to themselves,
answered by replies that differ only in an access token: both are handed over or
neither is, their outcomes are alike, and the same is printed about them.
-/

/-! ## Payloads -/

/-- Two values that are both written as JSON, or neither of them for one reason. -/
def Json.WrittenAlike (one other : Value) : Prop :=
  OutcomesAlike Eq (fun _ _ => True) (Json.write one) (Json.write other)

/-- Two values that are the same, or are both texts. -/
inductive Value.TextsAlike : Value → Value → Prop where
  | same (value : Value) :
      TextsAlike value value
  | texts (content otherContent : Text) :
      TextsAlike (.text content) (.text otherContent)

theorem Value.MaskedAlike.textsAlike {one other : Value} (alike : one.MaskedAlike other) :
    one.TextsAlike other := by
  cases alike with
  | same token =>
      exact .same _
  | texts _ =>
      exact .texts _ _

namespace Json

theorem WrittenAlike.refl (value : Value) : WrittenAlike value value :=
  .self (fun _ => rfl) fun _ _ => trivial

theorem writtenAlike_of_textsAlike {one other : Value} (alike : one.TextsAlike other) :
    WrittenAlike one other := by
  cases alike with
  | same value =>
      exact .refl _
  | texts content otherContent =>
      rw [WrittenAlike, write, write]
      exact .ok trivial

/-- Two members of objects under one name whose values are written alike. -/
structure MembersAlike (one other : String × Value) : Prop where
  name : one.1 = other.1
  value : WrittenAlike one.2 other.2

theorem MembersAlike.refl (member : String × Value) : MembersAlike member member :=
  ⟨rfl, .refl member.2⟩

/-- Objects are written alike if their members are. -/
theorem writtenAlike_object
    {members otherMembers : List (String × Value)}
    (alike : List.Forall₂ MembersAlike members otherMembers) :
    WrittenAlike (Endpoint.object members) (Endpoint.object otherMembers) := by
  have written :
      OutcomesAlike Eq (fun _ _ => True)
        (writeMembers (members.map fun member => (Value.ofString member.1, member.2)))
        (writeMembers (otherMembers.map fun member => (Value.ofString member.1, member.2))) := by
    induction alike with
    | nil =>
        exact .self (fun _ => rfl) fun _ _ => trivial
    | @cons member otherMember rest otherRest membersAlike _ inductionHypothesis =>
        rw [List.map_cons, List.map_cons, writeMembers, writeMembers, membersAlike.name]
        refine .bind_self (fun _ => rfl) fun _ => ?_
        refine membersAlike.value.bind fun _ => ?_
        exact inductionHypothesis.bind fun _ => .ok trivial
  rw [WrittenAlike, Endpoint.object, Endpoint.object, write, write]
  exact written.bind fun _ => .ok trivial

end Json

/-! ## Requests -/

/-- Two requests to one address that a transport can hand over both, or neither of them. -/
structure Request.AskedAlike (faults : Fault → Fault → Prop) (one other : Request) : Prop where
  method : one.method = other.method
  url : one.url = other.url
  written : OutcomesAlike Eq (fun _ _ => True) (WebRequest.bodyOf one) (WebRequest.bodyOf other)
  prepared :
    ∀ timeout userAgent body otherBody,
      OutcomesAlike
        (fun first second =>
          faults (Transport.reported one first) (Transport.reported other second))
        (fun _ _ => True)
        (WebRequest.ofRequest timeout userAgent body one)
        (WebRequest.ofRequest timeout userAgent otherBody other)

theorem Transport.reported_eq
    {one other : Request}
    (sameMethod : one.method = other.method)
    (sameUrl : one.url = other.url) :
    reported one = reported other := by
  funext fault
  cases fault with
  | unreachable message =>
      rw [reported, reported, failedRequest, failedRequest, sameMethod, sameUrl]
  | _ =>
      rfl

/-- Objects posted to one address are handed over alike if their members are written alike. -/
theorem Request.askedAlike_post
    {faults : Fault → Fault → Prop}
    (sameFault : ∀ fault, faults fault fault)
    {server : Value}
    {path : String}
    {members otherMembers : List (String × Value)}
    (alike : List.Forall₂ Json.MembersAlike members otherMembers) :
    AskedAlike faults (Endpoint.postObject server path members)
      (Endpoint.postObject server path otherMembers) where
  method := rfl
  url := rfl
  written := (Json.writtenAlike_object alike).map fun _ => trivial
  prepared := by
    intro timeout userAgent body otherBody
    have isPrepared (body : Option Text) (members : List (String × Value)) :=
      WebRequest.ofRequest_eq timeout userAgent body (Endpoint.postObject server path members)
        (server.shown ++ Text.ofString path) Request.jsonContentType rfl rfl
    rw [isPrepared, isPrepared]
    refine OutcomesAlike.map (?_ : OutcomesAlike _ Eq _ _) fun _ => trivial
    refine .refl (fun fault => ?_) _
    rw [Transport.reported_eq rfl rfl]
    exact sameFault _

/-- Two faults that are the same, or both say that the session server gave no usable answer. -/
inductive Fault.UnansweredAlike : Fault → Fault → Prop where
  | same (fault : Fault) :
      UnansweredAlike fault fault
  | unanswered {one other : Fault} :
      one.isUnanswered = true →
      other.isUnanswered = true →
      UnansweredAlike one other

/-- Questions about two hashes are handed over alike. -/
theorem Request.askedAlike_hasJoined
    (server username address : Value)
    {hash otherHash : Text}
    (isScalar : hash.IsScalar)
    (otherIsScalar : otherHash.IsScalar) :
    AskedAlike Fault.UnansweredAlike
      (Endpoint.hasJoined server username (.text hash) address).request
      (Endpoint.hasJoined server username (.text otherHash) address).request where
  method := rfl
  url := rfl
  written := .ok trivial
  prepared := by
    intro timeout userAgent body otherBody
    have isPrepared (body : Option Text) (hash : Text) :=
      WebRequest.ofRequest_eq timeout userAgent body
        (Endpoint.hasJoined server username (.text hash) address).request
        (server.shown ++ Text.ofString "/session/minecraft/hasJoined") .null rfl rfl
    rw [isPrepared, isPrepared]
    have reached :=
      Address.reached_alike (server.shown ++ Text.ofString "/session/minecraft/hasJoined")
        username address isScalar otherIsScalar
    refine (reached.mono (fun faults => ?_) id).map fun _ => trivial
    cases faults with
    | same fault =>
        rw [Transport.reported_eq rfl rfl]
        exact .same _
    | unreachable message otherMessage =>
        exact .unanswered rfl rfl

/-! ## Replies -/

/-- Two replies that differ in an access token alone, and in no length that would be printed. -/
inductive Reply.ShownAlike (isDebugging : Bool) : Reply → Reply → Prop where
  | same (reply : Reply) :
      ShownAlike isDebugging reply reply
  | answered {body otherBody : Value} (status : Int) :
      body.BodiesAlike otherBody →
      (isDebugging = true → body.length? = otherBody.length?) →
      ShownAlike isDebugging (.answered status body) (.answered status otherBody)

namespace Transport

section Replies

variable
  {reply otherReply : Reply}
  {console : Console}
  (replies : reply.ShownAlike console.isDebugging otherReply)
include replies

/-- The same is printed about both replies. -/
theorem replyReported_alike : replyReported console reply = replyReported console otherReply := by
  cases replies with
  | same reply =>
      rfl
  | @answered body otherBody status bodies lengths =>
      cases isDebugging : console.isDebugging with
      | true =>
          rw [replyReported, replyReported, lengths isDebugging]
      | false =>
          have hidden (body : Value) : replyReported console (.answered status body) = console := by
            rw [replyReported]
            split
            · exact Console.report_debug_of_quiet isDebugging _
            · rfl
          rw [hidden, hidden]

theorem directOutcome_alike :
    OutcomesAlike Fault.DeliveredAlike Value.BodiesAlike (directOutcome reply)
      (directOutcome otherReply) := by
  cases replies with
  | same reply =>
      exact .self .same fun body _ => .same body
  | answered status bodies _ =>
      rw [directOutcome, directOutcome]
      split
      · exact .ok bodies
      · exact .error (.transport _ _ _ bodies)

theorem webOutcome_alike
    {one other : Request}
    (sameMethod : one.method = other.method)
    (sameUrl : one.url = other.url) :
    OutcomesAlike Fault.DeliveredAlike Value.BodiesAlike (webOutcome one reply)
      (webOutcome other otherReply) := by
  have sameReport := reported_eq sameMethod sameUrl
  cases replies with
  | same reply =>
      cases reply with
      | failed fault =>
          rw [webOutcome, webOutcome, sameReport]
          exact .error (.same _)
      | answered status body =>
          rw [webOutcome, webOutcome, refusedRequest, refusedRequest, sameMethod, sameUrl]
          exact .self .same fun body _ => .same body
  | answered status bodies _ =>
      rw [webOutcome, webOutcome, bodies.length?_isNone, refusedRequest, refusedRequest, sameMethod,
        sameUrl]
      split
      · exact .error (.same _)
      · split
        · exact .ok bodies
        · exact .error (.transport _ _ _ bodies)

end Replies

/-- Requests that are handed over alike have outcomes that are alike, and print the same. -/
theorem exchange_alike
    {faults : Fault → Fault → Prop}
    (weaker : ∀ {first second : Fault}, first.DeliveredAlike second → faults first second)
    {one other : Request}
    (asked : Request.AskedAlike faults one other)
    (transport : Transport)
    (console : Console)
    {replies otherReplies : List Reply}
    (alike : List.Forall₂ (Reply.ShownAlike console.isDebugging) replies otherReplies) :
    let exchange := transport.exchange one replies console
    let otherExchange := transport.exchange other otherReplies console
    OutcomesAlike faults Value.BodiesAlike exchange.outcome otherExchange.outcome ∧
      List.Forall₂ (Reply.ShownAlike console.isDebugging) exchange.replies
        otherExchange.replies ∧
      exchange.console = otherExchange.console := by
  have next :
      (replies.head?.getD Reply.nothing).ShownAlike console.isDebugging
        (otherReplies.head?.getD Reply.nothing) := by
    cases alike with
    | nil =>
        exact .same _
    | cons first _ =>
        exact first
  have left :
      List.Forall₂ (Reply.ShownAlike console.isDebugging)
        (replies.drop 1) (otherReplies.drop 1) := by
    cases alike with
    | nil =>
        exact .nil
    | cons _ rest =>
        exact rest
  cases transport with
  | direct =>
      exact ⟨(directOutcome_alike next).mono weaker id, left, rfl⟩
  | web timeout userAgent =>
      have sameLine : requestLine one = requestLine other := by
        rw [requestLine, requestLine, asked.method, asked.url]
      simp only [exchange, webExchange]
      have written := asked.written
      revert written
      generalize WebRequest.bodyOf one = body
      generalize WebRequest.bodyOf other = otherBody
      intro written
      cases written with
      -- A payload that cannot be written is not sent, and no reply is used up.
      | error same =>
          subst same
          exact ⟨.error (weaker (.same _)), alike, rfl⟩
      | @ok body otherBody _ =>
          have prepared := asked.prepared timeout userAgent body otherBody
          simp only [sameLine]
          revert prepared
          generalize WebRequest.ofRequest timeout userAgent body one = sent
          generalize WebRequest.ofRequest timeout userAgent otherBody other = otherSent
          intro prepared
          cases prepared with
          | error reported =>
              exact ⟨.error reported, alike, rfl⟩
          | ok _ =>
              refine ⟨(webOutcome_alike next asked.method asked.url).mono weaker id, left, ?_⟩
              refine replyReported_alike ?_
              rw [Console.report_isDebugging]
              exact next

end Transport

end SessionHandshake
