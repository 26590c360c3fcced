import Mathlib.Data.List.Forall2
import SessionHandshake.Console
import SessionHandshake.Endpoint.Authentication
import SessionHandshake.Endpoint.Joining
import SessionHandshake.Proofs.Document
import SessionHandshake.Proofs.Entries
import SessionHandshake.Proofs.Masking
import SessionHandshake.Proofs.Outcome
import SessionHandshake.Session.Server

namespace SessionHandshake

/-!
# What is seen of a token

A mask leaves nothing of an access token but its last four characters.  Answers
that differ in an access token behind the mask are read alike: what they bring
differs in the token alone, and the faults that they lead to look the same.
-/

/-! ## Tokens behind a mask -/

/-- Two texts longer than what a mask leaves visible, of which it leaves the same. -/
structure Text.EndsAlike (one other : Text) : Prop where
  isLong : 4 < one.length
  otherIsLong : 4 < other.length
  sameEnd : one.drop (one.length - 4) = other.drop (other.length - 4)

/-- Two tokens that are the same, or texts that a mask shows alike. -/
inductive Value.MaskedAlike : Value → Value → Prop where
  | same (token : Value) :
      MaskedAlike token token
  | texts {content otherContent : Text} :
      content.EndsAlike otherContent →
      MaskedAlike (.text content) (.text otherContent)

theorem Value.MaskedAlike.mask {one other : Value} (alike : one.MaskedAlike other) :
    Console.mask one (.int Console.visibleCharacters) =
      Console.mask other (.int Console.visibleCharacters) := by
  cases alike with
  | same token =>
      rfl
  | @texts content otherContent endsAlike =>
      have masked :
          Console.maskText content Console.visibleCharacters =
            Console.maskText otherContent Console.visibleCharacters :=
        (Console.maskText_eq_iff_of_rtake endsAlike.isLong endsAlike.otherIsLong
          endsAlike.sameEnd).mpr (.inl (by decide))
      exact congrArg Except.ok masked

/-! ## Mappings that hold a token -/

/-- Two entries that are the same, or both a token under a key. -/
inductive EntryAlike (key : Text) : Value × Value → Value × Value → Prop where
  | same (entry : Value × Value) :
      EntryAlike key entry entry
  | token {token otherToken : Value} :
      token.MaskedAlike otherToken →
      EntryAlike key (.text key, token) (.text key, otherToken)

/-- Two mappings that differ in nothing but a token under a key. -/
def EntriesAlike (key : Text) (one other : List (Value × Value)) : Prop :=
  List.Forall₂ (EntryAlike key) one other

namespace EntriesAlike

variable
  {key : Text}
  {one other : List (Value × Value)}

theorem refl (key : Text) (entries : List (Value × Value)) : EntriesAlike key entries entries :=
  List.forall₂_same.mpr fun entry _ => .same entry

/-- What is found under a key is the same, or a token that is masked alike. -/
theorem find? (alike : EntriesAlike key one other) (wanted : Value) :
    Option.Rel Value.MaskedAlike (Value.find? wanted one) (Value.find? wanted other) := by
  induction alike with
  | nil =>
      exact .none
  | cons entries _ inductionHypothesis =>
      cases entries with
      | same entry =>
          rw [Value.find?, Value.find?]
          split
          · exact .some (.same _)
          · exact inductionHypothesis
      | token tokens =>
          rw [Value.find?, Value.find?]
          split
          · exact .some tokens
          · exact inductionHypothesis

theorem find?_of_ne (alike : EntriesAlike key one other) {wanted : Text} (isOther : wanted ≠ key) :
    Value.find? (.text wanted) one = Value.find? (.text wanted) other := by
  induction alike with
  | nil =>
      rfl
  | cons entries _ inductionHypothesis =>
      cases entries with
      | same entry =>
          rw [Value.find?, Value.find?, inductionHypothesis]
      | token tokens =>
          rw [Value.find?, Value.find?, Value.same_text_of_ne isOther, inductionHypothesis]
          rfl

/-- What is set in both mappings is the same in both. -/
theorem insert (alike : EntriesAlike key one other) (wanted value : Value) :
    EntriesAlike key (Value.insert wanted value one) (Value.insert wanted value other) := by
  induction alike with
  | nil =>
      exact .refl key _
  | cons entries rest inductionHypothesis =>
      cases entries with
      | same =>
          rw [Value.insert, Value.insert]
          split
          · exact .cons (.same _) rest
          · exact .cons (.same _) inductionHypothesis
      | token tokens =>
          rw [Value.insert, Value.insert]
          split
          · exact .cons (.same _) rest
          · exact .cons (.token tokens) inductionHypothesis

end EntriesAlike

/-! ## Bodies that bring a token -/

/-- The name under which an answer brings an access token. -/
def accessTokenName : Text := "accessToken"

/-- Two bodies that are the same, or documents of objects that differ in an access token. -/
inductive Value.BodiesAlike : Value → Value → Prop where
  | same (body : Value) :
      BodiesAlike body body
  | objects {content otherContent : Bytes} {entries otherEntries : List (Value × Value)} :
      Json.readBytes content = .ok (.mapping entries) →
      Json.readBytes otherContent = .ok (.mapping otherEntries) →
      EntriesAlike accessTokenName entries otherEntries →
      BodiesAlike (.bytes content) (.bytes otherContent)

namespace Json

/-- White space that is none between tokens begins no value. -/
theorem readValue_of_blank
    {fuel levels : Nat}
    {first : CodePoint}
    (isBlankByte : isAsciiBlank first.value = true)
    (notBlank : isBlank first = false)
    (rest : Text) :
    readValue (fuel + 1) levels (first :: rest) = .error malformed := by
  -- A vertical tab and a form feed are white space to the bytes of a body, but not to JSON.
  have isEither : first.value = 0x0b ∨ first.value = 0x0c := by
    simp only [isAsciiBlank, isBlank, Bool.or_eq_true, Bool.and_eq_true, decide_eq_true_eq,
      Bool.or_eq_false_iff, decide_eq_false_iff_not] at isBlankByte notBlank
    omega
  rcases isEither with isLine | isForm
  · have isPoint := CodePoint.ofNat_value first
    rw [isLine] at isPoint
    rw [← isPoint]
    rfl
  · have isPoint := CodePoint.ofNat_value first
    rw [isForm] at isPoint
    rw [← isPoint]
    rfl

theorem read_of_blank {text : Text} (areBlank : ∀ point ∈ text, isAsciiBlank point.value = true) :
    read text = .error malformed := by
  have left :
      readValue (2 * text.length + 1) deepestNesting (skipBlanks text) = .error malformed := by
    cases isLeft : skipBlanks text with
    | nil =>
        rfl
    | cons first rest =>
        have member : first ∈ text := by
          refine (List.dropWhile_sublist isBlank).subset ?_
          rw [skipBlanks] at isLeft
          rw [isLeft]
          exact List.mem_cons_self
        have notBlank : isBlank first = false := by
          have head := List.head?_dropWhile_not isBlank text
          rw [skipBlanks] at isLeft
          rw [isLeft] at head
          simpa using head
        exact readValue_of_blank (areBlank first member) notBlank rest
  rw [read, left]

/-- Bytes of nothing but white space are no document. -/
theorem readBytes_of_blank
    {content : Bytes}
    (areBlank : ∀ byte ∈ content, isAsciiBlank byte.toNat = true)
    (value : Value) :
    readBytes content ≠ .ok value := by
  let text : Text := content.map fun byte => CodePoint.ofNat byte.toNat
  have small (byte : UInt8) (member : byte ∈ content) :
      0 < byte.toNat ∧ byte.toNat < 0x80 ∧ (CodePoint.ofNat byte.toNat).value = byte.toNat := by
    have isBlank := areBlank byte member
    simp only [isAsciiBlank, Bool.or_eq_true, Bool.and_eq_true, decide_eq_true_eq] at isBlank
    exact ⟨by omega, by omega, CodePoint.value_ofNat_of_lt (by omega)⟩
  have points : ∀ point ∈ text, ∃ byte ∈ content, point.value = byte.toNat := by
    intro point member
    obtain ⟨byte, isByte, rfl⟩ := List.mem_map.mp member
    exact ⟨byte, isByte, (small byte isByte).2.2⟩
  have isScalar : text.IsScalar := by
    intro point member
    obtain ⟨byte, isByte, same⟩ := points point member
    have bound := (small byte isByte).2.1
    exact CodePoint.isScalar_iff.mpr (.inl (by omega))
  have encoded : text.flatMap CodePoint.utf8 = content := by
    rw [List.flatMap_map]
    refine (List.flatMap_congr fun byte member => ?_).trans (List.flatMap_singleton' content)
    obtain ⟨_, isAscii, value⟩ := small byte member
    rw [CodePoint.utf8, value, if_pos isAscii, UInt8.ofNat_toNat]
  have isUtf8 : Encoding.detect content = .utf8 0 := by
    refine Encoding.detect_of_ascii (fun byte member => (small byte member).2.1) ?_
    rintro byte member rfl
    exact absurd (small 0 member).1 (by decide)
  have isText : Text.ofEncoded? (.utf8 0) content = some text := by
    rw [Text.ofEncoded?, List.drop_zero, ← encoded]
    exact Text.ofUtf8?_flatMap_utf8 true isScalar
  have isMalformed : read text = .error malformed := by
    refine read_of_blank fun point member => ?_
    obtain ⟨byte, isByte, same⟩ := points point member
    rw [same]
    exact areBlank byte isByte
  rw [readBytes, isUtf8, isText]
  simp only [isMalformed]
  intro isOk
  cases isOk

end Json

namespace Value.BodiesAlike

variable {one other : Value} (alike : one.BodiesAlike other)
include alike

theorem length?_isNone : one.length?.isNone = other.length?.isNone := by
  cases alike <;> rfl

/-- A document is never blank, so both bodies are blank or neither is. -/
theorem isBlankBody : one.isBlankBody = other.isBlankBody := by
  have notBlank {content : Bytes} {value : Value} (read : Json.readBytes content = .ok value) :
      (Value.bytes content).isBlankBody = .ok false := by
    refine congrArg Except.ok (Bool.eq_false_iff.mpr fun areBlank => ?_)
    exact Json.readBytes_of_blank (List.all_eq_true.mp areBlank) value read
  cases alike with
  | same body =>
      rfl
  | objects read otherRead _ =>
      rw [notBlank read, notBlank otherRead]

/-- Both bodies hold objects that differ in an access token, or neither holds an object. -/
theorem members (report : AnswerFault) :
    OutcomesAlike Eq (EntriesAlike accessTokenName) (Answer.members report one)
      (Answer.members report other) := by
  cases alike with
  | same body =>
      exact .self (fun _ => rfl) fun entries _ => .refl _ entries
  | @objects content otherContent entries otherEntries read otherRead entriesAlike =>
      have found {content : Bytes} {entries : List (Value × Value)}
          (read : Json.readBytes content = .ok (.mapping entries)) :
          Answer.members report (.bytes content) = .ok entries := by
        have readBody : Json.readBody (.bytes content) = .ok (.mapping entries) := read
        rw [Answer.members, readBody]
      rw [found read, found otherRead]
      exact .ok entriesAlike

/-- What a body says about a refusal is not said by an access token. -/
theorem details : RefusalDetails.ofBody one = RefusalDetails.ofBody other := by
  cases alike with
  | same body =>
      rfl
  | @objects content otherContent entries otherEntries read otherRead entriesAlike =>
      have found {content : Bytes} {entries : List (Value × Value)}
          (read : Json.readBytes content = .ok (.mapping entries)) :
          RefusalDetails.ofBody (.bytes content) = .ok (RefusalDetails.ofMembers entries) := by
        have readBody : Json.readBody (.bytes content) = .ok (.mapping entries) := read
        rw [RefusalDetails.ofBody, RefusalDetails.members, readBody]
        rfl
      have error : Value.member? entries "error" = Value.member? otherEntries "error" :=
        entriesAlike.find?_of_ne (by decide)
      have errorMessage :
          Value.member? entries "errorMessage" = Value.member? otherEntries "errorMessage" :=
        entriesAlike.find?_of_ne (by decide)
      rw [found read, found otherRead, RefusalDetails.ofMembers, RefusalDetails.ofMembers, error,
        errorMessage]

end Value.BodiesAlike

/-! ## Faults that look the same -/

namespace Fault

/-- All that a fault shows: neither its cause nor the body of a failed request is part of it. -/
def face : Fault → Fault
  | .transport message status _ _ =>
      .transport message status .null none
  | .malformedResponse problem _ =>
      .malformedResponse problem none
  | .randomSource problem _ =>
      .randomSource problem none
  | .invalidPublicKey problem _ =>
      .invalidPublicKey problem none
  | .encryptionFailed problem _ =>
      .encryptionFailed problem none
  | .refused refusal reason details _ =>
      .refused refusal reason details none
  | other =>
      other

/-- Two faults that look the same to whoever is shown their kind and their wording. -/
def LooksAlike (one other : Fault) : Prop :=
  one.face = other.face

theorem isUnanswered_face (fault : Fault) : fault.face.isUnanswered = fault.isUnanswered := by
  cases fault <;> rfl

/-- Two faults that are the same, or failed requests whose answers differ in an access token. -/
inductive DeliveredAlike : Fault → Fault → Prop where
  | same (fault : Fault) :
      DeliveredAlike fault fault
  | transport {body otherBody : Value} (message : Text) (status : Value) (cause : Option Fault) :
      body.BodiesAlike otherBody →
      DeliveredAlike (.transport message status body cause)
        (.transport message status otherBody cause)

theorem DeliveredAlike.looksAlike {one other : Fault} (alike : one.DeliveredAlike other) :
    one.LooksAlike other := by
  cases alike <;> rfl

theorem looksAlike_refusedOnAccountOf
    {body otherBody : Value}
    (bodies : body.BodiesAlike otherBody)
    (refusal : Refusal)
    (reason : RefusalReason)
    (cause otherCause : Option Fault) :
    LooksAlike (refusedOnAccountOf refusal reason body cause)
      (refusedOnAccountOf refusal reason otherBody otherCause) := by
  unfold refusedOnAccountOf
  rw [bodies.details]
  cases RefusalDetails.ofBody otherBody <;> rfl

end Fault

/-! ## Reading answers alike -/

theorem Option.rel_of_eq {Part : Type} {one other : Option Part} (same : one = other) :
    Option.Rel Eq one other := by
  subst same
  cases one with
  | none =>
      exact .none
  | some part =>
      exact .some rfl

/-- Two pairs of tokens that differ in nothing but an access token behind a mask. -/
structure Tokens.MaskedAlike (one other : Tokens) : Prop where
  accessToken : one.accessToken.MaskedAlike other.accessToken
  clientToken : one.clientToken = other.clientToken
  requestUser : one.requestUser = other.requestUser

theorem Tokens.MaskedAlike.refl (tokens : Tokens) : tokens.MaskedAlike tokens :=
  ⟨.same _, rfl, rfl⟩

theorem Tokens.MaskedAlike.shown {one other : Tokens} (alike : one.MaskedAlike other) :
    one.shown = other.shown := by
  rw [Tokens.shown, Tokens.shown, alike.clientToken, alike.requestUser]

theorem Answer.tokens_alike
    {one other : List (Value × Value)}
    (alike : EntriesAlike accessTokenName one other)
    (report : AnswerFault)
    (requestUser : Value) :
    OutcomesAlike Eq Tokens.MaskedAlike (tokens report one requestUser)
      (tokens report other requestUser) := by
  have access :
      OutcomesAlike Eq Value.MaskedAlike (require report one "accessToken")
        (require report other "accessToken") := by
    have found := alike.find? (Value.ofString "accessToken")
    unfold require Value.member?
    revert found
    generalize Value.find? (Value.ofString "accessToken") one = token
    generalize Value.find? (Value.ofString "accessToken") other = otherToken
    intro found
    cases found with
    | none =>
        exact .error rfl
    | some tokens =>
        exact .ok tokens
  have client : require report one "clientToken" = require report other "clientToken" := by
    have found : Value.member? one "clientToken" = Value.member? other "clientToken" :=
      alike.find?_of_ne (by decide)
    rw [require, require, found]
  have checked {token otherToken : Value} (tokens : token.MaskedAlike otherToken) :
      checkAccessToken report token = checkAccessToken report otherToken := by
    cases tokens with
    | same token =>
        rfl
    | @texts content otherContent endsAlike =>
        have isLong := endsAlike.isLong
        have otherIsLong := endsAlike.otherIsLong
        cases content with
        | nil =>
            cases isLong
        | cons _ _ =>
            cases otherContent with
            | nil =>
                cases otherIsLong
            | cons _ _ =>
                rfl
  unfold tokens
  refine access.bind fun {token otherToken} tokensAlike => ?_
  rw [client, checked tokensAlike]
  refine .bind_self (fun _ => rfl) fun clientToken => ?_
  refine .bind_self (fun _ => rfl) fun _ => ?_
  refine .bind_self (fun _ => rfl) fun _ => ?_
  exact .ok ⟨tokensAlike, rfl, rfl⟩

/-- Two endpoints make what is alike of answers that differ in an access token. -/
def Endpoint.ShowsAlike {First Second : Type}
    (results : First → Second → Prop)
    (one : Endpoint First)
    (other : Endpoint Second) : Prop :=
  ∀ {delivered otherDelivered},
    OutcomesAlike Fault.DeliveredAlike Value.BodiesAlike delivered otherDelivered →
    OutcomesAlike Fault.LooksAlike results (one.read delivered) (other.read otherDelivered)

theorem Fault.LooksAlike.of_eq {one other : Fault} (same : one = other) : one.LooksAlike other :=
  congrArg face same

namespace Endpoint

variable
  {server username password otherPassword clientToken otherClientToken requestUser : Value}
  {accessToken otherAccessToken profileId serverHash otherServerHash address : Value}

theorem selectedProfile_alike
    {one other : List (Value × Value)}
    (alike : EntriesAlike accessTokenName one other) :
    loginProfile one = loginProfile other ∧ renewedProfile one = renewedProfile other := by
  have selected : Value.member? one "selectedProfile" = Value.member? other "selectedProfile" :=
    alike.find?_of_ne (by decide)
  constructor
  · rw [loginProfile, loginProfile, selected]
  · rw [renewedProfile, renewedProfile, selected]

theorem showsAlike_authenticate :
    ShowsAlike (fun one other => one.1.MaskedAlike other.1 ∧ one.2 = other.2)
      (authenticate server username password clientToken requestUser)
      (authenticate server username otherPassword otherClientToken requestUser) := by
  intro delivered otherDelivered alike
  cases alike with
  | ok bodies =>
      refine OutcomesAlike.mono (?_ : OutcomesAlike Eq _ _ _) Fault.LooksAlike.of_eq id
      refine (bodies.members _).bind fun entries => ?_
      refine (Answer.tokens_alike entries _ requestUser).bind fun tokens => ?_
      rw [(selectedProfile_alike entries).1]
      exact .bind_self (fun _ => rfl) fun _ => .ok ⟨tokens, rfl⟩
  | error faults =>
      cases faults with
      | same fault =>
          exact .self (fun _ => rfl) fun result _ => ⟨.refl result.1, rfl⟩
      | transport message status cause bodies =>
          exact .error (Fault.looksAlike_refusedOnAccountOf bodies _ _ _ _)

theorem showsAlike_refresh :
    ShowsAlike (fun one other => one.1.MaskedAlike other.1 ∧ Option.Rel Eq one.2 other.2)
      (refresh server accessToken clientToken requestUser)
      (refresh server otherAccessToken clientToken requestUser) := by
  intro delivered otherDelivered alike
  cases alike with
  | ok bodies =>
      refine OutcomesAlike.mono (?_ : OutcomesAlike Eq _ _ _) Fault.LooksAlike.of_eq id
      refine (bodies.members _).bind fun entries => ?_
      refine (Answer.tokens_alike entries _ requestUser).bind fun tokens => ?_
      rw [(selectedProfile_alike entries).2]
      exact .bind_self (fun _ => rfl) fun _ => .ok ⟨tokens, Option.rel_of_eq rfl⟩
  | error faults =>
      cases faults with
      | same fault =>
          exact .self (fun _ => rfl) fun result _ => ⟨.refl result.1, Option.rel_of_eq rfl⟩
      | transport message status cause bodies =>
          exact .error (Fault.looksAlike_refusedOnAccountOf bodies _ _ _ _)

theorem showsAlike_validate :
    ShowsAlike Eq (validate server accessToken clientToken)
      (validate server otherAccessToken clientToken) := by
  intro delivered otherDelivered alike
  cases alike with
  | ok bodies =>
      exact .ok rfl
  | error faults =>
      cases faults with
      | same fault =>
          exact .self (fun _ => rfl) fun _ _ => rfl
      | transport message status cause bodies =>
          simp only [validate]
          split
          · exact .ok rfl
          · exact .error rfl

theorem showsAlike_signOut :
    ShowsAlike (fun _ _ => True) (signOut server username password)
      (signOut server username otherPassword) := by
  intro delivered otherDelivered alike
  cases alike with
  | ok bodies =>
      exact .ok trivial
  | error faults =>
      cases faults with
      | same fault =>
          exact .self (fun _ => rfl) fun _ _ => trivial
      | transport message status cause bodies =>
          exact .error (Fault.looksAlike_refusedOnAccountOf bodies _ _ _ _)

theorem showsAlike_invalidate :
    ShowsAlike (fun _ _ => True) (invalidate server accessToken clientToken)
      (invalidate server otherAccessToken clientToken) := by
  intro delivered otherDelivered alike
  cases alike with
  | ok bodies =>
      exact .ok trivial
  | error faults =>
      exact .error faults.looksAlike

/-- The fault of a refused join looks the same whatever it was raised on account of. -/
theorem joinFault_alike
    {body otherBody : Value}
    (bodies : body.BodiesAlike otherBody)
    (status : Value)
    (cause otherCause : Option Fault) :
    OutcomesAlike Eq Fault.LooksAlike (joinFault status body cause)
      (joinFault status otherBody otherCause) := by
  unfold joinFault
  rw [bodies.details]
  refine .bind_self (fun _ => rfl) fun details => ?_
  refine .bind_self (fun _ => rfl) fun refusal => ?_
  cases refusal with
  | none =>
      exact .ok rfl
  | some refusal =>
      exact .ok rfl

theorem showsAlike_join :
    ShowsAlike (fun _ _ => True) (join server accessToken profileId serverHash)
      (join server otherAccessToken profileId otherServerHash) := by
  intro delivered otherDelivered alike
  cases alike with
  | ok bodies =>
      exact .ok trivial
  | error faults =>
      cases faults with
      | same fault =>
          exact .self (fun _ => rfl) fun _ _ => trivial
      | @transport body otherBody message status cause bodies =>
          have raised :=
            joinFault_alike bodies status (some (.transport message status body cause))
              (some (.transport message status otherBody cause))
          simp only [join]
          revert raised
          generalize joinFault status body (some (.transport message status body cause)) = fault
          generalize joinFault status otherBody (some (.transport message status otherBody cause)) =
            otherFault
          intro raised
          cases raised with
          | ok looksAlike =>
              exact .error looksAlike
          | error same =>
              exact .error (.of_eq same)

/-- The profile of an answer about a join has nothing to do with an access token. -/
theorem hasJoined_read_alike
    {faults : Fault → Fault → Prop}
    {delivered otherDelivered : Except Fault Value}
    (sameFault : ∀ fault, faults fault fault)
    (alike : OutcomesAlike faults Value.BodiesAlike delivered otherDelivered) :
    OutcomesAlike faults (Option.Rel Eq)
      ((hasJoined server username serverHash address).read delivered)
      ((hasJoined server username otherServerHash address).read otherDelivered) := by
  have weaker {one other : Fault} (same : one = other) : faults one other :=
    same ▸ sameFault one
  cases alike with
  | ok bodies =>
      refine OutcomesAlike.mono (?_ : OutcomesAlike Eq _ _ _) weaker id
      simp only [hasJoined, bodies.isBlankBody]
      refine .bind_self (fun _ => rfl) fun isBlank => ?_
      cases isBlank with
      | true =>
          exact .ok .none
      | false =>
          refine (bodies.members _).bind fun {one other} entries => ?_
          have profile : Profile.ofAnswer (.mapping one) = Profile.ofAnswer (.mapping other) := by
            have id : Value.member? one "id" = Value.member? other "id" :=
              entries.find?_of_ne (by decide)
            have name : Value.member? one "name" = Value.member? other "name" :=
              entries.find?_of_ne (by decide)
            have properties : Value.member? one "properties" = Value.member? other "properties" :=
              entries.find?_of_ne (by decide)
            simp only [Profile.ofAnswer, Profile.require, id, name, properties]
          rw [profile]
          exact .bind_self (fun _ => rfl) fun _ => .ok (.some rfl)
  | error faults =>
      exact .error faults

end Endpoint

end SessionHandshake
