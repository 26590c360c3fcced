import SessionHandshake.Endpoint.Authentication
import SessionHandshake.Endpoint.Joining
import SessionHandshake.Proofs.Outcome

namespace SessionHandshake

/-!
# Reading answers

An endpoint other than the check of a token makes a result of a body only, so
whoever has a result has been answered.  The tokens and the profile of an answer
are exactly what its members say, once these have been found in order.
-/

namespace Endpoint

/-- An endpoint that makes nothing of a request without an answer but a fault. -/
def NeedsBody {Result : Type} (endpoint : Endpoint Result) : Prop :=
  ∀ fault result, endpoint.read (.error fault) ≠ .ok result

theorem needsBody_authenticate (server username password clientToken requestUser : Value) :
    (authenticate server username password clientToken requestUser).NeedsBody := by
  intro fault result read
  cases fault <;> cases read

theorem needsBody_refresh (server accessToken clientToken requestUser : Value) :
    (refresh server accessToken clientToken requestUser).NeedsBody := by
  intro fault result read
  cases fault <;> cases read

theorem needsBody_signOut (server username password : Value) :
    (signOut server username password).NeedsBody := by
  intro fault result read
  cases fault <;> cases read

theorem needsBody_invalidate (server accessToken clientToken : Value) :
    (invalidate server accessToken clientToken).NeedsBody := by
  intro fault result read
  cases read

theorem needsBody_join (server accessToken profileId serverHash : Value) :
    (join server accessToken profileId serverHash).NeedsBody := by
  intro fault result read
  cases fault with
  | transport message status body cause =>
      simp only [join] at read
      split at read <;> cases read
  | _ =>
      cases read

theorem needsBody_hasJoined (server username serverHash address : Value) :
    (hasJoined server username serverHash address).NeedsBody := by
  intro fault result read
  cases read

end Endpoint

namespace Answer

variable {report : AnswerFault} {entries : List (Value × Value)}

theorem require_eq_ok_iff {name : String} {value : Value} :
    require report entries name = .ok value ↔ Value.member? entries name = some value := by
  unfold require
  cases Value.member? entries name <;> simp

theorem checkAccessToken_eq_ok_iff {token : Value} :
    checkAccessToken report token = .ok () ↔ ∃ content, token = .text content ∧ content ≠ [] := by
  constructor
  · intro checked
    unfold checkAccessToken at checked
    split at checked
    · next first rest =>
        exact ⟨first :: rest, rfl, List.cons_ne_nil first rest⟩
    · cases checked
  · rintro ⟨content, rfl, notEmpty⟩
    cases content with
    | nil =>
        exact (notEmpty rfl).elim
    | cons first rest =>
        rfl

theorem checkClientToken_eq_ok_iff {token : Value} :
    checkClientToken report token = .ok () ↔ ∃ content, token = .text content := by
  constructor
  · intro checked
    unfold checkClientToken at checked
    split at checked
    · next content =>
        exact ⟨content, rfl⟩
    · cases checked
  · rintro ⟨content, rfl⟩
    rfl

/-- The tokens of an answer are two texts, of which the access token is not empty. -/
theorem tokens_eq_ok_iff {requestUser : Value} {issued : Tokens} :
    tokens report entries requestUser = .ok issued ↔
      ∃ accessToken clientToken,
        Value.member? entries "accessToken" = some (.text accessToken) ∧
        accessToken ≠ [] ∧
        Value.member? entries "clientToken" = some (.text clientToken) ∧
        issued = {
          accessToken := .text accessToken
          clientToken := .text clientToken
          requestUser := requestUser
        } := by
  simp only [tokens, bind_eq_ok_iff, pure_eq_ok_iff, require_eq_ok_iff]
  constructor
  · rintro ⟨access, accessFound, client, clientFound, _, accessChecked, _, clientChecked, rfl⟩
    obtain ⟨accessToken, rfl, notEmpty⟩ := checkAccessToken_eq_ok_iff.mp accessChecked
    obtain ⟨clientToken, rfl⟩ := checkClientToken_eq_ok_iff.mp clientChecked
    exact ⟨accessToken, clientToken, accessFound, notEmpty, clientFound, rfl⟩
  · rintro ⟨accessToken, clientToken, access, notEmpty, client, rfl⟩
    exact ⟨_, access, _, client,
      (), checkAccessToken_eq_ok_iff.mpr ⟨accessToken, rfl, notEmpty⟩,
      (), checkClientToken_eq_ok_iff.mpr ⟨clientToken, rfl⟩, rfl⟩

end Answer

namespace Endpoint

/-- The access token of a renewal is a text that is not empty. -/
theorem refresh_accessToken
    {server accessToken clientToken requestUser body : Value}
    {issued : Tokens}
    {profile : Option Profile}
    (read :
      (refresh server accessToken clientToken requestUser).read (.ok body) =
        .ok (issued, profile)) :
    ∃ content, issued.accessToken = .text content ∧ content ≠ [] := by
  simp only [refresh, bind_eq_ok_iff, pure_eq_ok_iff] at read
  obtain ⟨entries, _, tokens, found, selected, _, same⟩ := read
  cases same
  obtain ⟨content, _, _, notEmpty, _, rfl⟩ := Answer.tokens_eq_ok_iff.mp found
  exact ⟨content, rfl, notEmpty⟩

end Endpoint

end SessionHandshake
