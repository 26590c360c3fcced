import SessionHandshake.Proofs.Session.Failure
import SessionHandshake.Proofs.Session.Handshake
import SessionHandshake.Proofs.Session.Turn

namespace SessionHandshake

/-!
# Secrets of connection attempts

A secret belongs to one attempt to connect.  It is stored when it is drawn or when
a join with it succeeds, and given up when a join fails, when the tokens are
renewed and when the session starts over.  What a response offers is therefore a
secret of its own attempt.
-/

variable {before after : Situation} {call : SessionCall} {outcome : Except Fault SessionResult}

/-- A call with some outcome has stored a secret. -/
inductive StoresSecret (before : Situation) :
    SessionCall → Except Fault SessionResult → Value → Prop where
  | created {secret : Value} :
      StoresSecret before .createSharedSecret (.ok (.secret secret)) secret
  /-- A response without a secret draws one, which is kept even if its encryption fails. -/
  | drawn
      {publicKey verifyToken : Value} {drawn : Bytes} {outcome : Except Fault SessionResult} :
      before.session.sharedSecret = none →
      before.DrawsSecret drawn →
      StoresSecret before (.encryptionResponse publicKey verifyToken) outcome (.bytes drawn)
  | joined {serverId secret publicKey : Value} {result : SessionResult} :
      StoresSecret before (.join serverId secret publicKey) (.ok result) secret

/-- A call with some outcome has given up the secret of the session. -/
inductive GivesUpSecret (before : Situation) :
    SessionCall → Except Fault SessionResult → Prop where
  | joinFailed {serverId secret publicKey : Value} {fault : Fault} :
      before.session.state = .authenticated →
      GivesUpSecret before (.join serverId secret publicKey) (.error fault)
  | refreshed {requestUser : Value} {outcome : Except Fault SessionResult} :
      before.session.state = .authenticated ∨ before.session.state = .joined →
      GivesUpSecret before (.refresh requestUser) outcome
  | invalidated {result : SessionResult} :
      GivesUpSecret before .invalidate (.ok result)
  | signedOut {username password : Value} {result : SessionResult} :
      GivesUpSecret before (.signOut username password) (.ok result)

namespace SessionStep

/-- A secret that is stored is the one that the session has then. -/
theorem sharedSecret_of_stores
    {secret : Value}
    (step : SessionStep before call outcome after)
    (stores : StoresSecret before call outcome secret) :
    after.session.sharedSecret = some secret := by
  cases stores with
  | created =>
      cases step with
      | secretDrawn _ leads =>
          rw [leads.session_eq]
  | @drawn _ _ drawn _ missing draws =>
      have isDrawn := Situation.drawsSecret_iff.mp draws
      have offered :
          ∀ {offer : Value}, before.OffersSecret offer → offer = .bytes drawn := by
        intro offer offers
        rcases offers with held | ⟨_, other, otherDrawn, rfl⟩
        · cases missing.symm.trans held
        · cases isDrawn.symm.trans otherDrawn
          rfl
      cases step with
      | refused gated _ =>
          cases gated
      | responseUndrawn _ undrawn _ =>
          cases isDrawn.symm.trans undrawn
      | responseFailed offers leads =>
          rw [leads.session_eq, offered offers]
      | responded offers _ leads =>
          rw [leads.session_eq, offered offers]
  | joined =>
      cases step with
      | joined _ _ _ _ _ leads =>
          rw [leads.session_eq]

/-- A session that has given up its secret has none. -/
theorem sharedSecret_of_givesUp
    (step : SessionStep before call outcome after)
    (givesUp : GivesUpSecret before call outcome) :
    after.session.sharedSecret = none := by
  cases givesUp with
  | joinFailed isAuthenticated =>
      cases step with
      | refused gated impossible =>
          cases gated
          rw [isAuthenticated] at impossible
          cases impossible (List.mem_singleton_self _)
      | joinFailed _ leads =>
          rw [leads.session_eq]
  | refreshed possible =>
      cases step with
      | refused gated impossible =>
          cases gated
          cases impossible (Situation.withTokens_iff.mpr possible)
      | renewalFailed _ leads =>
          rw [leads.session_eq]
          rfl
      | renewed _ _ _ leads =>
          rw [leads.session_eq]
  | invalidated =>
      cases step with
      | invalidated _ leads =>
          rw [leads.session_eq]
          rfl
  | signedOut =>
      cases step with
      | signedOut _ _ leads =>
          rw [leads.session_eq]
          rfl

/-- A call that neither stores a secret nor gives one up leaves it as it was. -/
theorem sharedSecret_of_leaves
    (step : SessionStep before call outcome after)
    (unstored : ∀ secret, ¬ StoresSecret before call outcome secret)
    (kept : ¬ GivesUpSecret before call outcome) :
    after.session.sharedSecret = before.session.sharedSecret := by
  -- A response that has drawn nothing offers what the session had before.
  have held :
      ∀ {publicKey verifyToken secret : Value},
        (∀ other,
          ¬ StoresSecret before (.encryptionResponse publicKey verifyToken) outcome other) →
        before.OffersSecret secret →
        some secret = before.session.sharedSecret := by
    intro publicKey verifyToken secret unstored offers
    rcases offers with held | ⟨missing, drawn, isDrawn, _⟩
    · exact held.symm
    · exact (unstored _ (.drawn missing (Situation.drawsSecret_iff.mpr isDrawn))).elim
  cases step with
  | refused _ _ =>
      rfl
  | secretDrawn _ _ =>
      exact (unstored _ .created).elim
  | responseFailed offers leads =>
      rw [leads.session_eq]
      exact held unstored offers
  | responded offers _ leads =>
      rw [leads.session_eq]
      exact held unstored offers
  | joinFailed isAuthenticated _ =>
      exact (kept (.joinFailed isAuthenticated)).elim
  | joined _ _ _ _ _ _ =>
      exact (unstored _ .joined).elim
  | renewalFailed possible _ =>
      exact (kept (.refreshed (Situation.withTokens_iff.mp possible))).elim
  | renewed possible _ _ _ =>
      exact (kept (.refreshed (Situation.withTokens_iff.mp possible))).elim
  | invalidated _ _ =>
      exact (kept .invalidated).elim
  | signedOut _ _ _ =>
      exact (kept .signedOut).elim
  | _ =>
      next leads =>
        rw [leads.session_eq]

end SessionStep

/-- The custody of the secret of a session. -/
def Custody.ofSecret : Custody Value where
  Stores := fun turn secret => StoresSecret turn.before turn.call turn.outcome secret
  GivesUp := fun turn => GivesUpSecret turn.before turn.call turn.outcome

theorem Custody.ofSecret_governs : Custody.ofSecret.Governs Session.sharedSecret where
  stored := fun turn _ stores => turn.step.sharedSecret_of_stores stores
  givenUp := fun turn givesUp => turn.step.sharedSecret_of_givesUp givesUp
  left := fun turn leaves => turn.step.sharedSecret_of_leaves leaves.unstored leaves.kept

namespace Situation

variable {start : Situation}

/-- A session that has just been made has no secret. -/
theorem Begins.sharedSecret_eq (begins : start.Begins) : start.session.sharedSecret = none := by
  cases begins with
  | created config transport surroundings =>
      rfl
  | restored surroundings restored =>
      simp only [Session.restore, bind_eq_ok_iff, pure_eq_ok_iff] at restored
      obtain ⟨⟨tokens, profile⟩, _, line, _, same⟩ := restored
      cases same
      rfl

/-- The secret of a response has been drawn by the very call that gives it. -/
def DrawsFor (before : Situation) (secret : Value) (after : Situation) : Prop :=
  before.session.sharedSecret = none ∧
    after.surroundings.drawn = before.surroundings.drawn ++ [.int 16] ∧
    ∃ drawn, before.DrawsSecret drawn ∧ secret = .bytes drawn

/-- A response offers a secret that its call has drawn, or one that the session had. -/
theorem offered_of_responded
    {publicKey verifyToken : Value}
    {response : EncryptionResponse}
    (step :
      SessionStep before (.encryptionResponse publicKey verifyToken) (.ok (.response response))
        after) :
    before.DrawsFor response.sharedSecret after ∨
      before.session.sharedSecret = some response.sharedSecret := by
  cases step with
  | responded offers same leads =>
      rcases offers with held | ⟨missing, drawn, isDrawn, isOffered⟩
      · rw [same]
        exact .inr held
      · have asked := leads.grows.drawn
        simp only [SessionCall.draws, missing, Option.isNone_none, if_true] at asked
        exact .inl ⟨missing, asked, drawn, drawsSecret_iff.mpr isDrawn, same.trans isOffered⟩

/--
Whatever a run has done before, a response offers a secret that it has drawn itself
or the one that was stored last and not given up since, and a secret that was given
up is gone until one is stored again.
-/
theorem Begins.secret_custody (begins : start.Begins) (calls : List SessionCall) :
    (∀ publicKey verifyToken response,
        ((start.ending calls).call (.encryptionResponse publicKey verifyToken)).1 =
          .ok (.response response) →
        (start.ending calls).DrawsFor response.sharedSecret
            ((start.ending calls).call (.encryptionResponse publicKey verifyToken)).2 ∨
          Custody.ofSecret.Holds (start.turns calls) response.sharedSecret) ∧
      (Custody.ofSecret.Lacks (start.turns calls) →
        (start.ending calls).session.sharedSecret = none) := by
  constructor
  · intro publicKey verifyToken response responded
    have step := (start.ending calls).call_step (.encryptionResponse publicKey verifyToken)
    rw [responded] at step
    rcases offered_of_responded step with isDrawn | held
    · exact .inl isDrawn
    · rcases Custody.ofSecret_governs.holds_or_untouched held with holds | ⟨atStart, _⟩
      · exact .inr holds
      · cases begins.sharedSecret_eq.symm.trans atStart
  · intro lacks
    exact Custody.ofSecret_governs.eq_none_of_lacks lacks

/--
A secret that was drawn ahead is the one of the next response, unless a join has
failed in between.
-/
theorem secret_custody_created :
    let start := Situation.quiet [Reply.granting "access"]
    let request : SessionCall :=
      .encryptionResponse (.bytes (KeyPair.mk (.rsa RsaPrivateKey.smooth)).publicDer)
        (.bytes [1, 2, 3, 4])
    let joining : SessionCall := .join .null (.bytes []) (.bytes [])
    (∃ response,
        ((start.ending [.createSharedSecret]).call request).1 = .ok (.response response) ∧
        Custody.ofSecret.Holds (start.turns [.createSharedSecret]) response.sharedSecret) ∧
      (start.ending [.logIn, .createSharedSecret, joining]).session.sharedSecret = none := by
  intro start request joining
  have begins : start.Begins := quiet_begins _
  constructor
  · obtain ⟨offered, _⟩ := begins.secret_custody [.createSharedSecret]
    have succeeds : ((start.ending [.createSharedSecret]).call request).1.isOk = true := by
      decide +kernel
    have isHeld : (start.ending [.createSharedSecret]).session.sharedSecret.isSome = true := by
      decide +kernel
    have outcome := (start.ending [.createSharedSecret]).encryptionResponse_outcome
      (.bytes (KeyPair.mk (.rsa RsaPrivateKey.smooth)).publicDer) (.bytes [1, 2, 3, 4])
    rw [outcome] at succeeds
    generalize Situation.responseTo _ _ _ = answered at outcome succeeds
    cases answered with
    | error fault =>
        cases succeeds
    | ok response =>
        refine ⟨response, outcome, ?_⟩
        rcases offered _ _ response outcome with ⟨missing, _⟩ | holds
        · rw [missing] at isHeld
          cases isHeld
        · exact holds
  · obtain ⟨_, lacked⟩ := begins.secret_custody [.logIn, .createSharedSecret, joining]
    refine lacked ⟨start.turns [.logIn, .createSharedSecret],
      { before := start.ending [.logIn, .createSharedSecret], call := joining }, [], ?_, ?_, ?_⟩
    · exact start.turns_concat [.logIn, .createSharedSecret] joining
    · have isAuthenticated :
          (start.ending [.logIn, .createSharedSecret]).session.state = .authenticated := by
        decide +kernel
      have failed :
          ((start.ending [.logIn, .createSharedSecret]).call joining).1 = .error .wrongType := by
        rw [join_outcome _ _ _ isAuthenticated]
        rfl
      change GivesUpSecret _ joining ((start.ending [.logIn, .createSharedSecret]).call joining).1
      rw [failed]
      exact .joinFailed isAuthenticated
    · intro turn member
      cases member

end Situation

end SessionHandshake
