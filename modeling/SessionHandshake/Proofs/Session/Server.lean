import SessionHandshake.Proofs.Profile
import SessionHandshake.Proofs.Session.Client

namespace SessionHandshake

/-!
# The steps of a verification

A verification asks the session server once and then ends in one of three ways:
the question has failed, the answer does not name the client, or it does.
-/

namespace Situation

/-- The session server has been asked about a join, or something has prevented it. -/
theorem perform_askAboutJoin
    (situation : Situation)
    (username serverId secret publicKey address : Value) :
    (∃ fault sent after,
        situation.perform
            (SessionAction.askAboutJoin username serverId secret publicKey address) =
          (.error fault, after) ∧
        situation.Asks
          (situation.session.CanPose (.verify username serverId secret publicKey address))
          sent after) ∨
      ∃ hash answered body handed after,
        situation.perform
            (SessionAction.askAboutJoin username serverId secret publicKey address) =
          (.ok (hash, answered), after) ∧
        Digest.ofServerValues Hasher.sha1 serverId secret publicKey = .ok hash ∧
        situation.session.transport.handedOver?
          (Endpoint.hasJoined situation.session.sessionServer username (.text hash)
            address).request = some handed ∧
        (Endpoint.hasJoined situation.session.sessionServer username (.text hash)
          address).read (.ok body) = .ok answered ∧
        situation.Asks
          (situation.session.CanPose (.verify username serverId secret publicKey address))
          [{ state := situation.session.state, request := handed }] after := by
  simp only [SessionAction.askAboutJoin, perform_bind, perform_lift]
  cases hashed : Digest.ofServerValues Hasher.sha1 serverId secret publicKey with
  | error fault =>
      exact .inl ⟨fault, [], situation, rfl, .refl situation _⟩
  | ok hash =>
      simp only [perform_report, perform_sessionServer, perform_pure]
      cases username.checkShown with
      | error fault =>
          exact .inl ⟨fault, [], situation, rfl, .refl situation _⟩
      | ok _ =>
          simp only
          generalize isTold : situation.reporting .debug _ = told
          have toldSession : told.session = situation.session := by
            rw [← isTold]
            rfl
          simp only [toldSession]
          cases situation.session.sessionServer.checkShown with
          | error fault =>
              refine .inl ⟨fault, [], told, rfl, ?_⟩
              rw [← isTold]
              exact .of_reporting (.refl _ _)
          | ok _ =>
              have consults := told.consults_send
                (Endpoint.needsBody_hasJoined situation.session.sessionServer username (.text hash)
                  address)
              have canPose :
                  ∀ request,
                    request = (Endpoint.hasJoined situation.session.sessionServer username
                      (.text hash) address).request →
                    situation.session.CanPose
                      (.verify username serverId secret publicKey address) request :=
                fun request isRequest => ⟨hash, hashed, isRequest⟩
              simp only [Except.map]
              generalize told.perform (SessionAction.send (Endpoint.hasJoined
                situation.session.sessionServer username (.text hash) address)) = ended
                at consults ⊢
              obtain ⟨outcome, asked⟩ := ended
              rw [← isTold] at consults
              cases consults with
              | @failed sent fault _ asks =>
                  exact .inl ⟨fault, sent, asked, rfl, asks.of_reporting.mono canPose⟩
              | @answered body handed answered status content rest _ asks given read =>
                  exact .inr ⟨hash, answered, body, handed, asked, rfl, rfl, given, read,
                    asks.of_reporting.mono canPose⟩

/-- The question about a join leaves the session as it is. -/
theorem perform_askAboutJoin_session
    (situation : Situation)
    (username serverId secret publicKey address : Value) :
    (situation.perform
        (SessionAction.askAboutJoin username serverId secret publicKey address)).2.session =
      situation.session := by
  rcases situation.perform_askAboutJoin username serverId secret publicKey address with
    ⟨_, _, _, failed, asks⟩ | ⟨_, _, _, _, _, answers, _, _, _, asks⟩
  · rw [failed]
    exact asks.session_eq
  · rw [answers]
    exact asks.session_eq

/-! ## What is made of the answer -/

/-- What a verification ends with whose question has ended with a fault. -/
def unansweredFault (username : Value) (fault : Fault) : Fault :=
  if fault.isUnanswered then
    .refused .verification (.unverified username) RefusalDetails.none (some fault)
  else
    fault

/-- What a verification ends with that has been answered by nothing or by another name. -/
def unconfirmedFault (username : Value) (answered : Option Profile) : Fault :=
  .refused .verification (.unconfirmed username (answered.map Profile.username))
    RefusalDetails.none none

/-- A fault after a line about a user, which is another one if the user cannot be shown. -/
def faultNaming (username : Value) (fault : Fault) : Fault :=
  match username.checkShown with
  | .error unshown =>
      unshown
  | .ok _ =>
      fault

theorem faultNaming_text (username : Text) (fault : Fault) :
    faultNaming (.text username) fault = fault := by
  rw [faultNaming, (Value.isShowable_text username).checkShown]

theorem perform_reportUser_throw
    (Result : Type)
    (situation : Situation)
    (level : LogLevel)
    (words : String)
    (username : Value)
    (fault : Fault) :
    ∃ after,
      situation.perform
          (SessionAction.reportUser level words username >>= fun _ =>
            (throw fault : SessionAction Result)) =
        (.error (faultNaming username fault), after) ∧
      situation.MayReport after := by
  simp only [perform_bind, perform_reportUser, faultNaming]
  cases username.checkShown with
  | error unshown =>
      exact ⟨situation, rfl, .nothing⟩
  | ok _ =>
      exact ⟨_, rfl, .line level _⟩

/-- Whatever has kept the session server from answering, the client is rejected. -/
theorem perform_rejectUnanswered
    (Result : Type)
    (situation : Situation)
    (username : Value)
    (fault : Fault) :
    ∃ after,
      situation.perform (SessionAction.rejectUnanswered username fault : SessionAction Result) =
        (.error (faultNaming username (unansweredFault username fault)), after) ∧
      (situation.entering .rejected).MayReport after := by
  rw [SessionAction.rejectUnanswered, perform_bind, perform_enter]
  cases isUnanswered : fault.isUnanswered with
  | true =>
      simp only [unansweredFault, isUnanswered, if_true]
      exact perform_reportUser_throw Result _ _ _ _ _
  | false =>
      simp only [unansweredFault, isUnanswered, Bool.false_eq_true, if_false]
      exact perform_reportUser_throw Result _ _ _ _ _

/-- A client that the session server does not name is rejected. -/
theorem perform_rejectUnconfirmed
    (Result : Type)
    (situation : Situation)
    (username : Value)
    (answered : Option Profile) :
    ∃ after,
      situation.perform
          (SessionAction.rejectUnconfirmed username answered : SessionAction Result) =
        (.error (faultNaming username (unconfirmedFault username answered)), after) ∧
      (situation.entering .rejected).MayReport after := by
  rw [SessionAction.rejectUnconfirmed, perform_bind, perform_enter]
  exact perform_reportUser_throw Result _ _ _ _ _

theorem perform_confirm (situation : Situation) (hash : Text) (profile : Profile) :
    situation.perform (SessionAction.confirm hash profile) =
      (.ok profile,
        (situation.withSession fun session => { session with
          state := .verified
          profile := some profile
          serverHash := some hash }).reporting .success
            (SessionAction.forPlayer "Verified session!" profile)) :=
  rfl

/--
How a verification goes on from what has come of its question: unless the names cannot be
compared, the client is rejected or confirmed.
-/
inductive Judges (username : Value) (asked : Situation) :
    Except Fault (Text × Option Profile) → Except Fault SessionResult → Situation → Prop where
  | unanswered {fault : Fault} {after : Situation} :
      (asked.entering .rejected).MayReport after →
      Judges username asked (.error fault)
        (.error (faultNaming username (unansweredFault username fault))) after
  | unnamed {hash : Text} {after : Situation} :
      (asked.entering .rejected).MayReport after →
      Judges username asked (.ok (hash, none))
        (.error (faultNaming username (unconfirmedFault username none))) after
  | uncomparable {hash : Text} {profile : Profile} {fault : Fault} :
      sameName profile.username username = .error fault →
      Judges username asked (.ok (hash, some profile)) (.error fault) asked
  | otherName {hash : Text} {profile : Profile} {after : Situation} :
      sameName profile.username username = .ok false →
      (asked.entering .rejected).MayReport after →
      Judges username asked (.ok (hash, some profile))
        (.error (faultNaming username (unconfirmedFault username (some profile)))) after
  | confirmed {hash : Text} {profile : Profile} :
      sameName profile.username username = .ok true →
      Judges username asked (.ok (hash, some profile)) (.ok (.profile profile))
        ((asked.withSession fun session => { session with
          state := .verified
          profile := some profile
          serverHash := some hash }).reporting .success
            (SessionAction.forPlayer "Verified session!" profile))

/-- A verification asks, and goes on from there. -/
theorem verify_judges
    {before : Situation}
    (isUnauthenticated : before.session.state = .unauthenticated)
    (username serverId secret publicKey address : Value) :
    let asked :=
      (before.entering .verifying).perform
        (SessionAction.askAboutJoin username serverId secret publicKey address)
    Judges username asked.2 asked.1
      (before.call (.verify username serverId secret publicKey address)).1
      (before.call (.verify username serverId secret publicKey address)).2 := by
  have possible : before.session.state ∈ [SessionState.unauthenticated] :=
    List.mem_singleton.mpr isUnauthenticated
  simp only [Situation.call, SessionCall.action, SessionAction.verify, perform_bind,
    perform_expect, if_pos possible, perform_enter, perform_tryCatch]
  generalize (before.entering .verifying).perform
    (SessionAction.askAboutJoin username serverId secret publicKey address) = ended
  obtain ⟨outcome, asked⟩ := ended
  cases outcome with
  | error fault =>
      obtain ⟨after, rejected, reports⟩ :=
        perform_rejectUnanswered (Text × Option Profile) asked username fault
      simp only [rejected]
      exact .unanswered reports
  | ok found =>
      obtain ⟨hash, answered⟩ := found
      cases answered with
      | none =>
          obtain ⟨after, rejected, reports⟩ :=
            perform_rejectUnconfirmed Profile asked username none
          simp only [rejected]
          exact .unnamed reports
      | some profile =>
          simp only [perform_bind, perform_lift]
          cases same : sameName profile.username username with
          | error fault =>
              exact .uncomparable same
          | ok isSame =>
              cases isSame with
              | false =>
                  obtain ⟨after, rejected, reports⟩ :=
                    perform_rejectUnconfirmed Profile asked username (some profile)
                  simp only [Bool.false_eq_true, if_false, rejected]
                  exact .otherName same reports
              | true =>
                  simp only [if_true, perform_confirm, perform_pure]
                  exact .confirmed same

/-! ## The step -/

/-- Names that cannot be compared are no text, and the answered one is always a text. -/
theorem loweredName_of_sameName_error
    {entries : List (Value × Value)}
    {profile : Profile}
    {username : Value}
    {fault : Fault}
    (described : profile.DescribedBy entries)
    (uncomparable : sameName profile.username username = .error fault) :
    loweredName username = .error fault := by
  obtain ⟨name, _, _, isText⟩ := described.username
  have answered : loweredName profile.username = .ok (some (Text.lowercase name)) := by
    rw [isText]
    rfl
  rw [sameName, answered] at uncomparable
  cases lowered : loweredName username with
  | error other =>
      rw [lowered] at uncomparable
      cases uncomparable
      rfl
  | ok claimed =>
      rw [lowered] at uncomparable
      cases claimed <;> cases uncomparable

theorem verify_step
    (before : Situation)
    (username serverId secret publicKey address : Value) :
    SessionStep before (.verify username serverId secret publicKey address)
      (before.call (.verify username serverId secret publicKey address)).1
      (before.call (.verify username serverId secret publicKey address)).2 := by
  have samePosed :
      (before.entering .verifying).session.CanPose
          (.verify username serverId secret publicKey address) =
        before.session.CanPose (.verify username serverId secret publicKey address) :=
    rfl
  by_cases possible : before.session.state ∈ [SessionState.unauthenticated]
  · have isUnauthenticated : before.session.state = .unauthenticated :=
      List.mem_singleton.mp possible
    have entered := before.grows_withSession fun session => { session with state := .verifying }
    have rejects :
        ∀ {sent : List SessionRequest} {asked after : Situation},
          (before.entering .verifying).Asks
            (before.session.CanPose (.verify username serverId secret publicKey address))
            sent asked →
          (asked.entering .rejected).MayReport after →
          before.Leads (.verify username serverId secret publicKey address) sent
            { before.session with state := .rejected } after := by
      intro sent asked after asks reports
      refine ⟨((entered.ask asks).change _).mayReport reports, asks.sends before rfl rfl, ?_⟩
      simp only [reports.session_eq, entering_session, asks.session_eq]
    have judges := verify_judges isUnauthenticated username serverId secret publicKey address
    generalize before.call (.verify username serverId secret publicKey address) = ended
      at judges ⊢
    obtain ⟨outcome, after⟩ := ended
    rcases (before.entering .verifying).perform_askAboutJoin username serverId secret publicKey
        address with
      ⟨fault, sent, asked, failed, asks⟩ |
        ⟨hash, answered, body, handed, asked, answers, hashed, given, read, asks⟩
    · rw [samePosed] at asks
      rw [failed] at judges
      cases judges with
      | unanswered reports =>
          exact .rejected isUnauthenticated (rejects asks reports)
    · rw [samePosed] at asks
      rw [answers] at judges
      cases judges with
      | unnamed reports =>
          exact .rejected isUnauthenticated (rejects asks reports)
      | uncomparable uncomparable =>
          obtain ⟨_, isNone⟩ | ⟨_, profile, ⟨entries, _, described⟩, isProfile⟩ :=
            Endpoint.hasJoined_read_eq_ok read
          · cases isNone
          · cases isProfile
            exact .unjudged isUnauthenticated
              (loweredName_of_sameName_error described uncomparable) {
                grows := entered.ask asks
                sends := asks.sends before rfl rfl
                session_eq := asks.session_eq }
      | otherName _ reports =>
          exact .rejected isUnauthenticated (rejects asks reports)
      | confirmed _ =>
          refine .verified isUnauthenticated hashed given read {
            grows := ((entered.ask asks).change _).report _ _
            sends := asks.sends before rfl rfl
            session_eq := ?_ }
          simp only [withSession_session, asks.session_eq, entering_session]
  · rw [call_refused rfl possible]
    exact .refused rfl possible

end Situation

end SessionHandshake
