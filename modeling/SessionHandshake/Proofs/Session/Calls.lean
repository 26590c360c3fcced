import SessionHandshake.Proofs.Session.Server

namespace SessionHandshake

/-!
# Every call takes a step

What has been found for the operations is put together: `SessionStep` leaves
nothing out that a call may do.
-/

namespace Situation

theorem close_step (before : Situation) :
    SessionStep before .close (before.call .close).1 (before.call .close).2 := by
  simp only [Situation.call, SessionCall.action, SessionAction.close, perform_bind,
    perform_session]
  cases before.session.ownsTransport with
  | false =>
      exact .closed ⟨.refl before, .nothing, rfl⟩
  | true =>
      exact .closed ⟨⟨rfl, (List.append_nil _).symm, (List.append_nil _).symm, rfl, rfl⟩,
        .nothing, rfl⟩

/-- Every call ends in one of the ways that `SessionStep` lists. -/
theorem call_step (before : Situation) (call : SessionCall) :
    SessionStep before call (before.call call).1 (before.call call).2 := by
  cases call with
  | authenticate username password clientToken requestUser =>
      exact authenticate_step before username password clientToken requestUser
  | createSharedSecret =>
      exact createSharedSecret_step before
  | encryptionResponse publicKey verifyToken =>
      exact encryptionResponse_step before publicKey verifyToken
  | join serverId secret publicKey =>
      exact join_step before serverId secret publicKey
  | refresh requestUser =>
      exact refresh_step before requestUser
  | validate =>
      exact validate_step before
  | invalidate =>
      exact invalidate_step before
  | signOut username password =>
      exact signOut_step before username password
  | verify username serverId secret publicKey address =>
      exact verify_step before username serverId secret publicKey address
  | close =>
      exact close_step before

end Situation

end SessionHandshake
