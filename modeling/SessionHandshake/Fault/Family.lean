import SessionHandshake.Text.Basic

namespace SessionHandshake

/-!
# Families of handshake faults

The faults that the handshake itself raises form a tree.  A caller that handles
a family handles all families below it.
-/

/-- A family of faults. -/
inductive FaultFamily where
  | handshake
  | transport
  | malformedResponse
  | randomSource
  | sessionState
  | crypto
  | invalidPublicKey
  | encryptionFailed
  | auth
  | authenticationFailed
  | joinRejected
  | invalidSessionId
  | invalidServerId
  | invalidProfileId
  | verificationRejected
  deriving DecidableEq, Repr

namespace FaultFamily

/-- The family right above a family, if there is one. -/
def parent? : FaultFamily → Option FaultFamily
  | .handshake =>
      none
  | .invalidPublicKey =>
      some .crypto
  | .encryptionFailed =>
      some .crypto
  | .authenticationFailed =>
      some .auth
  | .joinRejected =>
      some .auth
  | .verificationRejected =>
      some .auth
  | .invalidSessionId =>
      some .joinRejected
  | .invalidServerId =>
      some .joinRejected
  | .invalidProfileId =>
      some .joinRejected
  | _ =>
      some .handshake

/-- How far a family lies below the root. -/
def depth : FaultFamily → Nat
  | .handshake =>
      0
  | .invalidPublicKey | .encryptionFailed =>
      2
  | .authenticationFailed | .joinRejected | .verificationRejected =>
      2
  | .invalidSessionId | .invalidServerId | .invalidProfileId =>
      3
  | _ =>
      1

/-- A family lies one step below its parent. -/
theorem depth_parent?
    {family parent : FaultFamily}
    (isParent : family.parent? = some parent) :
    parent.depth + 1 = family.depth := by
  cases family <;> cases parent <;> simp_all [parent?, depth]

/-- A family and all families above it, the nearest first. -/
def lineage (family : FaultFamily) : List FaultFamily :=
  match _isParent : family.parent? with
  | none =>
      [family]
  | some parent =>
      family :: lineage parent
termination_by family.depth
decreasing_by
  have := depth_parent? _isParent
  omega

end FaultFamily

/-- The families of faults that carry what a server said about a refusal. -/
inductive Refusal where
  | unspecified
  | authentication
  | join
  | sessionId
  | serverId
  | profileId
  | verification
  deriving DecidableEq, Repr

/-- The family of a refusal. -/
def Refusal.family : Refusal → FaultFamily
  | .unspecified =>
      .auth
  | .authentication =>
      .authenticationFailed
  | .join =>
      .joinRejected
  | .sessionId =>
      .invalidSessionId
  | .serverId =>
      .invalidServerId
  | .profileId =>
      .invalidProfileId
  | .verification =>
      .verificationRejected

/-- The refusal of a family, if that family carries what a server said. -/
def FaultFamily.refusal? : FaultFamily → Option Refusal
  | .auth =>
      some .unspecified
  | .authenticationFailed =>
      some .authentication
  | .joinRejected =>
      some .join
  | .invalidSessionId =>
      some .sessionId
  | .invalidServerId =>
      some .serverId
  | .invalidProfileId =>
      some .profileId
  | .verificationRejected =>
      some .verification
  | _ =>
      none

end SessionHandshake
