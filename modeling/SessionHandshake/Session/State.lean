import SessionHandshake.Text.Basic

namespace SessionHandshake

/-!
# States of a session

A session starts unauthenticated and takes one of two roles.  As a client it
logs in and joins servers; as a server it verifies one connecting client.
-/

/-- Where a session stands in the handshake. -/
inductive SessionState where
  | unauthenticated
  | authenticated
  | joining
  | joined
  | verifying
  | verified
  | rejected
  deriving DecidableEq, Repr

namespace SessionState

/-- All states, in the order of the handshake. -/
def all : List SessionState :=
  [.unauthenticated, .authenticated, .joining, .joined, .verifying, .verified, .rejected]

/-- The name of a state, as messages show it. -/
def name : SessionState → Text
  | .unauthenticated =>
      "Unauthenticated"
  | .authenticated =>
      "Authenticated"
  | .joining =>
      "Joining"
  | .joined =>
      "Joined"
  | .verifying =>
      "Verifying"
  | .verified =>
      "Verified"
  | .rejected =>
      "Rejected"

/-- The stored label of a state: its name in lower case. -/
def label (state : SessionState) : Text :=
  state.name.asciiLowercase

/-- No state is missing from the list of all states. -/
theorem mem_all (state : SessionState) : state ∈ all := by
  cases state <;> decide

end SessionState

end SessionHandshake
