import SessionHandshake.Session.Call

namespace SessionHandshake

/-!
# Sessions of one process

The sessions of a process take turns.  Each has its transport and its sources of random
values to itself.  What they share is the console: the lines that have been printed, and
whether lines for debugging are.
-/

/-- A session, and what surrounds it but the console. -/
structure Party where
  session : Session
  random : RandomSource
  drawn : List Value
  padding : PaddingSource
  replies : List Reply
  requests : List SessionRequest
  closes : Nat

/-- What of a situation belongs to its session alone. -/
def Situation.party (situation : Situation) : Party where
  session := situation.session
  random := situation.surroundings.random
  drawn := situation.surroundings.drawn
  padding := situation.surroundings.padding
  replies := situation.surroundings.replies
  requests := situation.surroundings.requests
  closes := situation.surroundings.closes

/-- The situation of a party in front of a console. -/
def Party.at (party : Party) (console : Console) : Situation where
  session := party.session
  surroundings := {
    random := party.random
    drawn := party.drawn
    padding := party.padding
    replies := party.replies
    requests := party.requests
    closes := party.closes
    console := console
  }

/-- The sessions of a process, each by its index, and the console that they share. -/
structure Process (Index : Type) where
  parties : Index → Party
  console : Console

namespace Process

variable {Index : Type} [DecidableEq Index]

/-- The situation in which a session of a process would be called now. -/
def situation (process : Process Index) (index : Index) : Situation :=
  (process.parties index).at process.console

/-- The process after one of its sessions has come to be in another situation. -/
def resumed (process : Process Index) (index : Index) (after : Situation) : Process Index where
  parties := fun other => if other = index then after.party else process.parties other
  console := after.surroundings.console

/-- What a call on a session of a process ends with, and the process after it. -/
def call (process : Process Index) (index : Index) (call : SessionCall) :
    Except Fault SessionResult × Process Index :=
  let (outcome, after) := (process.situation index).call call
  (outcome, process.resumed index after)

/-- The process after calls on its sessions, one after the other. -/
def run (process : Process Index) : List (Index × SessionCall) → Process Index
  | [] =>
      process
  | (index, call) :: rest =>
      run (process.call index call).2 rest

end Process

end SessionHandshake
