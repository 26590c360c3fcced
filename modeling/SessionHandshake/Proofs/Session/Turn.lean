import SessionHandshake.Proofs.Session.History

namespace SessionHandshake

/-!
# Turns of a run

A turn is a call together with the situation in which it is made.  What a session
has in its custody is a matter of the turns behind it: some store a value, some
give it up, and the last one that did either decides.
-/

/-- A call, and the situation in which it is made. -/
structure SessionTurn where
  before : Situation
  call : SessionCall

namespace SessionTurn

/-- What the call ends with. -/
def outcome (turn : SessionTurn) : Except Fault SessionResult :=
  (turn.before.call turn.call).1

/-- The situation after the call. -/
def after (turn : SessionTurn) : Situation :=
  (turn.before.call turn.call).2

/-- The requests that the call sends. -/
def sent (turn : SessionTurn) : List SessionRequest :=
  (turn.before.event turn.call).sent

theorem step (turn : SessionTurn) :
    SessionStep turn.before turn.call turn.outcome turn.after :=
  turn.before.call_step turn.call

theorem requests_eq (turn : SessionTurn) :
    turn.after.surroundings.requests = turn.before.surroundings.requests ++ turn.sent :=
  turn.before.call_requests turn.call

/-- What a turn has sent is what its call has been found to send. -/
theorem sent_eq
    {turn : SessionTurn}
    {sent : List SessionRequest}
    {session : Session}
    (leads : turn.before.Leads turn.call sent session turn.after) :
    turn.sent = sent :=
  List.append_cancel_left (turn.requests_eq.symm.trans leads.grows.requests)

/-- A turn that leaves its situation as it was has sent nothing. -/
theorem sent_eq_nil
    {turn : SessionTurn}
    (same : turn.after = turn.before) :
    turn.sent = [] := by
  have requests := turn.requests_eq
  rw [same] at requests
  exact List.self_eq_append_right.mp requests

/-- All that a turn sends is sent on behalf of its session. -/
theorem sends (turn : SessionTurn) : turn.call.Sends turn.before.session turn.sent := by
  rcases turn.step.refused_or_leads with ⟨_, _, _, _, _, same⟩ | ⟨sent, session, leads⟩
  · rw [sent_eq_nil same]
    exact .nothing
  · rw [sent_eq leads]
    exact leads.sends

end SessionTurn

namespace Situation

/-- The turns of calls, the oldest first. -/
def turns (situation : Situation) : List SessionCall → List SessionTurn
  | [] =>
      []
  | first :: rest =>
      { before := situation, call := first } :: turns (situation.call first).2 rest

theorem turns_concat (situation : Situation) (calls : List SessionCall) (last : SessionCall) :
    situation.turns (calls ++ [last]) =
      situation.turns calls ++ [{ before := situation.ending calls, call := last }] := by
  induction calls generalizing situation with
  | nil =>
      rfl
  | cons first rest inductionHypothesis =>
      exact congrArg ({ before := situation, call := first } :: ·)
        (inductionHypothesis (situation.call first).2)

theorem ending_append (situation : Situation) (earlier later : List SessionCall) :
    situation.ending (earlier ++ later) = (situation.ending earlier).ending later := by
  induction earlier generalizing situation with
  | nil =>
      rfl
  | cons first rest inductionHypothesis =>
      exact inductionHypothesis (situation.call first).2

/-- What every turn keeps is kept by a run. -/
theorem ending_eq_of_turns
    {Part : Type}
    (start : Situation)
    (part : Situation → Part)
    (calls : List SessionCall)
    (kept : ∀ turn ∈ start.turns calls, part turn.after = part turn.before) :
    part (start.ending calls) = part start := by
  induction calls using List.reverseRecOn with
  | nil =>
      rfl
  | append_singleton earlier last inductionHypothesis =>
      rw [turns_concat] at kept
      rw [ending_concat]
      have keptEarlier :=
        inductionHypothesis fun turn member => kept turn (List.mem_append_left _ member)
      have keptLast := kept { before := start.ending earlier, call := last } (by simp)
      exact keptLast.trans keptEarlier

end Situation

/-! ## Custody -/

/-- Which turns store something that sessions keep, and which give it up. -/
structure Custody (Kept : Type) where
  Stores : SessionTurn → Kept → Prop
  GivesUp : SessionTurn → Prop

namespace Custody

variable {Kept : Type} (custody : Custody Kept)

/-- A turn that neither stores anything nor gives it up. -/
structure Leaves (turn : SessionTurn) : Prop where
  unstored : ∀ value, ¬ custody.Stores turn value
  kept : ¬ custody.GivesUp turn

/-- A value has been stored by the last turn that stored one, and not been given up since. -/
def Holds (turns : List SessionTurn) (value : Kept) : Prop :=
  ∃ earlier storing later,
    turns = earlier ++ storing :: later ∧
    custody.Stores storing value ∧
    ∀ turn ∈ later, custody.Leaves turn

/-- Something has been given up, and nothing has been stored since. -/
def Lacks (turns : List SessionTurn) : Prop :=
  ∃ earlier giving later,
    turns = earlier ++ giving :: later ∧
    custody.GivesUp giving ∧
    ∀ turn ∈ later, ∀ value, ¬ custody.Stores turn value

/-- A part of the session is what the turns make of it. -/
structure Governs (part : Session → Option Kept) : Prop where
  stored :
    ∀ turn value, custody.Stores turn value → part turn.after.session = some value
  givenUp :
    ∀ turn, custody.GivesUp turn → part turn.after.session = none
  left :
    ∀ turn, custody.Leaves turn → part turn.after.session = part turn.before.session

variable {custody} {part : Session → Option Kept} {start : Situation} {calls : List SessionCall}

theorem Holds.concat
    {turns : List SessionTurn}
    {value : Kept}
    {last : SessionTurn}
    (holds : custody.Holds turns value)
    (leaves : custody.Leaves last) :
    custody.Holds (turns ++ [last]) value := by
  obtain ⟨earlier, storing, later, rfl, stores, left⟩ := holds
  refine ⟨earlier, storing, later ++ [last], by simp, stores, ?_⟩
  intro turn member
  rcases List.mem_append.mp member with isLater | isLast
  · exact left turn isLater
  · rw [List.mem_singleton.mp isLast]
    exact leaves

/-- What a session has was stored last, or the session has had it from its beginning. -/
theorem Governs.holds_or_untouched
    {value : Kept}
    (governs : custody.Governs part)
    (has : part (start.ending calls).session = some value) :
    custody.Holds (start.turns calls) value ∨
      part start.session = some value ∧ ∀ turn ∈ start.turns calls, custody.Leaves turn := by
  -- The last turn decides, or it has left to the earlier ones what they decide.
  induction calls using List.reverseRecOn with
  | nil =>
      exact .inr ⟨has, fun turn member => nomatch member⟩
  | append_singleton earlier last inductionHypothesis =>
      rw [Situation.turns_concat]
      rw [Situation.ending_concat] at has
      generalize isTurn :
        ({ before := start.ending earlier, call := last } : SessionTurn) = turn
      have hasAfter : part turn.after.session = some value := by
        rw [← isTurn]
        exact has
      by_cases stores : ∃ other, custody.Stores turn other
      · obtain ⟨other, stores⟩ := stores
        have same : other = value :=
          Option.some.inj ((governs.stored turn other stores).symm.trans hasAfter)
        rw [same] at stores
        exact .inl ⟨start.turns earlier, turn, [], rfl, stores, by simp⟩
      · by_cases givesUp : custody.GivesUp turn
        · cases (governs.givenUp turn givesUp).symm.trans hasAfter
        · have leaves : custody.Leaves turn :=
            ⟨fun other stored => stores ⟨other, stored⟩, givesUp⟩
          rw [governs.left turn leaves, ← isTurn] at hasAfter
          rcases inductionHypothesis hasAfter with holds | ⟨atStart, untouched⟩
          · exact .inl (holds.concat leaves)
          · refine .inr ⟨atStart, ?_⟩
            intro other member
            rcases List.mem_append.mp member with isEarlier | isLast
            · exact untouched other isEarlier
            · rw [List.mem_singleton.mp isLast]
              exact leaves

/-- What was given up stays away until something is stored again. -/
theorem Governs.eq_none_of_lacks
    (governs : custody.Governs part)
    (lacks : custody.Lacks (start.turns calls)) :
    part (start.ending calls).session = none := by
  induction calls using List.reverseRecOn with
  | nil =>
      obtain ⟨earlier, giving, later, split, _⟩ := lacks
      cases earlier <;> cases split
  | append_singleton earlierCalls last inductionHypothesis =>
      obtain ⟨earlier, giving, later, split, givesUp, unstored⟩ := lacks
      rw [Situation.turns_concat] at split
      rw [Situation.ending_concat]
      -- The turn that gave it up is the last one, or the last one has stored nothing since.
      rcases List.eq_nil_or_concat later with rfl | ⟨between, final, rfl⟩
      · obtain ⟨_, isLast⟩ := List.append_inj' split rfl
        cases isLast
        exact governs.givenUp _ givesUp
      · rw [List.concat_eq_append] at split unstored
        rw [← List.cons_append, ← List.append_assoc] at split
        obtain ⟨splitEarlier, isLast⟩ := List.append_inj' split rfl
        cases isLast
        have lackedBefore :=
          inductionHypothesis ⟨earlier, giving, between, splitEarlier, givesUp,
            fun turn member => unstored turn (List.mem_append_left _ member)⟩
        have lastUnstored := unstored _ (List.mem_append_right between (List.mem_singleton_self _))
        by_cases givesUpAgain :
            custody.GivesUp { before := start.ending earlierCalls, call := last }
        · exact governs.givenUp _ givesUpAgain
        · exact (governs.left _ ⟨lastUnstored, givesUpAgain⟩).trans lackedBefore

end Custody

end SessionHandshake
