import SessionHandshake.Proofs.Session.History
import SessionHandshake.Proofs.Session.Printing
import SessionHandshake.Session.Process

namespace SessionHandshake

/-!
# Sessions do not interfere

The sessions of a process share their console, and no operation looks at what has been
printed or switches debugging on or off.  So each session of a process does what it
would do alone.  What the process prints is what its sessions would print alone, call
by call in the order in which they were called.
-/

/-- A call, what came of it, and the lines that it has printed. -/
structure PrintedEvent where
  event : SessionEvent
  printed : Text

namespace Situation

/-- Lines for debugging are printed. -/
def isDebugging (situation : Situation) : Bool :=
  situation.surroundings.console.isDebugging

/-- A call in a situation, as an event with the lines that it prints. -/
def printedEvent (situation : Situation) (call : SessionCall) : PrintedEvent where
  event := situation.event call
  printed :=
    (situation.call call).2.surroundings.console.printed.drop
      situation.surroundings.console.printed.length

/-- The history of calls with the lines that each has printed, the oldest first. -/
def transcript (situation : Situation) : List SessionCall → List PrintedEvent
  | [] =>
      []
  | first :: rest =>
      situation.printedEvent first :: transcript (situation.call first).2 rest

theorem call_isDebugging (situation : Situation) (call : SessionCall) :
    (situation.call call).2.isDebugging = situation.isDebugging := by
  rcases (situation.call_step call).refused_or_leads with
    ⟨_, _, _, _, _, same⟩ | ⟨_, _, leads⟩
  · rw [same]
  · exact leads.grows.isDebugging

end Situation

/-! ## Alone in front of an empty console -/

/-- The situation of a party to which nothing has been printed. -/
def Party.alone (party : Party) (isDebugging : Bool) : Situation :=
  party.at { isDebugging := isDebugging, printed := [] }

namespace Situation

section Alone

variable (situation : Situation) (call : SessionCall)

theorem alone_printedAfter :
    (situation.party.alone situation.isDebugging).printedAfter
      situation.surroundings.console.printed = situation := by
  simp only [Party.alone, Party.at, party, isDebugging, printedAfter, Console.printedAfter,
    List.append_nil]

/-- A call does what it would do in front of an empty console. -/
theorem call_eq_alone :
    situation.call call =
      (((situation.party.alone situation.isDebugging).call call).1,
        ((situation.party.alone situation.isDebugging).call call).2.printedAfter
          situation.surroundings.console.printed) := by
  have ignores := SessionAction.IgnoresPrinted.call call
    (situation.party.alone situation.isDebugging) situation.surroundings.console.printed
  rw [alone_printedAfter] at ignores
  exact ignores

theorem printedEvent_eq_alone :
    situation.printedEvent call =
      (situation.party.alone situation.isDebugging).printedEvent call := by
  have printed :
      ((situation.party.alone situation.isDebugging).call call).2.surroundings.console.printed =
        ((situation.party.alone situation.isDebugging).printedEvent call).printed :=
    rfl
  rw [printedEvent, event, call_eq_alone]
  simp only [printedAfter, Console.printedAfter, List.drop_left, printed]
  rfl

/-- A call adds its lines to those that have been printed. -/
theorem call_printed :
    (situation.call call).2.surroundings.console.printed =
      situation.surroundings.console.printed ++ (situation.printedEvent call).printed := by
  rw [printedEvent_eq_alone, call_eq_alone]
  rfl

theorem ending_printed (calls : List SessionCall) :
    (situation.ending calls).surroundings.console.printed =
      situation.surroundings.console.printed ++
        (situation.transcript calls).flatMap PrintedEvent.printed := by
  induction calls generalizing situation with
  | nil =>
      exact (List.append_nil _).symm
  | cons first rest inductionHypothesis =>
      refine (inductionHypothesis (situation.call first).2).trans ?_
      rw [call_printed, List.append_assoc]
      rfl

end Alone

/-- Two situations differ at most in what has been printed. -/
structure AgreesWith (one other : Situation) : Prop where
  party : one.party = other.party
  isDebugging : one.isDebugging = other.isDebugging

namespace AgreesWith

variable {one other third : Situation}

theorem refl (situation : Situation) : situation.AgreesWith situation :=
  ⟨rfl, rfl⟩

theorem trans (agrees : one.AgreesWith other) (alsoAgrees : other.AgreesWith third) :
    one.AgreesWith third :=
  ⟨agrees.party.trans alsoAgrees.party, agrees.isDebugging.trans alsoAgrees.isDebugging⟩

theorem alone (agrees : one.AgreesWith other) :
    one.party.alone one.isDebugging = other.party.alone other.isDebugging := by
  rw [agrees.party, agrees.isDebugging]

theorem printedEvent (agrees : one.AgreesWith other) (call : SessionCall) :
    one.printedEvent call = other.printedEvent call := by
  rw [one.printedEvent_eq_alone, other.printedEvent_eq_alone, agrees.alone]

theorem outcome (agrees : one.AgreesWith other) (call : SessionCall) :
    (one.call call).1 = (other.call call).1 :=
  congrArg (fun printed : PrintedEvent => printed.event.outcome) (agrees.printedEvent call)

theorem call (agrees : one.AgreesWith other) (call : SessionCall) :
    (one.call call).2.AgreesWith (other.call call).2 where
  party := by
    rw [one.call_eq_alone, other.call_eq_alone, agrees.alone]
    rfl
  isDebugging := by
    rw [call_isDebugging, call_isDebugging]
    exact agrees.isDebugging

end AgreesWith

end Situation

/-! ## Together -/

namespace Process

variable {Index : Type} [DecidableEq Index]

/-- The items of one session, of a list that says for each item whose it is. -/
def itemsOf {Item : Type} (index : Index) (items : List (Index × Item)) : List Item :=
  (items.filter fun item => item.1 = index).map Prod.snd

section ItemsOf

variable {Item : Type} {index other : Index} (item : Item) (rest : List (Index × Item))

theorem itemsOf_cons_self :
    itemsOf index ((index, item) :: rest) = item :: itemsOf index rest := by
  simp only [itemsOf, List.filter_cons, decide_true, if_true, List.map_cons]

theorem itemsOf_cons_other (isOther : other ≠ index) :
    itemsOf index ((other, item) :: rest) = itemsOf index rest := by
  simp only [itemsOf, List.filter_cons, isOther, decide_false, Bool.false_eq_true, if_false]

end ItemsOf

/-- What calls on the sessions of a process have come to, call by call. -/
def transcript (process : Process Index) :
    List (Index × SessionCall) → List (Index × PrintedEvent)
  | [] =>
      []
  | (index, call) :: rest =>
      (index, (process.situation index).printedEvent call) ::
        transcript (process.call index call).2 rest

section Call

variable {index other : Index} (process : Process Index) (call : SessionCall)

theorem call_parties_self :
    (process.call index call).2.parties index =
      ((process.situation index).call call).2.party :=
  if_pos rfl

/-- A call does not touch what belongs to other sessions. -/
theorem call_parties_other (isOther : other ≠ index) :
    (process.call index call).2.parties other = process.parties other :=
  if_neg isOther

theorem call_situation_self :
    (process.call index call).2.situation index = ((process.situation index).call call).2 := by
  rw [situation, call_parties_self]
  rfl

theorem call_situation_other (isOther : other ≠ index) :
    ((process.call index call).2.situation other).AgreesWith (process.situation other) where
  party := process.call_parties_other call isOther
  isDebugging := (process.situation index).call_isDebugging call

theorem call_console :
    (process.call index call).2.console =
      { isDebugging := process.console.isDebugging
        printed := process.console.printed ++
          ((process.situation index).printedEvent call).printed } := by
  rw [Console.mk.injEq]
  exact ⟨(process.situation index).call_isDebugging call,
    (process.situation index).call_printed call⟩

end Call

variable {process : Process Index} {index : Index}

/-- Whatever else is called, a session does what the calls on it alone make it do. -/
theorem run_agreesWith
    {solo : Situation}
    (agrees : (process.situation index).AgreesWith solo)
    (schedule : List (Index × SessionCall)) :
    itemsOf index (process.transcript schedule) = solo.transcript (itemsOf index schedule) ∧
      ((process.run schedule).situation index).AgreesWith
        (solo.ending (itemsOf index schedule)) := by
  -- A call on this session takes one step of its own run, and any other call takes none.
  induction schedule generalizing process solo with
  | nil =>
      exact ⟨rfl, agrees⟩
  | cons turn rest inductionHypothesis =>
      obtain ⟨called, call⟩ := turn
      by_cases isOwn : called = index
      · subst isOwn
        have afterwards := agrees.call call
        rw [← call_situation_self] at afterwards
        obtain ⟨transcripts, stillSame⟩ := inductionHypothesis afterwards
        rw [transcript, itemsOf_cons_self, itemsOf_cons_self, agrees.printedEvent, transcripts]
        exact ⟨rfl, stillSame⟩
      · have untouched := process.call_situation_other call (Ne.symm isOwn)
        obtain ⟨transcripts, stillSame⟩ := inductionHypothesis (untouched.trans agrees)
        rw [transcript, itemsOf_cons_other _ _ isOwn, itemsOf_cons_other _ _ isOwn]
        exact ⟨transcripts, stillSame⟩

theorem run_console (schedule : List (Index × SessionCall)) :
    (process.run schedule).console =
      { isDebugging := process.console.isDebugging
        printed := process.console.printed ++
          (process.transcript schedule).flatMap fun turn => turn.2.printed } := by
  induction schedule generalizing process with
  | nil =>
      simp only [run, transcript, List.flatMap_nil, List.append_nil]
  | cons turn rest inductionHypothesis =>
      obtain ⟨called, call⟩ := turn
      refine inductionHypothesis.trans ?_
      simp only [call_console, List.append_assoc]
      rfl

/--
Two calls on different sessions end with the same in either order, and leave the same
sessions behind.  What each prints is the same, too, and only the order of the lines differs.
-/
structure Commutes
    (process : Process Index)
    (one other : Index)
    (oneCall otherCall : SessionCall) : Prop where
  oneOutcome :
    ((process.call other otherCall).2.call one oneCall).1 = (process.call one oneCall).1
  otherOutcome :
    ((process.call one oneCall).2.call other otherCall).1 = (process.call other otherCall).1
  parties :
    ((process.call one oneCall).2.call other otherCall).2.parties =
      ((process.call other otherCall).2.call one oneCall).2.parties
  console :
    ∃ onePrinted otherPrinted,
      ((process.call one oneCall).2.call other otherCall).2.console =
          { isDebugging := process.console.isDebugging
            printed := process.console.printed ++ onePrinted ++ otherPrinted } ∧
        ((process.call other otherCall).2.call one oneCall).2.console =
          { isDebugging := process.console.isDebugging
            printed := process.console.printed ++ otherPrinted ++ onePrinted }

/-- After another session was called, a call makes of its own session what it would before. -/
theorem call_after_other
    {other : Index}
    (process : Process Index)
    (call otherCall : SessionCall)
    (isOther : other ≠ index) :
    ((process.call other otherCall).2.call index call).2.parties index =
      ((process.call index call).2.call other otherCall).2.parties index := by
  rw [call_parties_self, call_parties_other _ _ isOther.symm, call_parties_self]
  exact ((process.call_situation_other otherCall isOther.symm).call call).party

theorem commutes
    {other : Index}
    (process : Process Index)
    (isOther : other ≠ index)
    (call otherCall : SessionCall) :
    process.Commutes index other call otherCall := by
  have same := process.call_situation_other otherCall isOther.symm
  have otherSame := process.call_situation_other call isOther
  constructor
  · exact same.outcome call
  · exact otherSame.outcome otherCall
  · funext third
    by_cases isIndex : third = index
    · subst isIndex
      exact (process.call_after_other call otherCall isOther).symm
    · by_cases isThird : third = other
      · subst isThird
        exact process.call_after_other otherCall call isOther.symm
      · rw [call_parties_other _ _ isThird, call_parties_other _ _ isIndex,
          call_parties_other _ _ isIndex, call_parties_other _ _ isThird]
  · refine ⟨((process.situation index).printedEvent call).printed,
      ((process.situation other).printedEvent otherCall).printed, ?_, ?_⟩
    · rw [call_console, call_console, otherSame.printedEvent]
    · rw [call_console, call_console, same.printedEvent]

/--
The sessions of a process do not interfere in a schedule of calls: what each of them does,
sends, prints and becomes is what it would in a run of its own calls, the process prints
the lines of all calls in the order of the calls, and calls on different sessions commute.
-/
structure Independent
    (process : Process Index)
    (schedule : List (Index × SessionCall)) : Prop where
  transcripts :
    ∀ index,
      itemsOf index (process.transcript schedule) =
        (process.situation index).transcript (itemsOf index schedule)
  parties :
    ∀ index,
      (process.run schedule).parties index =
        ((process.situation index).ending (itemsOf index schedule)).party
  printed :
    (process.run schedule).console.printed =
      process.console.printed ++
        (process.transcript schedule).flatMap fun turn => turn.2.printed
  printedAlone :
    ∀ index,
      ((process.situation index).ending
          (itemsOf index schedule)).surroundings.console.printed =
        process.console.printed ++
          (itemsOf index (process.transcript schedule)).flatMap PrintedEvent.printed
  isDebugging : (process.run schedule).console.isDebugging = process.console.isDebugging
  untouched :
    ∀ index other call,
      other ≠ index →
      ((process.run schedule).call index call).2.parties other =
        (process.run schedule).parties other
  commutes :
    ∀ one other oneCall otherCall,
      other ≠ one →
      (process.run schedule).Commutes one other oneCall otherCall

/-- However the calls on the sessions of a process are interleaved, they do not interfere. -/
theorem independent (process : Process Index) (schedule : List (Index × SessionCall)) :
    process.Independent schedule := by
  have runs (index : Index) :=
    run_agreesWith (Situation.AgreesWith.refl (process.situation index)) schedule
  exact {
    transcripts := fun index => (runs index).1
    parties := fun index => (runs index).2.party
    printed := congrArg Console.printed (run_console schedule)
    printedAlone := fun index => by
      rw [Situation.ending_printed, (runs index).1]
      rfl
    isDebugging := by rw [run_console]
    untouched := fun _ _ call isOther => call_parties_other _ call isOther
    commutes := fun _ _ oneCall otherCall isOther =>
      commutes (process.run schedule) isOther oneCall otherCall }

end Process

end SessionHandshake
