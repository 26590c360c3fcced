import SessionHandshake.Proofs.Session.Overlooking
import SessionHandshake.Proofs.Transport

namespace SessionHandshake

/-!
# Printing only adds lines

No operation looks at what has been printed before it.  With more lines printed before
it, an operation ends with the same, makes the same of the session and of all that
surrounds it, and prints the same lines after those.
-/

/-- The console, had something been printed before all that has been printed. -/
def Console.printedAfter (console : Console) (earlier : Text) : Console :=
  { console with printed := earlier ++ console.printed }

theorem Console.report_printedAfter
    (console : Console)
    (earlier : Text)
    (level : LogLevel)
    (message : Text) :
    (console.printedAfter earlier).report level message =
      (console.report level message).printedAfter earlier := by
  have sameShows : (console.printedAfter earlier).shows level = console.shows level := rfl
  unfold Console.report
  rw [sameShows]
  split
  · simp only [printedAfter, List.append_assoc]
  · rfl

theorem Transport.exchange_printedAfter
    (transport : Transport)
    (request : Request)
    (replies : List Reply)
    (console : Console)
    (earlier : Text) :
    transport.exchange request replies (console.printedAfter earlier) =
      { transport.exchange request replies console with
        console := (transport.exchange request replies console).console.printedAfter earlier } := by
  cases transport with
  | direct =>
      rfl
  | web timeout userAgent =>
      simp only [exchange, webExchange]
      cases WebRequest.bodyOf request with
      | error fault =>
          rfl
      | ok body =>
          simp only [Console.report_printedAfter]
          cases WebRequest.ofRequest timeout userAgent body request with
          | error fault =>
              rfl
          | ok prepared =>
              simp only [replyReported]
              split
              · split
                · simp only [Console.report_printedAfter]
                · rfl
              · rfl

/-- The situation, had something been printed before all that has been printed. -/
def Situation.printedAfter (situation : Situation) (earlier : Text) : Situation :=
  { situation with
    surroundings := { situation.surroundings with
      console := situation.surroundings.console.printedAfter earlier } }

/-- An action does the same whatever has been printed before it. -/
def SessionAction.IgnoresPrinted {Result : Type} (action : SessionAction Result) : Prop :=
  ∀ (situation : Situation) (earlier : Text),
    (situation.printedAfter earlier).perform action =
      ((situation.perform action).1, (situation.perform action).2.printedAfter earlier)

theorem Situation.isAside_printedAfter (earlier : Text) :
    IsAside fun situation => situation.printedAfter earlier where
  session := fun _ => rfl
  withSession := fun _ _ => rfl
  reporting := fun situation level message => by
    simp only [reporting, printedAfter, Console.report_printedAfter]
  outcome := fun situation request => by
    simp only [exchange, printedAfter, Transport.exchange_printedAfter]
  asking := fun situation request => by
    simp only [asking, SessionAction.afterExchange, exchange, printedAfter,
      Transport.exchange_printedAfter]
  drawing := fun _ _ => rfl
  padding := fun _ => rfl
  padded := fun _ _ => rfl
  closing := fun _ => rfl

/-- No call looks at what has been printed. -/
theorem SessionAction.IgnoresPrinted.call (call : SessionCall) : IgnoresPrinted call.action :=
  fun _ earlier => OverlooksAt.call (Situation.isAside_printedAfter earlier) fun _ _ => rfl

end SessionHandshake
