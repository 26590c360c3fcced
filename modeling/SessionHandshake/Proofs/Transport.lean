import SessionHandshake.Transport.Basic

namespace SessionHandshake

/-!
# What comes of a request

An exchange is determined by three things that have nothing to do with each
other: in which form the transport hands the request over, if it can; which
reply comes next; and what is printed about both.  The outcome therefore never
depends on the console, and a reply is used up exactly when a request has been
handed over.
-/

namespace Console

theorem report_isDebugging (console : Console) (level : LogLevel) (message : Text) :
    (console.report level message).isDebugging = console.isDebugging := by
  unfold report
  split <;> rfl

/-- With debugging off, a line for debugging prints nothing. -/
theorem report_debug_of_quiet
    {console : Console}
    (quiet : console.isDebugging = false)
    (message : Text) :
    console.report .debug message = console := by
  have hidden : console.shows .debug = false := by
    rw [shows, quiet]
    rfl
  rw [report, hidden]
  rfl

end Console

/-- Both transports bring a body back for the same statuses. -/
theorem isSuccess_iff {status : Int} :
    isSuccess status = true ↔ 200 ≤ status ∧ status ≤ 299 := by
  simp only [isSuccess, Bool.and_eq_true, decide_eq_true_eq]
  omega

namespace Transport

/-- The form in which a transport hands a request over, unless it cannot. -/
def handedOver? (transport : Transport) (request : Request) : Option SentRequest :=
  match transport with
  | .direct =>
      some (.direct request)
  | .web timeout userAgent =>
      match WebRequest.bodyOf request with
      | .error _ =>
          none
      | .ok body =>
          match WebRequest.ofRequest timeout userAgent body request with
          | .error _ =>
              none
          | .ok prepared =>
              some (.web prepared)

/-- The body or the fault that a request ends with, given the replies to come. -/
def outcome (transport : Transport) (request : Request) (replies : List Reply) :
    Except Fault Value :=
  (transport.exchange request replies { isDebugging := false, printed := [] }).outcome

section Exchange

variable (transport : Transport) (request : Request) (replies : List Reply) (console : Console)

/-- What is handed over depends neither on the replies nor on the console. -/
theorem exchange_sent :
    (transport.exchange request replies console).sent = transport.handedOver? request := by
  cases transport with
  | direct =>
      rfl
  | web timeout userAgent =>
      simp only [exchange, webExchange, handedOver?]
      cases WebRequest.bodyOf request with
      | error fault =>
          rfl
      | ok body =>
          simp only
          cases WebRequest.ofRequest timeout userAgent body request <;> rfl

/-- What a request ends with does not depend on what has been printed. -/
theorem exchange_outcome :
    (transport.exchange request replies console).outcome =
      transport.outcome request replies := by
  cases transport with
  | direct =>
      rfl
  | web timeout userAgent =>
      simp only [outcome, exchange, webExchange]
      cases WebRequest.bodyOf request with
      | error fault =>
          rfl
      | ok body =>
          simp only
          cases WebRequest.ofRequest timeout userAgent body request <;> rfl

/-- One reply is used up by a request that is handed over, and none by any other. -/
theorem exchange_replies :
    (transport.exchange request replies console).replies =
      replies.drop (transport.handedOver? request).toList.length := by
  cases transport with
  | direct =>
      rfl
  | web timeout userAgent =>
      simp only [exchange, webExchange, handedOver?]
      cases WebRequest.bodyOf request with
      | error fault =>
          rfl
      | ok body =>
          simp only
          cases WebRequest.ofRequest timeout userAgent body request <;> rfl

/-- An exchange does not switch debugging on or off. -/
theorem exchange_isDebugging :
    (transport.exchange request replies console).console.isDebugging = console.isDebugging := by
  cases transport with
  | direct =>
      rfl
  | web timeout userAgent =>
      simp only [exchange, webExchange]
      cases WebRequest.bodyOf request with
      | error fault =>
          rfl
      | ok body =>
          simp only
          cases WebRequest.ofRequest timeout userAgent body request with
          | error fault =>
              exact Console.report_isDebugging _ _ _
          | ok prepared =>
              simp only [replyReported]
              split
              · split
                · rw [Console.report_isDebugging, Console.report_isDebugging]
                · exact Console.report_isDebugging _ _ _
              · exact Console.report_isDebugging _ _ _

end Exchange

/-- A body comes back only for a request that was handed over and answered by a success. -/
theorem outcome_eq_ok
    {transport : Transport}
    {request : Request}
    {replies : List Reply}
    {body : Value}
    (answered : transport.outcome request replies = .ok body) :
    (∃ handed, transport.handedOver? request = some handed) ∧
      ∃ status rest, replies = .answered status body :: rest ∧ isSuccess status = true := by
  cases transport with
  | direct =>
      refine ⟨⟨_, rfl⟩, ?_⟩
      cases replies with
      | nil =>
          cases answered
      | cons reply rest =>
          cases reply with
          | failed fault =>
              cases fault <;> cases answered
          | answered status content =>
              simp only [outcome, exchange, directExchange, List.head?_cons, Option.getD_some,
                directOutcome] at answered
              split at answered
              · next succeeded =>
                  cases answered
                  exact ⟨status, rest, rfl, isSuccess_iff.mpr succeeded⟩
              · cases answered
  | web timeout userAgent =>
      simp only [outcome, exchange, webExchange] at answered
      simp only [handedOver?]
      cases written : WebRequest.bodyOf request with
      | error fault =>
          simp only [written] at answered
          cases answered
      | ok posted =>
          simp only [written] at answered ⊢
          cases prepared : WebRequest.ofRequest timeout userAgent posted request with
          | error fault =>
              simp only [prepared] at answered
              cases answered
          | ok handed =>
              simp only [prepared] at answered
              refine ⟨⟨_, rfl⟩, ?_⟩
              cases replies with
              | nil =>
                  cases answered
              | cons reply rest =>
                  cases reply with
                  | failed fault =>
                      cases answered
                  | answered status content =>
                      simp only [List.head?_cons, Option.getD_some, webOutcome] at answered
                      split at answered
                      · cases answered
                      · split at answered
                        · next succeeded =>
                            cases answered
                            exact ⟨status, rest, rfl, succeeded⟩
                        · cases answered

end Transport

end SessionHandshake
