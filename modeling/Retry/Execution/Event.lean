import Retry.Context

/-! What an observer is told of each attempt, once it is decided what happens next. -/
namespace Retry

/-- How an attempt ended. -/
inductive AttemptOutcome where
  | accepted
  | rejected
  | retriableError
  | nonRetriableError
deriving DecidableEq

namespace AttemptOutcome

def all : List AttemptOutcome := [.accepted, .rejected, .retriableError, .nonRetriableError]

/-- The name in log records. -/
def name : AttemptOutcome → String
  | .accepted => "accepted"
  | .rejected => "rejected"
  | .retriableError => "retriable_error"
  | .nonRetriableError => "non_retriable_error"

instance : Inspect AttemptOutcome where
  inspect
    | .accepted => "Accepted"
    | .rejected => "Rejected"
    | .retriableError => "RetriableError"
    | .nonRetriableError => "NonRetriableError"

end AttemptOutcome

/-- `delay` is the wait before the next attempt, if another attempt was decided on, and
`failure` is absent from an accepted attempt. -/
structure Event where
  attempt : Attempt
  outcome : AttemptOutcome
  delay : Option Duration
  elapsed : Duration
  failure : Option Failure
deriving DecidableEq

namespace Event

def retrying (e : Event) : Bool := e.delay.isSome

/-- The event of the context in which an attempt ended. -/
def ofContext (c : Context) (outcome : AttemptOutcome) (delay : Option Duration) : Event where
  attempt := c.attempt
  outcome := outcome
  delay := delay
  elapsed := c.elapsed
  failure := if outcome = .accepted then none else c.lastFailure

end Event

/-- Who is told of the attempts. -/
inductive Observer where
  | silent
  | recording (name : String)
deriving DecidableEq

/-- The events that the observer keeps, each under its name. -/
def Observer.keep : Observer → List Event → List (String × Event)
  | .silent, _ => []
  | .recording name, events => events.map (name, ·)

end Retry
