import Retry.Execution.Error
import Retry.Record

/-! Reading records. The record of an event says what the event is about (`Record.Describes`), so an
attempt can be read off it (`Record.brief?`), and the last record of a run tells whether the run
has returned, and how (`Record.resultKind?`). Reading goes by the names of the fields, not by
their places. Around the records of the events, `Record.Opens` and `Record.Closes` say all that
there is in the record with which an execution starts and in the one of a cut wait. -/
namespace Retry

variable {T E : Type}

/-- The attempt of an event as far as its record shows it. -/
structure Brief where
  attempt : Attempt
  outcome : AttemptOutcome
  retrying : Bool
  failure : Option String
deriving DecidableEq

def Event.brief (e : Event) : Brief :=
  ⟨e.attempt, e.outcome, e.retrying, e.failure.map Failure.message⟩

/-- The ways in which an execution can return. -/
inductive ResultKind where
  | value
  | operation
  | rejection
  | cancellation
  | runtime
deriving DecidableEq

def ResultKind.of : Except (RunError E) T → ResultKind
  | .ok _ => .value
  | .error (.operation _) => .operation
  | .error (.resultRejected _) => .rejection
  | .error (.cancelled _) => .cancellation
  | .error (.runtime _) => .runtime

/-- How an execution returns by its last attempt, if no other attempt was decided on. -/
def Brief.resultKind? (b : Brief) : Option ResultKind :=
  if b.retrying then none
  else
    match b.outcome with
    | .accepted => some .value
    | .rejected => some .rejection
    | .retriableError | .nonRetriableError => some .operation

def AttemptOutcome.ofName? (name : String) : Option AttemptOutcome :=
  all.find? fun outcome => outcome.name = name

theorem AttemptOutcome.ofName?_name (outcome : AttemptOutcome) :
    ofName? outcome.name = some outcome := by
  cases outcome <;> decide

def FieldValue.text? : FieldValue → Option String
  | .text s => some s
  | _ => none

namespace Record

def field? (r : Record) (name : String) : Option FieldValue := r.fields.lookup name

/-- The attempt that a record is about, if it is about one. -/
def brief? (r : Record) : Option Brief :=
  match r.field? "attempt",
    ((r.field? "outcome").bind FieldValue.text?).bind AttemptOutcome.ofName? with
  | some (.number attempt), some outcome =>
    some ⟨attempt.toUInt32, outcome, r.field? "retrying" = some (.flag true),
      (r.field? "failure").bind FieldValue.text?⟩
  | _, _ => none

/-- How a run has returned if this is its last record. -/
def resultKind? (records : List Record) : Option ResultKind :=
  records.getLast?.bind fun last =>
    if last.title = "Retry cancelled while waiting" then some .cancellation
    else last.brief?.bind Brief.resultKind?

/-- What a record has to say of an event. -/
structure Describes (r : Record) (e : Event) : Prop where
  form : r.form = .event
  attempt : r.field? "attempt" = some (.number e.attempt.toUInt64)
  outcome : r.field? "outcome" = some (.text e.outcome.name)
  failure : r.field? "failure" = e.failure.map fun f => .text f.message
  decided : e.outcome ≠ .accepted → r.field? "retrying" = some (.flag e.retrying)
  accepted : e.outcome = .accepted → r.title = "Attempt accepted" ∧ r.level = .debug
  retrying : e.outcome ≠ .accepted → ∀ d, e.delay = some d →
    r.title = "Attempt failed, retrying" ∧ r.level = .warn ∧
      ∃ ms, r.field? "delay_ms" = some (.number ms) ∧ ms.toNat = d.nanos / 1000000 % 2 ^ 64
  declined : e.outcome = .nonRetriableError → e.delay = none →
    r.title = "Attempt failed with non-retriable error" ∧ r.level = .debug
  exhausted : e.outcome = .rejected ∨ e.outcome = .retriableError → e.delay = none →
    r.title = "Retries exhausted" ∧ r.level = .warn

/-- All that the record with which an execution starts says of it. -/
structure Opens (r : Record) (s : Strategy) : Prop where
  form : r.form = .span
  title : r.title = "run"
  level : r.level = .debug
  fields : r.fields = [("strategy", .text (inspect s))]

/-- All that the record of a cut wait says of the attempt before it. -/
structure Closes (r : Record) (attempt : Attempt) : Prop where
  form : r.form = .event
  title : r.title = "Retry cancelled while waiting"
  level : r.level = .debug
  fields : r.fields = [("attempt", .number attempt.toUInt64)]

theorem opens_started (s : Strategy) : (started s).Opens s := ⟨rfl, rfl, rfl, rfl⟩

theorem closes_cancelled (attempt : Attempt) : (cancelled attempt).Closes attempt :=
  ⟨rfl, rfl, rfl, rfl⟩

end Record

/-- An accepted attempt has no failure and is not followed by another. -/
def Event.Coherent (e : Event) : Prop := e.outcome = .accepted → e.delay = none ∧ e.failure = none

namespace Record

section

variable (e : Event)

theorem field?_attempt_ofEvent :
    (ofEvent e).field? "attempt" = some (.number e.attempt.toUInt64) := by
  obtain ⟨attempt, outcome, delay, elapsed, failure⟩ := e
  cases outcome <;> cases delay <;> rfl

theorem field?_outcome_ofEvent : (ofEvent e).field? "outcome" = some (.text e.outcome.name) := by
  obtain ⟨attempt, outcome, delay, elapsed, failure⟩ := e
  cases outcome <;> cases delay <;> rfl

theorem field?_retrying_ofEvent :
    (ofEvent e).field? "retrying" =
      if e.outcome = .accepted then none else some (.flag e.retrying) := by
  obtain ⟨attempt, outcome, delay, elapsed, failure⟩ := e
  cases outcome <;> cases delay <;> cases failure <;> rfl

variable {e}

theorem field?_failure_ofEvent (coherent : e.Coherent) :
    (ofEvent e).field? "failure" = e.failure.map fun f => .text f.message := by
  obtain ⟨attempt, outcome, delay, elapsed, failure⟩ := e
  cases outcome with
  | accepted =>
    obtain ⟨_, unfailed⟩ := coherent rfl
    obtain rfl : failure = none := unfailed
    rfl
  | rejected | retriableError | nonRetriableError => cases delay <;> cases failure <;> rfl

theorem describes_ofEvent (coherent : e.Coherent) : (ofEvent e).Describes e where
  form := by
    obtain ⟨attempt, outcome, delay, elapsed, failure⟩ := e
    cases outcome <;> cases delay <;> rfl
  attempt := field?_attempt_ofEvent e
  outcome := field?_outcome_ofEvent e
  failure := field?_failure_ofEvent coherent
  decided failed := by rw [field?_retrying_ofEvent, if_neg failed]
  accepted accepted := by
    obtain ⟨attempt, outcome, delay, elapsed, failure⟩ := e
    obtain rfl : outcome = .accepted := accepted
    exact ⟨rfl, rfl⟩
  retrying failed d delayed := by
    obtain ⟨attempt, outcome, delay, elapsed, failure⟩ := e
    obtain rfl : delay = some d := delayed
    have wraps : (UInt64.ofNat d.millis).toNat = d.nanos / 1000000 % 2 ^ 64 := UInt64.toNat_ofNat'
    cases outcome with
    | accepted => contradiction
    | rejected | retriableError | nonRetriableError => exact ⟨rfl, rfl, _, rfl, wraps⟩
  declined declined undelayed := by
    obtain ⟨attempt, outcome, delay, elapsed, failure⟩ := e
    obtain rfl : outcome = .nonRetriableError := declined
    obtain rfl : delay = none := undelayed
    exact ⟨rfl, rfl⟩
  exhausted failed undelayed := by
    obtain ⟨attempt, outcome, delay, elapsed, failure⟩ := e
    obtain rfl : delay = none := undelayed
    rcases failed with rejected | retriable
    · obtain rfl : outcome = .rejected := rejected
      exact ⟨rfl, rfl⟩
    · obtain rfl : outcome = .retriableError := retriable
      exact ⟨rfl, rfl⟩

/-- An attempt is read off the record of its event. -/
theorem brief?_ofEvent (coherent : e.Coherent) : (ofEvent e).brief? = some e.brief := by
  have outcome : ((some (FieldValue.text e.outcome.name)).bind FieldValue.text?).bind
      AttemptOutcome.ofName? = some e.outcome := AttemptOutcome.ofName?_name e.outcome
  have failure : (e.failure.map fun f => FieldValue.text f.message).bind FieldValue.text? =
      e.failure.map Failure.message := by
    cases e.failure <;> rfl
  have retrying : decide ((if e.outcome = .accepted then none
      else some (FieldValue.flag e.retrying)) = some (.flag true)) = e.retrying := by
    split
    · next accepted => simp [Event.retrying, (coherent accepted).1]
    · simp
  rw [brief?, field?_attempt_ofEvent, field?_outcome_ofEvent, outcome, field?_retrying_ofEvent,
    field?_failure_ofEvent coherent]
  simp only [failure, retrying, UInt32.toUInt32_toUInt64]
  rfl

/-- The record of an attempt is not taken for that of a cut wait. -/
theorem title_ofEvent_ne (e : Event) : (ofEvent e).title ≠ "Retry cancelled while waiting" := by
  obtain ⟨attempt, outcome, delay, elapsed, failure⟩ := e
  cases outcome <;> cases delay <;> simp [ofEvent]

theorem resultKind?_append_ofEvent (coherent : e.Coherent) (before : List Record) :
    resultKind? (before ++ [ofEvent e]) = e.brief.resultKind? := by
  rw [resultKind?, List.getLast?_concat, Option.bind_some, if_neg (title_ofEvent_ne e),
    brief?_ofEvent coherent, Option.bind_some]

theorem resultKind?_append_cancelled (before : List Record) (attempt : Attempt) :
    resultKind? (before ++ [cancelled attempt]) = some .cancellation := by
  rw [resultKind?, List.getLast?_concat, Option.bind_some, if_pos (closes_cancelled attempt).title]

end

end Record

end Retry
