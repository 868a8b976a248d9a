import Retry.Execution.Error
import Retry.Execution.Scenario
import Retry.Record

/-! An execution, round by round. Each round calls the operation once and asks the
condition; a round that asks for another attempt consults the policy, announces its
decision and waits. All that a round does is listed in order, so that statements
about an execution are statements about a list of actions. -/
namespace Retry

/-- How outcomes are judged and attempts are spaced, and the text of an error. -/
structure Rules (T E : Type) where
  judge : Outcome T E → Verdict
  policy : Policy
  text : E → String

/-- The failure that an outcome leaves behind when it does not end well. -/
def Rules.failure {T E : Type} (r : Rules T E) : Outcome T E → Failure
  | .success _ => .resultRejected
  | .failure error => .error (r.text error)

inductive Action (T E : Type) where
  | invoke
  | judge (outcome : Outcome T E) (verdict : Verdict)
  | consult (context : Context) (answer : Bool)
  | space (context : Context) (delay : Duration)
  | write (record : Record)
  | tell (event : Event)
  | sleep (delay : Duration)
deriving DecidableEq

namespace Action

variable {T E : Type}

def isInvoke : Action T E → Bool
  | .invoke => true
  | _ => false

def event? : Action T E → Option Event
  | .tell event => some event
  | _ => none

def record? : Action T E → Option Record
  | .write record => some record
  | _ => none

def asked : Action T E → List String
  | .judge _ verdict => verdict.asked
  | _ => []

/-- An attempt is logged, and then told. -/
def report (event : Event) : List (Action T E) := [.write (.ofEvent event), .tell event]

end Action

/-- An execution between two rounds. The rounds are counted without end, the attempts
of the context are not. -/
structure Pause where
  rounds : Nat
  context : Context
  token : Token
deriving DecidableEq

namespace Pause

def first (start : Duration) (token : Token) : Pause := ⟨0, .fresh 1 start, token⟩

def now (p : Pause) : Duration := p.context.now

end Pause

/-- The end of an execution: its result, the clock, and its token. -/
structure Ending (T E : Type) where
  result : Except (RunError E) T
  finish : Duration
  token : Token

inductive Stage (T E : Type) where
  | paused (pause : Pause)
  | ended (ending : Ending T E)

/-- What a round does, and where it leaves the execution. -/
structure Round (T E : Type) where
  actions : List (Action T E)
  stage : Stage T E

/-- How a wait ends. -/
inductive WaitEnd where
  | over (wake : Duration)
  | cut (moment : Duration)
deriving DecidableEq

/-- A wait from `now`. A watched token is looked at before the sleep, so that it cuts a
wait without delay as well; a token cancelled at the very end of a sleep comes first. -/
def Timer.wait (t : Timer) (watched : Bool) (token : Token) (now delay : Duration) : WaitEnd :=
  let wake := if delay = .zero then now else t.wake now delay
  match watched, token.cancelledFrom with
  | true, some moment =>
    if moment ≤ now then .cut now else if moment ≤ wake then .cut moment else .over wake
  | _, _ => .over wake

namespace Rules

variable {T E : Type}

/-- The result when the policy refuses another attempt. -/
def refusal (attempt : Attempt) : Outcome T E → RunError E
  | .success _ => .resultRejected attempt
  | .failure error => .operation error

/-- How a failed attempt is named when another one was asked for. -/
def asksAgain : Outcome T E → AttemptOutcome
  | .success _ => .rejected
  | .failure _ => .retriableError

/-- The rest of a round whose outcome asks for another attempt. -/
def consult (r : Rules T E) (w : Scenario T E) (watched : Bool) (rounds : Nat)
    (outcome : Outcome T E) (c : Context) (token : Token) : Round T E :=
  if r.policy.permits c then
    let delay := r.policy.delay c (w.draw rounds)
    let done := [.consult c true, .space c delay] ++
      Action.report (.ofContext c (asksAgain outcome) (some delay)) ++ [.sleep delay]
    match w.timer.wait watched token c.now delay with
    | .over wake => ⟨done, .paused ⟨rounds + 1, c.advance wake, token⟩⟩
    | .cut moment =>
      ⟨done ++ [.write (.cancelled c.attempt)],
        .ended ⟨.error (.cancelled c.attempt), moment, token⟩⟩
  else
    ⟨.consult c false :: Action.report (.ofContext c (asksAgain outcome) none),
      .ended ⟨.error (refusal c.attempt outcome), c.now, token⟩⟩

/-- One round. -/
def round (r : Rules T E) (w : Scenario T E) (watched : Bool) (p : Pause) : Round T E :=
  let call := w.call p.rounds
  let now := p.now + call.takes
  let token := if call.cancels then p.token.cancel now else p.token
  let verdict := r.judge call.outcome
  let start := [.invoke, .judge call.outcome verdict]
  let failed := p.context.record now (r.failure call.outcome)
  if verdict.retry then
    let rest := r.consult w watched p.rounds call.outcome failed token
    ⟨start ++ rest.actions, rest.stage⟩
  else
    match call.outcome with
    | .success value =>
      ⟨start ++ Action.report (.ofContext { p.context with now := now } .accepted none),
        .ended ⟨.ok value, now, token⟩⟩
    | .failure error =>
      ⟨start ++ Action.report (.ofContext failed .nonRetriableError none),
        .ended ⟨.error (.operation error), now, token⟩⟩

theorem countP_isInvoke_round (r : Rules T E) (w : Scenario T E) (watched : Bool) (p : Pause) :
    (r.round w watched p).actions.countP Action.isInvoke = 1 := by
  unfold round
  simp only
  split
  · simp only [consult]
    split
    · split <;> rfl
    · rfl
  · split <;> rfl

end Rules

/-- An execution under way: all that it has done, and where it stands. -/
structure Progress (T E : Type) where
  log : Array (Action T E)
  stage : Stage T E

namespace Progress

variable {T E : Type}

/-- One more round, unless the execution has ended. -/
def advance (r : Rules T E) (w : Scenario T E) (watched : Bool) (p : Progress T E) :
    Progress T E :=
  match p.stage with
  | .paused pause =>
    let next := r.round w watched pause
    ⟨p.log ++ next.actions, next.stage⟩
  | .ended _ => p

/-- At most `n` more rounds. -/
def resume (r : Rules T E) (w : Scenario T E) (watched : Bool) :
    Nat → Progress T E → Progress T E
  | 0, p => p
  | n + 1, p =>
    match p.stage with
    | .ended _ => p
    | .paused _ => resume r w watched n (p.advance r w watched)

section

variable {r : Rules T E} {w : Scenario T E} {watched : Bool}

theorem resume_of_ended {p : Progress T E} {e : Ending T E} (h : p.stage = .ended e) (n : Nat) :
    p.resume r w watched n = p := by
  cases n with
  | zero => rfl
  | succ n => simp [resume, h]

theorem resume_succ (p : Progress T E) (n : Nat) :
    p.resume r w watched (n + 1) = (p.advance r w watched).resume r w watched n := by
  cases h : p.stage with
  | ended e =>
    have same : p.advance r w watched = p := by simp [advance, h]
    rw [same, resume_of_ended h, resume_of_ended h]
  | paused pause => simp [resume, h]

theorem resume_add (p : Progress T E) (m n : Nat) :
    p.resume r w watched (m + n) = (p.resume r w watched m).resume r w watched n := by
  induction m generalizing p with
  | zero => rw [Nat.zero_add]; rfl
  | succ m ih => rw [Nat.succ_add, resume_succ, ih, ← resume_succ]

end

def ending? (p : Progress T E) : Option (Ending T E) :=
  match p.stage with
  | .ended ending => some ending
  | .paused _ => none

/-- How often the operation was called. -/
def calls (p : Progress T E) : Nat := p.log.countP Action.isInvoke

def events (p : Progress T E) : List Event := p.log.toList.filterMap Action.event?

def records (p : Progress T E) : List Record := p.log.toList.filterMap Action.record?

/-- The predicates evaluated, in order. -/
def asked (p : Progress T E) : List String := p.log.toList.flatMap Action.asked

end Progress
end Retry
