import Retry.Proofs.Execution.Modes

/-! Operations that are run for their effect, under a condition that looks at errors only. Such a
condition judges the outcomes of operations with values of any type, and it never asks for another
attempt because of a value. So a function that is put behind an operation changes the values that a
run shows to the condition and returns, and nothing else (`ErrorExecutor.run_map`): each round
commutes with it, and so does the run. The function that forgets the value is one of them. -/
namespace Retry

variable {T U E : Type}

def Call.map (f : T → U) (c : Call T E) : Call U E := ⟨c.outcome.map f, c.takes, c.cancels⟩

/-- The scenario with `f` put behind its operation. -/
def Scenario.map (f : T → U) (w : Scenario T E) : Scenario U E :=
  ⟨fun k => (w.call k).map f, w.draw, w.timer, w.token⟩

/-- Only what is shown to the condition has a value. -/
def Action.map (f : T → U) : Action T E → Action U E
  | .invoke => .invoke
  | .judge outcome verdict => .judge (outcome.map f) verdict
  | .consult c answer => .consult c answer
  | .space c delay => .space c delay
  | .write record => .write record
  | .tell event => .tell event
  | .sleep delay => .sleep delay

def Ending.map (f : T → U) (e : Ending T E) : Ending U E := ⟨e.result.map f, e.finish, e.token⟩

def Stage.map (f : T → U) : Stage T E → Stage U E
  | .paused p => .paused p
  | .ended e => .ended (e.map f)

def Round.map (f : T → U) (r : Round T E) : Round U E := ⟨r.actions.map (·.map f), r.stage.map f⟩

def Progress.map (f : T → U) (p : Progress T E) : Progress U E :=
  ⟨p.log.map (·.map f), p.stage.map f⟩

/-- A question to the policy, and its answer. -/
inductive Consultation where
  | permits (context : Context) (answer : Bool)
  | delay (context : Context) (delay : Duration)

def Action.consultation? : Action T E → Option Consultation
  | .consult c answer => some (.permits c answer)
  | .space c delay => some (.delay c delay)
  | _ => none

namespace Progress

def consultations (p : Progress T E) : List Consultation :=
  p.log.toList.filterMap Action.consultation?

variable (f : T → U) (p : Progress T E)

theorem calls_map : (p.map f).calls = p.calls := by
  have each (a : Action T E) : (a.map f).isInvoke = a.isInvoke := by cases a <;> rfl
  rw [calls, calls, map, Array.countP_map]
  exact congrArg (p.log.countP ·) (funext each)

/-- What is read off the actions without looking at values stays as it was. -/
theorem filterMap_log_map {α : Type} {g : Action T E → Option α} {h : Action U E → Option α}
    (same : ∀ a, h (a.map f) = g a) :
    (p.map f).log.toList.filterMap h = p.log.toList.filterMap g := by
  rw [map, Array.toList_map, List.filterMap_map]
  exact congrArg (p.log.toList.filterMap ·) (funext same)

theorem consultations_map : (p.map f).consultations = p.consultations :=
  p.filterMap_log_map f fun a => by cases a <;> rfl

theorem events_map : (p.map f).events = p.events :=
  p.filterMap_log_map f fun a => by cases a <;> rfl

theorem ending?_map : (p.map f).ending? = p.ending?.map (Ending.map f) := by
  rw [ending?, ending?, map]
  cases p.stage <;> rfl

end Progress

namespace Rules

/-- `s` judges an outcome to which `f` was applied as `r` judges the outcome itself, and does
nothing else differently. -/
structure Along (f : T → U) (r : Rules T E) (s : Rules U E) : Prop where
  judge : ∀ outcome, s.judge (outcome.map f) = r.judge outcome
  policy : s.policy = r.policy
  text : s.text = r.text

namespace Along

variable {f : T → U} {r : Rules T E} {s : Rules U E}

theorem failure (along : r.Along f s) (outcome : Outcome T E) :
    s.failure (outcome.map f) = r.failure outcome := by
  cases outcome with
  | success value => rfl
  | failure error => exact congrArg (fun text => Failure.error (text error)) along.text

theorem consult_map (along : r.Along f s) (w : Scenario T E) (watched : Bool) (k : Nat)
    (outcome : Outcome T E) (c : Context) (token : Token) :
    s.consult (w.map f) watched k (outcome.map f) c token =
      (r.consult w watched k outcome c token).map f := by
  have asks : asksAgain (outcome.map f) = asksAgain outcome := by cases outcome <;> rfl
  have refuses : refusal c.attempt (outcome.map f) = refusal c.attempt outcome := by
    cases outcome <;> rfl
  simp only [consult, along.policy, asks, refuses, Scenario.map]
  split
  · split <;> rfl
  · rfl

theorem round_map (along : r.Along f s) (w : Scenario T E) (watched : Bool) (p : Pause) :
    s.round (w.map f) watched p = (r.round w watched p).map f := by
  have call : (w.map f).call p.rounds = (w.call p.rounds).map f := rfl
  simp only [round, call, Call.map, along.judge, along.failure, along.consult_map]
  split
  · simp [Round.map, Action.map]
  · cases (w.call p.rounds).outcome <;> rfl

end Along
end Rules

namespace Progress

variable {f : T → U} {r : Rules T E} {s : Rules U E}

theorem advance_map (along : r.Along f s) (w : Scenario T E) (watched : Bool)
    (p : Progress T E) :
    (p.map f).advance s (w.map f) watched = (p.advance r w watched).map f := by
  obtain ⟨log, stage⟩ := p
  cases stage with
  | ended e => rfl
  | paused pause =>
    have round := along.round_map w watched pause
    have log : (log ++ (r.round w watched pause).actions).map (·.map f) =
        log.map (·.map f) ++ (r.round w watched pause).actions.map (·.map f) := by
      rw [← Array.toList_inj]
      simp
    simp only [advance, map, Stage.map, round, Round.map, log]

/-- Runs commute with `f` because their rounds do. -/
theorem resume_map (along : r.Along f s) (w : Scenario T E) (watched : Bool) (n : Nat)
    (p : Progress T E) :
    (p.map f).resume s (w.map f) watched n = (p.resume r w watched n).map f := by
  induction n generalizing p with
  | zero => rfl
  | succ n ih => rw [resume_succ, resume_succ, advance_map along, ih]

end Progress

/-- A condition that looks at errors only. It judges the outcomes of operations with values of any
type. -/
inductive ErrorCondition (E : Type) where
  | errorKinds (kinds : ErrorKinds)
  | errorPredicate (type : String) (predicate : Predicate E)
  | either (left right : ErrorCondition E)
  | shared (inner : ErrorCondition E)

namespace ErrorCondition

/-- The condition on operations with values of type `T`. -/
def on (T : Type) : ErrorCondition E → Condition T E
  | .errorKinds kinds => .errorKinds kinds
  | .errorPredicate type predicate => .errorPredicate type predicate
  | .either left right => .either (left.on T) (right.on T)
  | .shared inner => .shared (inner.on T)

variable [Chained E]

theorem verdict_success [TextCarrier T] (c : ErrorCondition E) (value : T) :
    (c.on T).verdict (.success value) = ⟨false, []⟩ := by
  induction c with
  | errorKinds | errorPredicate => rfl
  | either left right first second =>
    rw [on, Condition.verdict, first, second]
    rfl
  | shared inner ih => rw [on, Condition.verdict, ih]

theorem verdict_failure [TextCarrier T] [TextCarrier U] (c : ErrorCondition E) (error : E) :
    (c.on U).verdict (.failure error) = (c.on T).verdict (.failure error) := by
  induction c with
  | errorKinds | errorPredicate => rfl
  | either left right first second =>
    rw [on, on, Condition.verdict, Condition.verdict, first, second]
  | shared inner ih => rw [on, on, Condition.verdict, Condition.verdict, ih]

end ErrorCondition

/-- An executor whose condition looks at errors only. -/
structure ErrorExecutor (E : Type) where
  strategy : Strategy
  condition : ErrorCondition E
  observer : Observer

/-- What an operation that is run for its effect returns. -/
def Executor.actionResult? [Chained E] (x : Executor Unit E) (mode : Mode) (w : Scenario T E)
    (limit : Nat) : Option (Except (RunError E) Unit) :=
  (x.runAction mode w limit).ending?.map Ending.result

namespace ErrorExecutor

/-- The executor as it drives operations with values of type `T`. -/
def on (T : Type) (x : ErrorExecutor E) : Executor T E :=
  ⟨x.strategy, x.condition.on T, x.observer⟩

theorem start_map (x : ErrorExecutor E) (w : Scenario T E) (f : T → U) (start : Duration) :
    (x.on U).start (w.map f) start = ((x.on T).start w start).map f := by
  simp [Executor.start, Progress.map, Action.map, Stage.map, Scenario.map, on]

variable [TextCarrier T] [TextCarrier U] [Chained E] (x : ErrorExecutor E) (mode : Mode)
  (w : Scenario T E) (n : Nat)

theorem rules_along (f : T → U) : (x.on T).rules.Along f (x.on U).rules where
  judge outcome := by
    cases outcome with
    | success value =>
      exact (x.condition.verdict_success (f value)).trans (x.condition.verdict_success value).symm
    | failure error => exact x.condition.verdict_failure error
  policy := rfl
  text := rfl

/-- A function behind the operation shows in the values of a run only. -/
theorem run_map (f : T → U) :
    (x.on U).run mode (w.map f) n = ((x.on T).run mode w n).map f := by
  rw [Executor.run, x.start_map w f, Progress.resume_map (x.rules_along f), Executor.run]

theorem result?_map (f : T → U) :
    (x.on U).result? mode (w.map f) n = ((x.on T).result? mode w n).map (Except.map f) := by
  rw [Executor.result?, Executor.result?, x.run_map mode w n f, Progress.ending?_map,
    Option.map_map, Option.map_map]
  rfl

/-- A value is never asked for another attempt, so none is rejected. -/
theorem result?_ne_resultRejected (k : Attempt) :
    (x.on T).result? mode w n ≠ some (.error (.resultRejected k)) := by
  have kept (value : T) : ((x.on T).rules.judge (.success value)).retry = false :=
    congrArg Verdict.retry (x.condition.verdict_success value)
  have never (j : Nat) (outcome : Outcome T E) :
      (x.on T).rules.resultOf j outcome ≠ .error (.resultRejected k) := by
    cases outcome with
    | success value => simp [Rules.resultOf, kept]
    | failure error => simp [Rules.resultOf]
  induction n with
  | zero => simp [Executor.result?, Executor.run, Progress.resume, Executor.start, Progress.ending?]
  | succ n ih =>
    cases stage : ((x.on T).run mode w n).stage with
    | paused p =>
      rw [Executor.result?_succ_of_paused stage]
      split
      · exact fun rejected => never n _ (Option.some.inj rejected)
      · split <;> simp
    | ended e =>
      rw [Executor.result?, Executor.run_of_ended stage (Nat.le_succ n)]
      exact ih

/-- An operation that is run for its effect is driven as it is for its value. It is called equally
often, the policy is asked the same and the observer is told the same; it returns when a value is
returned, or else the same error, which is never that of a rejected value. -/
theorem runAction_discards_values (x : ErrorExecutor E) (mode : Mode) (w : Scenario T E) (n : Nat) :
    (x.on Unit).runAction mode w n = ((x.on T).run mode w n).map (fun _ => ()) ∧
    ((x.on Unit).runAction mode w n).calls = ((x.on T).run mode w n).calls ∧
    ((x.on Unit).runAction mode w n).consultations = ((x.on T).run mode w n).consultations ∧
    ((x.on Unit).runAction mode w n).events = ((x.on T).run mode w n).events ∧
    ((x.on Unit).actionResult? mode w n = some (.ok ()) ↔
      ∃ value, (x.on T).result? mode w n = some (.ok value)) ∧
    (∀ error, (x.on Unit).actionResult? mode w n = some (.error error) ↔
      (x.on T).result? mode w n = some (.error error)) ∧
    ∀ attempts, (x.on Unit).actionResult? mode w n ≠ some (.error (.resultRejected attempts)) := by
  have discarded : (x.on Unit).runAction mode w n = ((x.on T).run mode w n).map fun _ => () :=
    x.run_map mode w n fun _ => ()
  have returns : (x.on Unit).actionResult? mode w n =
      ((x.on T).result? mode w n).map (Except.map fun _ => ()) :=
    x.result?_map mode w n fun _ => ()
  refine ⟨discarded, ?_, ?_, ?_, ?_, ?_, ?_⟩
  · rw [discarded, Progress.calls_map]
  · rw [discarded, Progress.consultations_map]
  · rw [discarded, Progress.events_map]
  · rw [returns]
    rcases (x.on T).result? mode w n with _ | error | value <;> simp [Except.map]
  · intro error
    rw [returns]
    rcases (x.on T).result? mode w n with _ | error | value <;> simp [Except.map]
  · exact x.result?_ne_resultRejected mode w.discard n

end ErrorExecutor

/-- A timeout is worth another attempt, and so is a refusal. -/
def forgiving : ErrorExecutor Cause where
  strategy := .fixed ⟨3, .ofMillis 5⟩
  condition := .either (.shared (.errorKinds (.of "Timeout")))
    (.errorPredicate "Cause" ⟨some "refusal", fun error => error.message == "refused"⟩)
  observer := .recording "events"

theorem forgiving_runAction :
    ((forgiving.on Unit).runAction .cancellable slowStart 2).calls = 2 ∧
      (forgiving.on Unit).actionResult? .cancellable slowStart 2 = some (.ok ()) ∧
      (forgiving.on Unit).actionResult? .cancellable halted 2 =
        some (.error (.cancelled 1)) := by
  obtain ⟨-, calls, -, -, accepted, -, -⟩ :=
    forgiving.runAction_discards_values .cancellable slowStart 2
  obtain ⟨-, -, -, -, -, failed, -⟩ := forgiving.runAction_discards_values .cancellable halted 2
  exact ⟨calls.trans rfl, accepted.mpr ⟨"done", rfl⟩, (failed _).mpr rfl⟩

end Retry
