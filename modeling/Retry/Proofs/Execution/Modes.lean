import Retry.Proofs.Execution.AttemptBound
import Retry.Proofs.Execution.Comparison

/-! The ways in which an execution is driven do not show in what it does. A token that is never
cancelled leaves the run as it is without one. A blocking run has a clock of its own, so it is
compared up to the readings of the clock, and only under a policy that does not look at it
(`Policy.Timeless`). An operation that is run for its effect is one whose values say nothing. No
run is compared with another one before its decisions are: `Rules.Alike` is all that the
comparison of the rounds needs. -/
namespace Retry

variable {T E : Type}

/-- The policy answers by the number of the attempt, its failure and the draw, whatever the clock
says. -/
def Policy.Timeless (p : Policy) : Prop :=
  ∀ c d : Context, c.attempt = d.attempt → c.lastFailure = d.lastFailure →
    p.permits c = p.permits d ∧ ∀ draw, p.delay c draw = p.delay d draw

/-- Strategies that count attempts do not look at the clock. -/
theorem Strategy.timeless_of_bound {s : Strategy} {n : UInt32} (bound : s.bound? = some n) :
    s.policy.Timeless := by
  intro c d attempt _
  refine ⟨by rw [permits_of_bound bound, permits_of_bound bound, attempt], fun draw => ?_⟩
  induction s with
  | fixed f => rfl
  | growing b => exact congrArg (b.delay · draw) attempt
  | limited | custom => contradiction
  | shared inner ih => exact ih bound

namespace Scenario

/-- The operation brings the same outcomes, and the draws are the same. -/
structure SameScript (w v : Scenario T E) : Prop where
  outcome : ∀ k, (v.call k).outcome = (w.call k).outcome
  draw : ∀ k, v.draw k = w.draw k

/-- All is the same but who is cancelled, and when. -/
structure SameCourse (w v : Scenario T E) : Prop extends SameScript w v where
  takes : ∀ k, (v.call k).takes = (w.call k).takes
  timer : v.timer = w.timer

/-- The operation of `u` is that of `w`, with values that say nothing. -/
structure Effect (w : Scenario T E) (u : Scenario Unit E) : Prop where
  success : ∀ k value, (w.call k).outcome = .success value → (u.call k).outcome = .success ()
  failure : ∀ k error, (w.call k).outcome = .failure error → (u.call k).outcome = .failure error
  takes : ∀ k, (u.call k).takes = (w.call k).takes
  cancels : ∀ k, (u.call k).cancels = (w.call k).cancels
  draw : u.draw = w.draw
  timer : u.timer = w.timer
  token : u.token = w.token

theorem Effect.eq_discard {w : Scenario T E} {u : Scenario Unit E} (effect : w.Effect u) :
    u = w.discard := by
  have outcome (k : Nat) : (u.call k).outcome = (w.call k).outcome.discard := by
    cases brings : (w.call k).outcome with
    | success value => exact effect.success k value brings
    | failure error => exact effect.failure k error brings
  have call (k : Nat) : u.call k = (w.call k).discard := by
    change (⟨(u.call k).outcome, (u.call k).takes, (u.call k).cancels⟩ : Call Unit E) = _
    rw [outcome, effect.takes, effect.cancels]
    rfl
  change (⟨u.call, u.draw, u.timer, u.token⟩ : Scenario Unit E) = _
  rw [funext call, effect.draw, effect.timer, effect.token]
  rfl

end Scenario

/-- The context but for the clock. -/
def Context.untimed (c : Context) : Context := { c with start := .zero, now := .zero }

/-- The event but for its age. -/
def Event.untimed (e : Event) : Event := { e with elapsed := .zero }

/-- The action but for the clock. Log records, some of which give the age of an event, are left
out. -/
def Action.untimed? : Action T E → Option (Action T E)
  | .consult c answer => some (.consult c.untimed answer)
  | .space c delay => some (.space c.untimed delay)
  | .tell e => some (.tell e.untimed)
  | .write _ => none
  | a => some a

/-- All that was done, but for the clock. -/
def Progress.untimed (p : Progress T E) : List (Action T E) :=
  p.log.toList.filterMap Action.untimed?

namespace Rules

/-- The policy answers alike after every round. -/
structure Alike (r : Rules T E) (w v : Scenario T E) : Prop where
  outcome : ∀ k, (v.call k).outcome = (w.call k).outcome
  permits : ∀ k, r.policy.permits (r.decision v k) = r.policy.permits (r.decision w k)
  gap : ∀ k, r.gap v k = r.gap w k

variable {r : Rules T E} {w v : Scenario T E} {k : Nat} {watched other : Bool}

theorem decision_of_sameCourse (same : w.SameCourse v) (k : Nat) :
    r.decision v k = r.decision w k := by
  induction k with
  | zero => simp only [decision, same.outcome, same.takes]
  | succ k ih => simp only [decision, ih, same.outcome, same.takes, same.draw, same.timer]

theorem untimed_decision_of_sameScript (same : w.SameScript v) (k : Nat) :
    (r.decision v k).untimed = (r.decision w k).untimed := by
  have failure := r.lastFailure_decision v k
  rw [same.outcome k, ← r.lastFailure_decision w k] at failure
  have attempt := (r.attempt_decision v k).trans (r.attempt_decision w k).symm
  simp only [Context.untimed, failure, attempt]

/-- But for its age, an event does not depend on the clock. -/
theorem untimed_event (r : Rules T E) (w : Scenario T E) (k : Nat) :
    (r.event w k).untimed = .ofContext (r.decision w k).untimed
      ((w.call k).outcome.grade (r.judge (w.call k).outcome).retry) (r.delay? w k) :=
  rfl

theorem Alike.of_sameCourse (same : w.SameCourse v) : r.Alike w v where
  outcome := same.outcome
  permits k := by rw [decision_of_sameCourse same]
  gap k := by rw [Rules.gap, decision_of_sameCourse same, same.draw, Rules.gap]

theorem Alike.of_timeless (timeless : r.policy.Timeless) (same : w.SameScript v) :
    r.Alike w v := by
  have answers (k : Nat) := timeless (r.decision v k) (r.decision w k)
    ((r.attempt_decision v k).trans (r.attempt_decision w k).symm)
    (by rw [lastFailure_decision, lastFailure_decision, same.outcome])
  refine ⟨same.outcome, fun k => (answers k).1, fun k => ?_⟩
  rw [Rules.gap, (answers k).2, same.draw, Rules.gap]

namespace Alike

theorem stops_iff (alike : r.Alike w v) (k : Nat) : r.Stops w k ↔ r.Stops v k := by
  rw [Stops, Stops, alike.outcome, alike.permits]

theorem delay?_eq (alike : r.Alike w v) (k : Nat) : r.delay? v k = r.delay? w k := by
  rw [delay?, delay?, alike.outcome, alike.permits, alike.gap]

end Alike

theorem farewell_of_quiet (quiet : watched = true → w.Quiet) (k : Nat) :
    r.farewell w watched k = [] :=
  if_neg fun cut => r.not_interrupted_of_quiet (quiet cut.2.1) k cut.2.2

theorem departure_of_quiet (quiet : watched = true → w.Quiet) (k : Nat) :
    r.departure w watched k = (r.delay? w k).toList.map .sleep := by
  rw [departure, farewell_of_quiet quiet, List.append_nil]

theorem chapter_of_sameCourse (same : w.SameCourse v) (quiet : watched = true → w.Quiet)
    (still : other = true → v.Quiet) (k : Nat) :
    r.chapter v other k = r.chapter w watched k := by
  have alike := Alike.of_sameCourse (r := r) same
  have questions : r.questions v k = r.questions w k := by
    simp only [Rules.questions, alike.outcome, alike.gap, decision_of_sameCourse same]
  have event : r.event v k = r.event w k := by
    rw [Rules.event, decision_of_sameCourse same, same.outcome, alike.delay?_eq, Rules.event]
  rw [chapter, questions, event, departure_of_quiet still, alike.delay?_eq,
    ← departure_of_quiet quiet, chapter]

theorem filterMap_untimed?_chapter (alike : r.Alike w v)
    (decisions : ∀ k, (r.decision v k).untimed = (r.decision w k).untimed)
    (quiet : watched = true → w.Quiet) (still : other = true → v.Quiet) (k : Nat) :
    (r.chapter v other k).filterMap Action.untimed? =
      (r.chapter w watched k).filterMap Action.untimed? := by
  have questions : (r.questions v k).filterMap Action.untimed? =
      (r.questions w k).filterMap Action.untimed? := by
    rw [Rules.questions, Rules.questions, alike.outcome, alike.permits, alike.gap]
    split
    · split <;> simp [Action.untimed?, decisions]
    · rfl
  have event : (r.event v k).untimed = (r.event w k).untimed := by
    rw [untimed_event, untimed_event, decisions, alike.outcome, alike.delay?_eq]
  have report : (Action.report (r.event v k) : List (Action T E)).filterMap Action.untimed? =
      (Action.report (r.event w k)).filterMap Action.untimed? :=
    congrArg (fun e => [Action.tell e]) event
  rw [chapter, chapter, departure_of_quiet still, departure_of_quiet quiet, alike.delay?_eq]
  simp only [List.filterMap_append, questions, report]

end Rules

namespace Executor

variable [TextCarrier T] [Chained E] {x : Executor T E} {mode other : Mode} {w v : Scenario T E}
  {n : Nat}

theorem calls_eq_of_alike (alike : x.rules.Alike w v) (quiet : mode.watches = true → w.Quiet)
    (still : other.watches = true → v.Quiet) :
    (x.run other v n).calls = (x.run mode w n).calls := by
  refine calls_eq_calls fun k => ?_
  rw [Rules.retries_iff_of_quiet still, Rules.retries_iff_of_quiet quiet, alike.stops_iff]

theorem result?_eq_of_alike (alike : x.rules.Alike w v) (quiet : mode.watches = true → w.Quiet)
    (still : other.watches = true → v.Quiet) : x.result? other v n = x.result? mode w n := by
  refine result?_eq_result? (fun k => (alike.stops_iff k).symm) (fun k => ?_) fun k => ?_
  · exact iff_of_false (fun cut => x.rules.not_interrupted_of_quiet (still cut.1) k cut.2)
      fun cut => x.rules.not_interrupted_of_quiet (quiet cut.1) k cut.2
  · rw [alike.outcome]

/-- Tokens that are never cancelled leave no trace. -/
theorem log_eq_of_sameCourse (same : w.SameCourse v) (quiet : mode.watches = true → w.Quiet)
    (still : other.watches = true → v.Quiet) : (x.run other v n).log = (x.run mode w n).log := by
  have chapters (k : Nat) := Rules.chapter_of_sameCourse (r := x.rules) same quiet still k
  rw [← Array.toList_inj, log_run, log_run, calls_eq_of_alike (.of_sameCourse same) quiet still]
  simp only [chapters]

theorem untimed_eq_of_sameScript (timeless : x.strategy.policy.Timeless) (same : w.SameScript v)
    (quiet : mode.watches = true → w.Quiet) (still : other.watches = true → v.Quiet) :
    (x.run other v n).untimed = (x.run mode w n).untimed := by
  have alike : x.rules.Alike w v := .of_timeless timeless same
  have each (k : Nat) :
      (Action.invoke :: x.rules.chapter v other.watches k).filterMap Action.untimed? =
        (Action.invoke :: x.rules.chapter w mode.watches k).filterMap Action.untimed? :=
    congrArg (Action.invoke :: ·) (Rules.filterMap_untimed?_chapter alike
      (Rules.untimed_decision_of_sameScript same) quiet still k)
  rw [Progress.untimed, Progress.untimed, log_run, log_run, List.filterMap_cons_none rfl,
    List.filterMap_cons_none rfl, List.filterMap_flatMap, List.filterMap_flatMap,
    calls_eq_of_alike alike quiet still]
  simp only [each]

/-- Every way of driving an execution does the same. Beside a plain run, a cancellable one whose
token is never cancelled has the same log and the same result; a blocking one, whatever its clock,
has the same log but for the clock and the same result, if the policy does not look at the clock;
and an operation that is run for its effect is driven, in each of these ways and under every
cancellation, like an operation whose values say nothing. -/
theorem driven_alike (x : Executor T E) (w : Scenario T E) (n : Nat) :
    (∀ v, w.SameCourse v → v.Quiet →
      (x.run .cancellable v n).log = (x.run .plain w n).log ∧
        x.result? .cancellable v n = x.result? .plain w n) ∧
    (∀ v, w.SameScript v → x.strategy.policy.Timeless →
      (x.run .blocking v n).untimed = (x.run .plain w n).untimed ∧
        x.result? .blocking v n = x.result? .plain w n) ∧
    ∀ (y : Executor Unit E) (mode : Mode) (u : Scenario Unit E), w.Effect u →
      y.runAction mode w n = y.run mode u n := by
  have unwatched : Mode.plain.watches = true → w.Quiet := fun watched => by contradiction
  refine ⟨fun v same quiet => ?_, fun v same timeless => ?_, fun y mode u effect => ?_⟩
  · have still : Mode.cancellable.watches = true → v.Quiet := fun _ => quiet
    exact ⟨log_eq_of_sameCourse same unwatched still,
      result?_eq_of_alike (.of_sameCourse same) unwatched still⟩
  · have still : Mode.blocking.watches = true → v.Quiet := fun watched => by contradiction
    exact ⟨untimed_eq_of_sameScript timeless same unwatched still,
      result?_eq_of_alike (.of_timeless timeless same) unwatched still⟩
  · rw [effect.eq_discard]
    rfl

end Executor

/-- `slowStart` under a token that is cancelled from the start. -/
def halted : Scenario String Cause := { slowStart with token := ⟨some .zero⟩ }

/-- `slowStart` at the pace of another clock. -/
def sluggish : Scenario String Cause :=
  { slowStart with
    call := fun k => { slowStart.call k with takes := .ofMillis 3 }
    timer := .millisecond }

/-- `halted` for its effect alone. -/
def haltedEffect : Scenario Unit Cause where
  call k := ⟨if k = 0 then .failure ⟨"Timeout", "no answer"⟩ else .success (), .zero, false⟩
  draw _ := 0
  timer := .exact
  token := ⟨some .zero⟩

def patientEffect : Executor Unit Cause :=
  ⟨.fixed ⟨3, .ofMillis 5⟩, .errorKinds (.of "Timeout"), .silent⟩

theorem halted_effect : halted.Effect haltedEffect where
  success k value brings := by
    by_cases first : k = 0 <;> simp_all [halted, haltedEffect, slowStart]
  failure k error brings := by
    by_cases first : k = 0 <;> simp_all [halted, haltedEffect, slowStart]
  takes _ := rfl
  cancels _ := rfl
  draw := rfl
  timer := rfl
  token := rfl

theorem halted_driven_alike :
    halted.SameCourse slowStart ∧ slowStart.Quiet ∧
      (patient.run .cancellable slowStart 2).log = (patient.run .plain halted 2).log ∧
      patient.result? .cancellable slowStart 2 = patient.result? .plain halted 2 ∧
    halted.SameScript sluggish ∧ patient.strategy.policy.Timeless ∧
      (patient.run .blocking sluggish 2).untimed = (patient.run .plain halted 2).untimed ∧
      patient.result? .blocking sluggish 2 = some (.ok "done") ∧
    halted.Effect haltedEffect ∧
      patientEffect.runAction .cancellable halted 2 =
        patientEffect.run .cancellable haltedEffect 2 := by
  have course : halted.SameCourse slowStart := ⟨⟨fun _ => rfl, fun _ => rfl⟩, fun _ => rfl, rfl⟩
  have quiet : slowStart.Quiet := ⟨rfl, fun _ => rfl⟩
  have script : halted.SameScript sluggish := ⟨fun _ => rfl, fun _ => rfl⟩
  have timeless : patient.strategy.policy.Timeless :=
    Strategy.timeless_of_bound (n := 3) rfl
  obtain ⟨cancellable, blocking, effect⟩ := patient.driven_alike halted 2
  obtain ⟨log, result⟩ := cancellable slowStart course quiet
  obtain ⟨untimed, returned⟩ := blocking sluggish script timeless
  exact ⟨course, quiet, log, result, script, timeless, untimed, returned, halted_effect,
    effect patientEffect .cancellable haltedEffect halted_effect⟩

end Retry
