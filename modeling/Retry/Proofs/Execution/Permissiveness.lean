import Mathlib.Data.Nat.Find
import Retry.Proofs.Execution.AttemptBound
import Retry.Proofs.Execution.Comparison
import Retry.Proofs.Execution.Report

/-! What a more permissive executor makes of the same operation. As long as the stricter one
retries, both stand in the same context after every round, so they wait for the same time and tell
the same events; where the stricter one stops, the other one may go on. It goes on only by its own
condition or policy: a round that both conditions accept, or give up, ends both runs alike. -/
namespace Retry

variable {T E : Type}

/-- Wherever `c` asks for another attempt, `d` does. -/
def Condition.Within [TextCarrier T] [Chained E] (c d : Condition T E) : Prop :=
  ∀ outcome, (c.verdict outcome).retry = true → (d.verdict outcome).retry = true

/-- Wherever `p` permits another attempt, `q` does, and after the same delay. -/
def Policy.Within (p q : Policy) : Prop :=
  ∀ c, p.permits c = true → q.permits c = true ∧ ∀ draw, q.delay c draw = p.delay c draw

/-- A choice asks wherever one of its sides asks, whichever it is. -/
theorem Condition.within_either [TextCarrier T] [Chained E] (c d : Condition T E) :
    c.Within (.either c d) ∧ c.Within (.either d c) := by
  constructor
  · intro outcome asks
    simp [verdict, asks]
  · intro outcome asks
    cases first : (d.verdict outcome).retry <;> simp [verdict, first, asks]

/-- The same waits, and at least as many of them. -/
theorem FixedCount.within {m n : UInt32} (more : m ≤ n) (delay : Duration) :
    (FixedCount.policy ⟨m, delay⟩).Within (FixedCount.policy ⟨n, delay⟩) := by
  intro c permits
  have few : c.attempt ≤ m := of_decide_eq_true permits
  exact ⟨decide_eq_true (UInt32.le_trans few more), fun _ => rfl⟩

theorem Backoff.within (b : Backoff) {n : UInt32} (more : b.maxAttempts ≤ n) :
    b.policy.Within (Backoff.policy { b with maxAttempts := n }) := by
  intro c permits
  have few : c.attempt ≤ b.maxAttempts := of_decide_eq_true permits
  exact ⟨decide_eq_true (UInt32.le_trans few more), fun _ => rfl⟩

namespace Rules

variable {r s : Rules T E} {w : Scenario T E} {k : Nat} {outcome : Outcome T E}

/-- The result is that of the last outcome and of whether it was asked to be retried. -/
theorem resultOf_eq_of_retry (same : (s.judge outcome).retry = (r.judge outcome).retry) :
    s.resultOf k outcome = r.resultOf k outcome := by
  cases outcome with
  | success v => rw [resultOf, resultOf, same]
  | failure e => rfl

theorem event_eq_of_decision (decision : s.decision w k = r.decision w k)
    (retry : (s.judge (w.call k).outcome).retry = (r.judge (w.call k).outcome).retry)
    (delay : s.delay? w k = r.delay? w k) : s.event w k = r.event w k := by
  rw [event, event, decision, retry, delay]

theorem kept_of_resultOf_eq_ok {value : T} (accepted : r.resultOf k outcome = .ok value) :
    (r.judge outcome).retry = false := by
  cases outcome with
  | success v =>
    cases asks : (r.judge (.success v)).retry with
    | false => rfl
    | true => simp [resultOf, asks] at accepted
  | failure e => simp [resultOf] at accepted

theorem eq_failure_of_resultOf {error : E}
    (returned : r.resultOf k outcome = .error (.operation error)) : outcome = .failure error := by
  cases outcome with
  | success v => cases asks : (r.judge (.success v)).retry <;> simp [resultOf, asks] at returned
  | failure e =>
    have same : e = error := by simpa [resultOf] using returned
    rw [same]

end Rules

namespace Executor

variable [TextCarrier T] [Chained E] {x y : Executor T E} {mode : Mode} {w : Scenario T E}
  {n k : Nat}

/-- A run that has returned has come to the first round that stops it. -/
theorem exists_stop_of_result? (quiet : mode.watches = true → w.Quiet)
    {result : Except (RunError E) T} (returned : x.result? mode w n = some result) :
    ∃ k < n, x.rules.Stops w k ∧ (∀ j < k, ¬ x.rules.Stops w j) ∧
      result = x.rules.resultOf k (w.call k).outcome := by
  have stopped : ∃ k, x.rules.Stops w k := by
    by_contra going
    rw [not_exists] at going
    rw [(neverEnds_of_not_stops quiet going n).1] at returned
    contradiction
  obtain ⟨k, stops, going⟩ : ∃ k, x.rules.Stops w k ∧ ∀ j < k, ¬ x.rules.Stops w j :=
    ⟨Nat.find stopped, Nat.find_spec stopped, fun _ => Nat.find_min stopped⟩
  have ends := endsAfter_of_stops quiet stops going
  have reached : k < n := by
    by_contra early
    rw [(ends.open_before n (by omega)).1] at returned
    contradiction
  refine ⟨k, reached, stops, going, ?_⟩
  rw [(ends.closed_after n reached).1] at returned
  exact (Option.some.inj returned).symm

/-- As long as the stricter executor retries, both decide in the same context. -/
theorem decision_eq_of_within (permits : x.strategy.policy.Within y.strategy.policy)
    (going : ∀ j < k, ¬ x.rules.Stops w j) : y.rules.decision w k = x.rules.decision w k := by
  -- each wait follows a context that the stricter policy permits, so both waits are as long
  induction k with
  | zero => rfl
  | succ k ih =>
    have before := ih fun j below => going j (Nat.lt_succ_of_lt below)
    have permitted := (Rules.not_stops_iff.mp (going k (Nat.lt_succ_self k))).2
    have delay := (permits _ permitted).2 (w.draw k)
    have failure : y.rules.failure (w.call (k + 1)).outcome =
        x.rules.failure (w.call (k + 1)).outcome := rfl
    have waits : y.rules.policy.delay (x.rules.decision w k) (w.draw k) =
        x.rules.policy.delay (x.rules.decision w k) (w.draw k) := delay
    rw [Rules.decision, Rules.decision, before, failure, waits]

/-- The more permissive executor retries all rounds that the stricter one retries. -/
theorem not_stops_of_within (asks : x.condition.Within y.condition)
    (permits : x.strategy.policy.Within y.strategy.policy)
    (going : ∀ j ≤ k, ¬ x.rules.Stops w j) : ¬ y.rules.Stops w k := by
  obtain ⟨asked, permitted⟩ := Rules.not_stops_iff.mp (going k (Nat.le_refl k))
  have same := decision_eq_of_within permits fun j below => going j (Nat.le_of_lt below)
  refine Rules.not_stops_iff.mpr ⟨asks _ asked, ?_⟩
  rw [same]
  exact (permits _ permitted).1

theorem event_eq_of_within (asks : x.condition.Within y.condition)
    (permits : x.strategy.policy.Within y.strategy.policy)
    (going : ∀ j ≤ k, ¬ x.rules.Stops w j) : y.rules.event w k = x.rules.event w k := by
  have own := going k (Nat.le_refl k)
  have still := not_stops_of_within asks permits going
  have decision := decision_eq_of_within permits fun j below => going j (Nat.le_of_lt below)
  obtain ⟨asked, permitted⟩ := Rules.not_stops_iff.mp own
  have gap : y.rules.gap w k = x.rules.gap w k := by
    rw [Rules.gap, decision]
    exact (permits _ permitted).2 (w.draw k)
  apply Rules.event_eq_of_decision decision
  · rw [asked, (Rules.not_stops_iff.mp still).1]
  · rw [Rules.delay?_of_not_stops own, Rules.delay?_of_not_stops still, gap]

theorem calls_le_of_within (asks : x.condition.Within y.condition)
    (permits : x.strategy.policy.Within y.strategy.policy)
    (quiet : mode.watches = true → w.Quiet) :
    (x.run mode w n).calls ≤ (y.run mode w n).calls := by
  refine calls_le_calls fun k retries => ?_
  rw [Rules.retries_iff_of_quiet quiet]
  exact not_stops_of_within asks permits fun j upto => (retries j upto).1

/-- Up to the last event of the stricter run, both runs tell the same. -/
theorem take_events_eq_of_within (asks : x.condition.Within y.condition)
    (permits : x.strategy.policy.Within y.strategy.policy)
    (quiet : mode.watches = true → w.Quiet) :
    (y.run mode w n).events.take ((x.run mode w n).calls - 1) =
      (x.run mode w n).events.take ((x.run mode w n).calls - 1) := by
  have more := calls_le_of_within (n := n) asks permits quiet
  rw [events_run, events_run, ← List.map_take, ← List.map_take, List.take_range, List.take_range,
    Nat.min_eq_left (by omega), Nat.min_eq_left (by omega)]
  apply List.map_congr_left
  intro k member
  have next : k + 1 < (x.run mode w n).calls := by
    rw [List.mem_range] at member
    omega
  have retries := (lt_calls_run_iff.mp next).2
  exact event_eq_of_within asks permits fun j upto => (retries j (Nat.lt_succ_of_le upto)).1

/-- The run has returned an accepted value, or an error that the condition does not ask to retry. -/
def SettledByCondition (x : Executor T E) (mode : Mode) (w : Scenario T E) (n : Nat) : Prop :=
  (∃ value, x.result? mode w n = some (.ok value)) ∨
    ∃ error, x.result? mode w n = some (.error (.operation error)) ∧
      (x.condition.verdict (.failure error)).retry = false

/-- Such a run has come to a round whose outcome is not asked to be retried. -/
theorem SettledByCondition.exists_kept (settled : x.SettledByCondition mode w n)
    (quiet : mode.watches = true → w.Quiet) :
    ∃ k < n, (x.condition.verdict (w.call k).outcome).retry = false ∧
      ∀ j < k, ¬ x.rules.Stops w j := by
  rcases settled with ⟨value, returned⟩ | ⟨error, returned, kept⟩
  · obtain ⟨k, reached, _, going, same⟩ := exists_stop_of_result? quiet returned
    exact ⟨k, reached, Rules.kept_of_resultOf_eq_ok same.symm, going⟩
  · obtain ⟨k, reached, _, going, same⟩ := exists_stop_of_result? quiet returned
    rw [← Rules.eq_failure_of_resultOf same.symm] at kept
    exact ⟨k, reached, kept, going⟩

/-- A run that its condition ends goes on no longer under a policy that permits more. -/
theorem SettledByCondition.same_end (settled : x.SettledByCondition mode w n)
    (judge : ∀ outcome, (y.condition.verdict outcome).retry = (x.condition.verdict outcome).retry)
    (permits : x.strategy.policy.Within y.strategy.policy)
    (quiet : mode.watches = true → w.Quiet) :
    y.result? mode w n = x.result? mode w n ∧
      (y.run mode w n).events = (x.run mode w n).events := by
  have asks : x.condition.Within y.condition := fun outcome asked => (judge outcome).trans asked
  obtain ⟨k, reached, kept, going⟩ := settled.exists_kept quiet
  have still : (y.condition.verdict (w.call k).outcome).retry = false := (judge _).trans kept
  have stops : x.rules.Stops w k := Or.inl kept
  have halts : y.rules.Stops w k := Or.inl still
  have goes : ∀ j < k, ¬ y.rules.Stops w j := fun j before =>
    not_stops_of_within asks permits fun i upto => going i (Nat.lt_of_le_of_lt upto before)
  obtain ⟨result, calls⟩ := (endsAfter_of_stops quiet stops going).closed_after n reached
  obtain ⟨returned, made⟩ := (endsAfter_of_stops quiet halts goes).closed_after n reached
  have outcome : y.rules.resultOf k (w.call k).outcome = x.rules.resultOf k (w.call k).outcome :=
    Rules.resultOf_eq_of_retry (judge _)
  have last : y.rules.event w k = x.rules.event w k := by
    apply Rules.event_eq_of_decision (decision_eq_of_within permits going) (judge _)
    rw [Rules.delay?_of_stops stops, Rules.delay?_of_stops halts]
  refine ⟨by rw [returned, result, outcome], ?_⟩
  rw [events_run, events_run, made, calls]
  apply List.map_congr_left
  intro j member
  rcases Nat.lt_succ_iff_lt_or_eq.mp (List.mem_range.mp member) with before | rfl
  · exact event_eq_of_within asks permits fun i upto => going i (Nat.lt_of_le_of_lt upto before)
  · exact last

/-- A more permissive executor only extends a run. It makes all the calls of the stricter one and
tells the same events before the last; and if both judge alike and the stricter run was ended by its
condition, the runs do not differ. -/
theorem permissive_run_extends (x y : Executor T E) (mode : Mode) (w : Scenario T E) (n : Nat)
    (asks : x.condition.Within y.condition)
    (permits : x.strategy.policy.Within y.strategy.policy)
    (quiet : mode.watches = true → w.Quiet) :
    (x.run mode w n).calls ≤ (y.run mode w n).calls ∧
      (y.run mode w n).events.take ((x.run mode w n).calls - 1) =
        (x.run mode w n).events.take ((x.run mode w n).calls - 1) ∧
      ((∀ outcome, (y.condition.verdict outcome).retry = (x.condition.verdict outcome).retry) →
        x.SettledByCondition mode w n →
          y.result? mode w n = x.result? mode w n ∧
            (y.run mode w n).events = (x.run mode w n).events) :=
  ⟨calls_le_of_within asks permits quiet, take_events_eq_of_within asks permits quiet,
    fun judge settled => settled.same_end judge permits quiet⟩

end Executor

/-- An operation that times out, then fails for good, and then answers. -/
def relapsing : Scenario String Cause where
  call k := ⟨if k = 0 then .failure ⟨"Timeout", "no answer"⟩
    else if k = 1 then .failure ⟨"Fatal", "no access"⟩ else .success "done", .zero, false⟩
  draw _ := 0
  timer := .exact
  token := .never

/-- More patient than `patient`: it also retries what is fatal, and more often. -/
def dogged : Executor String Cause :=
  ⟨.fixed ⟨5, .ofMillis 5⟩, .either (.errorKinds (.of "Fatal")) patient.condition, .silent⟩

def doubling : Executor String Cause :=
  { patient with strategy := .growing (.doubling 3 (.ofMillis 5)) }

def longDoubling : Executor String Cause :=
  { patient with
    strategy := .growing { Backoff.doubling 3 (.ofMillis 5) with maxAttempts := 9 } }

theorem relapsing_run_extends :
    patient.condition.Within dogged.condition ∧
      patient.strategy.policy.Within dogged.strategy.policy ∧
      (Mode.cancellable.watches = true → relapsing.Quiet) ∧
      2 ≤ (dogged.run .cancellable relapsing 4).calls ∧
      (dogged.run .cancellable relapsing 4).events.take 1 =
        (patient.run .cancellable relapsing 4).events.take 1 ∧
    doubling.strategy.policy.Within longDoubling.strategy.policy ∧
      doubling.SettledByCondition .cancellable relapsing 4 ∧
      longDoubling.result? .cancellable relapsing 4 =
        some (.error (.operation ⟨"Fatal", "no access"⟩)) ∧
      (longDoubling.run .cancellable relapsing 4).events =
        (doubling.run .cancellable relapsing 4).events := by
  have asks : patient.condition.Within dogged.condition := (Condition.within_either _ _).2
  have permits : patient.strategy.policy.Within dogged.strategy.policy :=
    FixedCount.within (by decide) _
  have quiet : Mode.cancellable.watches = true → relapsing.Quiet := fun _ => ⟨rfl, fun _ => rfl⟩
  have longer : doubling.strategy.policy.Within longDoubling.strategy.policy :=
    Backoff.within _ (by decide)
  have settled : doubling.SettledByCondition .cancellable relapsing 4 :=
    Or.inr ⟨⟨"Fatal", "no access"⟩, rfl, by decide⟩
  obtain ⟨calls, events, _⟩ :=
    patient.permissive_run_extends dogged .cancellable relapsing 4 asks permits quiet
  obtain ⟨_, _, same⟩ := doubling.permissive_run_extends longDoubling .cancellable relapsing 4
    (fun _ asked => asked) longer quiet
  obtain ⟨result, told⟩ := same (fun _ => rfl) settled
  exact ⟨asks, permits, quiet, calls, events, longer, settled, result, told⟩

end Retry
