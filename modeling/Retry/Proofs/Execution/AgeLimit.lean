import Mathlib.Algebra.Order.Floor.Div
import Retry.Proofs.Execution.AttemptBound
import Retry.Proofs.Execution.Comparison

/-! Executions under a limit on their age, when every outcome asks for another attempt. The age at
which a round is decided is the time that all calls so far have taken and one delay for each wait
(`Scenario.age`); it is compared with the limit before each wait, so the last wait may go past it,
but never by more than the delay. Calls are not counted here: the number of rounds follows from the
clock, also where it is above every attempt number. Waits are taken to last exactly their delay. -/
namespace Retry

variable {T E : Type}

/-- The limit of a strategy on the age of an execution. -/
def Strategy.limit? : Strategy → Option TimeLimit
  | .limited t => some t
  | .shared inner => inner.limit?
  | _ => none

theorem Strategy.policy_of_limit {s : Strategy} {t : TimeLimit} (limit : s.limit? = some t) :
    s.policy = t.policy := by
  induction s with
  | limited u =>
    cases limit
    rfl
  | fixed | growing | custom => contradiction
  | shared inner ih => exact ih limit

/-- The age at which call `k` has come back, if every wait before it has lasted `delay`. -/
def Scenario.age (w : Scenario T E) (delay : Duration) (k : Nat) : Duration :=
  ⟨((List.range (k + 1)).map fun j => (w.call j).takes.nanos).sum + k * delay.nanos⟩

theorem Duration.nanos_inj {a b : Duration} : a.nanos = b.nanos ↔ a = b :=
  ⟨congrArg Duration.mk, congrArg Duration.nanos⟩

namespace Scenario

theorem age_zero (w : Scenario T E) (delay : Duration) : w.age delay 0 = (w.call 0).takes := by
  simp [age]

theorem age_succ (w : Scenario T E) (delay : Duration) (k : Nat) :
    w.age delay (k + 1) = w.age delay k + delay + (w.call (k + 1)).takes := by
  have age (k : Nat) : (w.age delay k).nanos =
      ((List.range (k + 1)).map fun j => (w.call j).takes.nanos).sum + k * delay.nanos := rfl
  have nanos (a b : Duration) : (a + b).nanos = a.nanos + b.nanos := rfl
  rw [← Duration.nanos_inj, nanos, nanos, age, age, List.range_succ, List.map_append,
    List.sum_append, List.map_singleton, List.sum_singleton, Nat.succ_mul]
  omega

/-- Calls that take no time leave only the waits. -/
theorem nanos_age_of_instant {w : Scenario T E} (instant : ∀ k, (w.call k).takes = .zero)
    (delay : Duration) (k : Nat) : (w.age delay k).nanos = k * delay.nanos := by
  simp [age, instant, Duration.zero]

/-- Every wait that begins within the limit lasts exactly its delay. -/
def Punctual (w : Scenario T E) (t : TimeLimit) : Prop :=
  ∀ k, w.age t.delay k < t.budget →
    w.timer.rest (w.age t.delay k) t.delay = w.age t.delay k + t.delay

theorem punctual_of_exact {w : Scenario T E} (exact : w.timer = .exact) (t : TimeLimit) :
    w.Punctual t := by
  intro k _
  rw [exact, Timer.rest]
  split
  case isTrue none =>
    rw [none]
    rfl
  case isFalse => rfl

/-- Where only the waits take time, the limit is reached after as many of them as it holds, the last
of which it may hold in part. -/
theorem limit_le_age_ceilDiv {w : Scenario T E} {t : TimeLimit}
    (instant : ∀ k, (w.call k).takes = .zero) (waits : .zero < t.delay) :
    t.budget ≤ w.age t.delay (t.budget.nanos ⌈/⌉ t.delay.nanos) ∧
      ∀ j < t.budget.nanos ⌈/⌉ t.delay.nanos, w.age t.delay j < t.budget := by
  have positive : 0 < t.delay.nanos := waits
  have reached (j : Nat) : t.budget.nanos ⌈/⌉ t.delay.nanos ≤ j ↔ t.budget ≤ w.age t.delay j := by
    change _ ↔ t.budget.nanos ≤ (w.age t.delay j).nanos
    rw [nanos_age_of_instant instant, Nat.mul_comm, ceilDiv_le_iff_le_mul positive]
  refine ⟨(reached _).mp (Nat.le_refl _), fun j before => ?_⟩
  exact Nat.lt_of_not_le fun old => Nat.not_le_of_lt before ((reached j).mpr old)

end Scenario

namespace Executor

variable [TextCarrier T] [Chained E] {x : Executor T E} {mode : Mode} {w : Scenario T E}
  {t : TimeLimit} {n k : Nat}

section

variable (limit : x.strategy.limit? = some t)

include limit

theorem gap_of_limit (k : Nat) : x.rules.gap w k = t.delay := by
  have policy : x.rules.policy = t.policy := Strategy.policy_of_limit limit
  rw [Rules.gap, policy]
  rfl

variable (punctual : w.Punctual t)

include punctual

/-- The clock shows the age as long as no round has come to the limit. -/
theorem now_decision_of_limit (young : ∀ j < k, w.age t.delay j < t.budget) :
    (x.rules.decision w k).now = w.age t.delay k := by
  induction k with
  | zero =>
    rw [Scenario.age_zero, ← Duration.nanos_inj]
    exact Nat.zero_add _
  | succ k ih =>
    have back : (x.rules.decision w (k + 1)).now =
        w.timer.rest (x.rules.decision w k).now (x.rules.gap w k) + (w.call (k + 1)).takes := rfl
    rw [back, ih fun j below => young j (Nat.lt_succ_of_lt below), gap_of_limit limit,
      punctual k (young k (Nat.lt_succ_self k)), Scenario.age_succ]

theorem elapsed_decision_of_limit (young : ∀ j < k, w.age t.delay j < t.budget) :
    (x.rules.decision w k).elapsed = w.age t.delay k := by
  rw [Rules.elapsed_decision, now_decision_of_limit limit punctual young]

variable (asks : ∀ k, (x.rules.judge (w.call k).outcome).retry = true)

include asks

/-- Where all outcomes ask for another attempt, the first round that can stop the execution does
so exactly if its age has come to the limit. -/
theorem stops_iff_limit_le (young : ∀ j < k, w.age t.delay j < t.budget) :
    x.rules.Stops w k ↔ t.budget ≤ w.age t.delay k := by
  have policy : x.rules.policy = t.policy := Strategy.policy_of_limit limit
  have permits : x.rules.policy.permits (x.rules.decision w k) =
      decide (w.age t.delay k < t.budget) := by
    rw [policy, ← elapsed_decision_of_limit limit punctual young]
    rfl
  rw [Rules.Stops, asks, permits, decide_eq_false_iff_not]
  change _ ∨ ¬ (w.age t.delay k).nanos < t.budget.nanos ↔ t.budget.nanos ≤ (w.age t.delay k).nanos
  simp

/-- Waits are known to be punctual within the limit only, so that the clock of a round is known once
the rounds before it are within the limit, which they are where they do not stop. -/
theorem going_iff_lt_limit (k : Nat) :
    (∀ j < k, ¬ x.rules.Stops w j) ↔ ∀ j < k, w.age t.delay j < t.budget := by
  induction k with
  | zero => simp
  | succ k ih =>
    rw [Nat.forall_lt_succ_right, Nat.forall_lt_succ_right, ih]
    refine and_congr_right fun young => ?_
    rw [stops_iff_limit_le limit punctual asks young]
    exact Nat.not_le

/-- A call after the first begins when the wait that precedes it is over, and that wait was begun
within the limit. -/
theorem elapsed_lt_of_paused {p : Pause} (paused : (x.run mode w (k + 1)).stage = .paused p) :
    p.context.elapsed < t.budget + t.delay := by
  have young := (going_iff_lt_limit limit punctual asks (k + 1)).mp fun j below =>
    (paused_iff_retries.mp ⟨p, paused⟩ j below).1
  have within : (w.age t.delay k).nanos < t.budget.nanos := young k (Nat.lt_succ_self k)
  obtain ⟨q, before, rfl⟩ := exists_resumption_of_paused paused
  obtain ⟨count, due, _⟩ := of_paused before
  have now : (x.rules.resumption w q).now = w.age t.delay k + t.delay := by
    rw [due.now_resumption, count, gap_of_limit limit,
      now_decision_of_limit limit punctual fun j below => young j (Nat.lt_succ_of_lt below),
      punctual k within]
  have late : (x.rules.resumption w q).context.elapsed.nanos ≤ (x.rules.resumption w q).now.nanos :=
    Nat.sub_le _ _
  rw [now] at late
  change _ < t.budget.nanos + t.delay.nanos
  change _ ≤ (w.age t.delay k).nanos + t.delay.nanos at late
  omega

/-- The strategy is shown the age, and permits as long as it is within the limit. -/
theorem consult_of_limit {actions : List (Action T E)} {c : Context} {answer : Bool}
    (chapter : (x.run mode w n).chapters[k]? = some actions) (asked : .consult c answer ∈ actions) :
    c.elapsed = w.age t.delay k ∧ (answer = true ↔ c.elapsed < t.budget) := by
  have policy : x.rules.policy = t.policy := Strategy.policy_of_limit limit
  have made : k < (x.run mode w n).calls := by
    obtain ⟨below, _⟩ := List.getElem?_eq_some_iff.mp chapter
    simpa [chapters_run] using below
  have young := (going_iff_lt_limit limit punctual asks k).mp fun j below =>
    ((lt_calls_run_iff.mp made).2 j below).1
  rw [x.chapters_run_get mode w n made, Option.some_inj] at chapter
  subst chapter
  obtain ⟨rfl, rfl⟩ := x.rules.eq_of_consult_mem_chapter w mode.watches k asked
  rw [policy]
  exact ⟨elapsed_decision_of_limit limit punctual young, decide_eq_true_iff⟩

/-- The first round that comes to the limit is the last, and the execution finishes at its age. -/
theorem endsAfter_of_limit_le (quiet : mode.watches = true → w.Quiet)
    (old : t.budget ≤ w.age t.delay k) (young : ∀ j < k, w.age t.delay j < t.budget) :
    x.EndsAfter mode w (k + 1) (.error (Rules.refusal (.ofCount (k + 1)) (w.call k).outcome)) ∧
      ∃ e, (x.run mode w (k + 1)).stage = .ended e ∧ e.finish = w.age t.delay k := by
  have stops : x.rules.Stops w k := (stops_iff_limit_le limit punctual asks young).mpr old
  have going := (going_iff_lt_limit limit punctual asks k).mpr young
  rw [← Rules.resultOf_of_asks (asks k), ← now_decision_of_limit limit punctual young]
  exact ⟨endsAfter_of_stops quiet stops going, exists_finish_of_stops quiet stops going⟩

theorem neverEnds_of_lt_limit (quiet : mode.watches = true → w.Quiet)
    (young : ∀ k, w.age t.delay k < t.budget) : x.NeverEnds mode w :=
  neverEnds_of_not_stops quiet fun k =>
    (going_iff_lt_limit limit punctual asks (k + 1)).mpr (fun j _ => young j) k (Nat.lt_succ_self k)

end

end Executor

/-- A second for the whole execution. -/
def hasty : Executor String Cause :=
  ⟨.limited ⟨.ofMillis 1000, .ofMillis 300⟩, .errorKinds (.of "Timeout"), .silent⟩

/-- The same second, without waits. -/
def restless : Executor String Cause := { hasty with strategy := .limited ⟨.ofMillis 1000, .zero⟩ }

/-- `unanswered`, where each call takes a while and waits end at whole milliseconds. -/
def tedious : Scenario String Cause :=
  { unanswered with
    call := fun k => { unanswered.call k with takes := .ofMillis 250 }
    timer := .millisecond }

theorem tedious_punctual : tedious.Punctual ⟨.ofMillis 1000, .ofMillis 300⟩ := by
  intro k young
  have age : (tedious.age (.ofMillis 300) k).nanos = (k + 1) * 250000000 + k * 300000000 := by
    simp [Scenario.age, tedious, Duration.ofMillis]
  have early : k = 0 ∨ k = 1 := by
    change (tedious.age (.ofMillis 300) k).nanos < 1000000000 at young
    omega
  obtain rfl | rfl := early
  · rfl
  · rfl

end Retry
