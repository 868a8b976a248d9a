import Retry.Proofs.Execution.Cancellation
import Retry.Proofs.Execution.Chapter

/-! Two executions side by side. How many calls a run makes, and what it returns, depends on its
rounds alone: on which of them stop it and which waits are cut. So two runs, of whatever executors
and scenarios, are compared round by round, and no comparison needs an induction over runs of its
own. -/
namespace Retry

variable {T U E F : Type}

namespace Executor

variable [TextCarrier T] [Chained E] [TextCarrier U] [Chained F] {x : Executor T E}
  {y : Executor U F} {mode other : Mode} {w : Scenario T E} {v : Scenario U F} {m n k : Nat}

theorem calls_mono (x : Executor T E) (mode : Mode) (w : Scenario T E) (earlier : m ≤ n) :
    (x.run mode w m).calls ≤ (x.run mode w n).calls := by
  rw [Progress.calls, Progress.calls, ← Array.countP_toList, ← Array.countP_toList]
  exact (x.log_prefix mode w earlier).sublist.countP_le

/-- A run of `n` rounds makes call `k` if all rounds before it are retried. -/
theorem lt_calls_run_iff :
    k < (x.run mode w n).calls ↔ k < n ∧ ∀ j < k, x.rules.Retries w mode.watches j := by
  constructor
  · intro made
    exact ⟨Nat.lt_of_lt_of_le made (x.calls_le mode w n), reaches_iff_retries.mp ⟨n, made⟩⟩
  · rintro ⟨below, retries⟩
    obtain ⟨p, paused⟩ := paused_iff_retries.mpr retries
    have next := calls_run_succ paused
    rw [(of_paused paused).2.2] at next
    have later := x.calls_mono mode w (show k + 1 ≤ n from below)
    omega

/-- A run makes all calls of another one if it retries the rounds that the other retries. -/
theorem calls_le_calls
    (more : ∀ k, (∀ j ≤ k, x.rules.Retries w mode.watches j) → y.rules.Retries v other.watches k) :
    (x.run mode w n).calls ≤ (y.run other v n).calls := by
  refine Nat.le_of_not_lt fun fewer => ?_
  obtain ⟨below, retries⟩ := lt_calls_run_iff.mp fewer
  have made : (y.run other v n).calls < (y.run other v n).calls :=
    lt_calls_run_iff.mpr ⟨below, fun k before =>
      more k fun j upto => retries j (Nat.lt_of_le_of_lt upto before)⟩
  exact Nat.lt_irrefl _ made

theorem calls_eq_calls
    (same : ∀ k, x.rules.Retries w mode.watches k ↔ y.rules.Retries v other.watches k) :
    (x.run mode w n).calls = (y.run other v n).calls :=
  Nat.le_antisymm (calls_le_calls fun k retries => (same k).mp (retries k (Nat.le_refl k)))
    (calls_le_calls fun k retries => (same k).mpr (retries k (Nat.le_refl k)))

/-- Runs whose rounds stop them alike and are cut alike return alike. -/
theorem result?_eq_result? {z : Executor T E} {u : Scenario T E}
    (stops : ∀ k, x.rules.Stops w k ↔ z.rules.Stops u k)
    (cuts : ∀ k, mode.watches = true ∧ x.rules.Interrupted w k ↔
      other.watches = true ∧ z.rules.Interrupted u k)
    (results : ∀ k, x.rules.resultOf k (w.call k).outcome = z.rules.resultOf k (u.call k).outcome) :
    x.result? mode w n = z.result? other u n := by
  have retries (k : Nat) :
      x.rules.Retries w mode.watches k ↔ z.rules.Retries u other.watches k :=
    and_congr (not_congr (stops k)) (not_congr (cuts k))
  -- both have ended or neither has, since they retry the same rounds
  induction n with
  | zero => rfl
  | succ n ih =>
    cases stage : (x.run mode w n).stage with
    | paused p =>
      obtain ⟨q, still⟩ := paused_iff_retries.mpr fun k below =>
        (retries k).mp (paused_iff_retries.mp ⟨p, stage⟩ k below)
      simp only [result?_succ_of_paused stage, result?_succ_of_paused still, stops, cuts, results]
    | ended e =>
      cases late : (z.run other u n).stage with
      | paused q =>
        obtain ⟨p, still⟩ := paused_iff_retries.mpr fun k below =>
          (retries k).mpr (paused_iff_retries.mp ⟨q, late⟩ k below)
        rw [stage] at still
        contradiction
      | ended d =>
        rw [result?, result?, run_of_ended stage (Nat.le_succ n), run_of_ended late (Nat.le_succ n)]
        exact ih

end Executor
end Retry
