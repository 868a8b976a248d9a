import Retry.Proofs.Execution.Ending

/-! Executions under a strategy that counts attempts, when every outcome asks for another
one. Such a strategy permits an attempt as long as the number of the last one is at most its
bound `n`. Below the last attempt number this makes `n + 1` calls. At the last number itself
it makes no end: attempt numbers stay there, and a number that stays is never above the
bound. -/
namespace Retry

variable {T E : Type}

/-- How many further attempts a strategy allows, where it counts them. -/
def Strategy.bound? : Strategy → Option UInt32
  | .fixed f => some f.maxAttempts
  | .growing b => some b.maxAttempts
  | .shared inner => inner.bound?
  | _ => none

theorem Strategy.permits_of_bound {s : Strategy} {n : UInt32} (bound : s.bound? = some n)
    (c : Context) : s.policy.permits c = decide (c.attempt ≤ n) := by
  induction s with
  | fixed f =>
    cases bound
    rfl
  | growing b =>
    cases bound
    rfl
  | limited | custom => contradiction
  | shared inner ih => exact ih bound

namespace Executor

variable [TextCarrier T] [Chained E] {x : Executor T E} {mode : Mode} {w : Scenario T E}
  {n : UInt32}

/-- Where all outcomes ask for another attempt, a round stops the execution exactly if its
attempt number, as far as it was counted, is above the bound. -/
theorem stops_iff_bound_lt (bound : x.strategy.bound? = some n)
    (asks : ∀ k, (x.rules.judge (w.call k).outcome).retry = true) (k : Nat) :
    x.rules.Stops w k ↔ n.toNat < min (k + 1) (2 ^ 32 - 1) := by
  have permits : x.rules.policy.permits (x.rules.decision w k) =
      decide (Attempt.ofCount (k + 1) ≤ n) := by
    rw [← x.rules.attempt_decision w k]
    exact Strategy.permits_of_bound bound _
  rw [Rules.Stops, asks, permits, decide_eq_false_iff_not, UInt32.le_iff_toNat_le,
    Attempt.toNat_ofCount, Nat.not_le]
  simp

theorem endsAfter_of_bound (bound : x.strategy.bound? = some n)
    (asks : ∀ k, (x.rules.judge (w.call k).outcome).retry = true)
    (quiet : mode.watches = true → w.Quiet) (other : n ≠ Attempt.last) :
    x.EndsAfter mode w (n.toNat + 1)
      (.error (Rules.refusal (n + 1) (w.call n.toNat).outcome)) := by
  have below : n.toNat < 2 ^ 32 - 1 := by
    have size := n.toNat_lt
    have apart : n.toNat ≠ 2 ^ 32 - 1 := fun same => other (UInt32.toNat_inj.mp same)
    omega
  have stops : x.rules.Stops w n.toNat := (stops_iff_bound_lt bound asks _).mpr (by omega)
  have going : ∀ j < n.toNat, ¬ x.rules.Stops w j := by
    intro j earlier stopped
    have above := (stops_iff_bound_lt bound asks _).mp stopped
    omega
  have counted : Attempt.ofCount (n.toNat + 1) = n + 1 := by
    rw [← UInt32.toNat_inj, Attempt.toNat_ofCount, UInt32.toNat_add, UInt32.toNat_one]
    omega
  have result : x.rules.resultOf n.toNat (w.call n.toNat).outcome =
      .error (Rules.refusal (n + 1) (w.call n.toNat).outcome) := by
    rw [Rules.resultOf_of_asks (asks n.toNat), counted]
  rw [← result]
  exact endsAfter_of_stops quiet stops going

/-- No attempt number is above the last one, so a bound there stops nothing. -/
theorem neverEnds_of_bound_last (bound : x.strategy.bound? = some Attempt.last)
    (asks : ∀ k, (x.rules.judge (w.call k).outcome).retry = true)
    (quiet : mode.watches = true → w.Quiet) : x.NeverEnds mode w := by
  apply neverEnds_of_not_stops quiet
  intro k stopped
  have above := (stops_iff_bound_lt bound asks k).mp stopped
  exact absurd above (Nat.not_lt.mpr (Nat.min_le_right _ _))

/-- The bound is kept exactly, except at the last attempt number, where the execution does
not end. -/
theorem endsAfter_bound (x : Executor T E) (mode : Mode) (w : Scenario T E)
    (bound : x.strategy.bound? = some n)
    (asks : ∀ k, (x.rules.judge (w.call k).outcome).retry = true)
    (quiet : mode.watches = true → w.Quiet) :
    (n ≠ Attempt.last → x.EndsAfter mode w (n.toNat + 1)
      (.error (Rules.refusal (n + 1) (w.call n.toNat).outcome))) ∧
    (n = Attempt.last → x.NeverEnds mode w) := by
  refine ⟨endsAfter_of_bound bound asks quiet, ?_⟩
  rintro rfl
  exact neverEnds_of_bound_last bound asks quiet

end Executor

theorem unanswered_asks (k : Nat) :
    (patient.rules.judge (unanswered.call k).outcome).retry = true := by
  have asks : (patient.rules.judge (.failure ⟨"Timeout", "no answer"⟩)).retry = true := by decide
  exact asks

theorem unanswered_endsAfter_four :
    patient.strategy.bound? = some 3 ∧
      (∀ k, (patient.rules.judge (unanswered.call k).outcome).retry = true) ∧
      (Mode.cancellable.watches = true → unanswered.Quiet) ∧ (3 : UInt32) ≠ Attempt.last ∧
      patient.EndsAfter .cancellable unanswered 4
        (.error (.operation ⟨"Timeout", "no answer"⟩)) := by
  have quiet : Mode.cancellable.watches = true → unanswered.Quiet := fun _ => ⟨rfl, fun _ => rfl⟩
  have below : (3 : UInt32) ≠ Attempt.last := by decide
  exact ⟨rfl, unanswered_asks, quiet, below,
    (patient.endsAfter_bound _ _ rfl unanswered_asks quiet).1 below⟩

/-- As many further attempts as a number of attempts can say. -/
def tireless : Executor String Cause := { patient with strategy := .fixed ⟨4294967295, .zero⟩ }

theorem tireless_not_endsAfter :
    tireless.strategy.bound? = some 4294967295 ∧
      (∀ k, (tireless.rules.judge (unanswered.call k).outcome).retry = true) ∧
      ¬ ∃ result, tireless.EndsAfter .plain unanswered (4294967295 + 1) result := by
  refine ⟨rfl, unanswered_asks, ?_⟩
  rintro ⟨result, ends⟩
  have never : tireless.NeverEnds .plain unanswered :=
    Executor.neverEnds_of_bound_last rfl unanswered_asks (fun watched => by contradiction)
  have closed := (ends.closed_after _ (Nat.le_refl _)).1
  rw [(never _).1] at closed
  contradiction

end Retry
