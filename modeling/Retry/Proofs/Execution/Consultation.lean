import Retry.Proofs.Execution.Ending
import Retry.Proofs.Execution.Pauses

/-! What an executor asks, and when. This is the protocol that a caller's own condition or policy
can rely on: in every round, wherever the execution starts on the clock, whatever the rounds before
were like and however the round ends, the condition is asked once, the policy only if the condition
asked for another attempt, and its delay only if it permitted one. The context that the policy sees
belongs to that round: its number, counted from one, and the failure that was recorded last are
never those of an earlier one, and the moment at which the execution started is always the same. -/
namespace Retry

variable {T E : Type}

theorem Attempt.one_le_ofCount_succ (k : Nat) : (1 : Attempt) ≤ .ofCount (k + 1) := by
  rw [UInt32.le_iff_toNat_le, toNat_ofCount, UInt32.toNat_one]
  omega

/-- No strategy finds fault with an attempt number from one on. -/
theorem Strategy.permits?_of_one_le (s : Strategy) {c : Context} (counted : 1 ≤ c.attempt) :
    s.permits? c = .ok (s.policy.permits c) := by
  apply permits?_of_attempt_ne_zero
  intro zero
  rw [zero] at counted
  contradiction

namespace Executor

variable [TextCarrier T] [Chained E]

/-- The log holds nothing but its opening record, the calls and their chapters, and the chapter of
call `k` has these questions, in this order, with all that is shown to the condition and to the
policy. -/
theorem questions_of_chapter (x : Executor T E) (m : Member T E) (n : Nat) {k : Nat}
    (made : k < (m.alone x n).calls) :
    (m.alone x n).log.toList = .write (.started x.strategy) ::
      (m.alone x n).chapters.flatMap (.invoke :: ·) ∧
    ∃ actions c, (m.alone x n).chapters[k]? = some actions ∧
      (let outcome := (m.scenario.call k).outcome
       let verdict := x.condition.verdict outcome
       let answer := x.strategy.policy.permits c
       actions.filter Action.isQuestion =
        .judge outcome verdict ::
          if verdict.retry then
            .consult c answer ::
              if answer then [.space c (x.strategy.policy.delay c (m.scenario.draw k))] else []
          else []) ∧
      c.attempt = .ofCount (k + 1) ∧ 1 ≤ c.attempt ∧ c.start = m.begins ∧
      c.lastFailure = some (x.rules.failure (m.scenario.call k).outcome) ∧
      x.strategy.permits? c = .ok (x.strategy.policy.permits c) := by
  let p := x.rules.pauseAt m.scenario m.begins k
  have round : p.rounds = k := x.rules.rounds_pauseAt m.scenario m.begins k
  have attempt : p.context.attempt = .ofCount (k + 1) :=
    x.rules.attempt_pauseAt m.scenario m.begins k
  have counted : 1 ≤ p.context.attempt := by
    rw [attempt]
    exact Attempt.one_le_ofCount_succ k
  have log : (m.alone x n).log.toList = .write (.started x.strategy) ::
      (m.alone x n).chapters.flatMap (.invoke :: ·) := by
    rw [m.chapters_alone, List.flatMap_map, m.log_alone]
  have chapter : (m.alone x n).chapters[k]? = some (m.part x k) := by
    rw [m.chapters_alone, List.getElem?_map, List.getElem?_range made]
    rfl
  have questions : (m.part x k).filter Action.isQuestion = x.rules.asked m.scenario p :=
    x.rules.filter_isQuestion_remainder m.scenario m.mode.watches p
  have failure : (x.rules.failed m.scenario p).lastFailure =
      some (x.rules.failure (m.scenario.call k).outcome) := by
    rw [← round]
    rfl
  rw [Rules.asked, Rules.pace, round] at questions
  exact ⟨log, _, x.rules.failed m.scenario p, chapter, questions, attempt, counted,
    x.rules.start_pauseAt m.scenario m.begins k, failure, x.strategy.permits?_of_one_le counted⟩

end Executor

/-- `slowStart` on a clock that has gone on for a while. -/
def lateSlowStart : Member String Cause := ⟨.plain, slowStart, .ofMillis 40⟩

theorem slowStart_questions_of_first_chapter :
    0 < (lateSlowStart.alone patient 2).calls ∧
      (lateSlowStart.alone patient 2).log.toList = .write (.started patient.strategy) ::
        (lateSlowStart.alone patient 2).chapters.flatMap (.invoke :: ·) ∧
      ∃ actions c, (lateSlowStart.alone patient 2).chapters[0]? = some actions ∧
        actions.filter Action.isQuestion =
          .judge (.failure ⟨"Timeout", "no answer"⟩) ⟨true, []⟩ ::
            .consult c (patient.strategy.policy.permits c) ::
              (if patient.strategy.policy.permits c then [.space c (.ofMillis 5)] else []) ∧
        c.attempt = 1 ∧ 1 ≤ c.attempt ∧ c.start = .ofMillis 40 ∧
        c.lastFailure = some (.error "no answer") ∧
        patient.strategy.permits? c = .ok (patient.strategy.policy.permits c) := by
  have made : 0 < (lateSlowStart.alone patient 2).calls := by decide
  exact ⟨made, patient.questions_of_chapter lateSlowStart 2 made⟩

end Retry
