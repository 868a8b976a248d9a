import Retry.Proofs.Execution.Ending

/-! What a cancelled token does to its execution, at whatever moment it is cancelled: before the
first call, during a call or by it, during a wait, at the very end of a sleep. It ends a wait and
nothing else. The call after that wait is not made, the result is that of a cancelled execution,
and a round that has no wait ends the way it ends when no token is watched. The moment at which
a sleep is over is that of the timer, of which nothing is assumed; where it is not before the end
of the delay, a token cancelled within the delay is found. -/
namespace Retry

variable {T E : Type}

theorem Token.cancelledBy_mono {t : Token} {a b : Duration} (cancelled : t.cancelledBy a = true)
    (later : a ≤ b) : t.cancelledBy b = true := by
  obtain ⟨moment⟩ := t
  cases moment with
  | none => contradiction
  | some moment =>
    have early : moment ≤ a := by simpa [cancelledBy] using cancelled
    have late : moment ≤ b := Nat.le_trans early later
    simpa [cancelledBy] using late

/-- A token that is cancelled before the delay has run out is found. -/
theorem Rules.interrupted_of_cancelledBy {r : Rules T E} {w : Scenario T E} {k : Nat}
    (whole : (r.decision w k).now + r.gap w k ≤ w.timer.rest (r.decision w k).now (r.gap w k))
    (cancelled : (r.tokenAt w k).cancelledBy ((r.decision w k).now + r.gap w k) = true) :
    r.Interrupted w k :=
  Or.inr (Token.cancelledBy_mono cancelled whole)

namespace Executor

variable [TextCarrier T] [Chained E] {x : Executor T E} {mode : Mode} {w : Scenario T E}
  {n k : Nat}

/-- The execution makes call `k`, where calls are numbered from zero. -/
def Reaches (x : Executor T E) (mode : Mode) (w : Scenario T E) (k : Nat) : Prop :=
  ∃ limit, k < (x.run mode w limit).calls

theorem calls_le (x : Executor T E) (mode : Mode) (w : Scenario T E) (n : Nat) :
    (x.run mode w n).calls ≤ n := by
  induction n with
  | zero => exact Nat.le_refl 0
  | succ n ih =>
    cases stage : (x.run mode w n).stage with
    | ended e =>
      rw [run_of_ended stage (Nat.le_succ n)]
      exact Nat.le_succ_of_le ih
    | paused p =>
      rw [calls_run_succ stage]
      exact Nat.succ_le_succ ih

theorem reaches_iff_retries :
    x.Reaches mode w k ↔ ∀ j < k, x.rules.Retries w mode.watches j := by
  rw [← paused_iff_retries]
  constructor
  · rintro ⟨limit, more⟩
    cases stage : (x.run mode w k).stage with
    | paused p => exact ⟨p, rfl⟩
    | ended e =>
      have few : (x.run mode w limit).calls ≤ k := by
        rcases Nat.le_total k limit with late | early
        · rw [run_of_ended stage late]
          exact x.calls_le mode w k
        · exact Nat.le_trans (x.calls_le mode w limit) early
      exact absurd more (Nat.not_lt.mpr few)
  · rintro ⟨p, paused⟩
    refine ⟨k + 1, ?_⟩
    rw [calls_run_succ paused, (of_paused paused).2.2]
    exact Nat.lt_succ_self k

/-- An execution without a watched token makes all calls that one with a token makes. -/
theorem Reaches.plain (reaches : x.Reaches mode w k) : x.Reaches .plain w k := by
  rw [reaches_iff_retries] at reaches ⊢
  intro j below
  exact ⟨(reaches j below).1, fun cut => absurd cut.1 Bool.false_ne_true⟩

theorem Reaches.endsAfter_of_stops (reaches : x.Reaches mode w k) (stops : x.rules.Stops w k) :
    x.EndsAfter mode w (k + 1) (x.rules.resultOf k (w.call k).outcome) := by
  obtain ⟨p, paused⟩ := paused_iff_retries.mpr (reaches_iff_retries.mp reaches)
  exact endsAfter_of_paused_of_stops paused stops

theorem Reaches.endsAfter_of_interrupted (reaches : x.Reaches mode w k)
    (watched : mode.watches = true) (going : ¬ x.rules.Stops w k)
    (cut : x.rules.Interrupted w k) :
    x.EndsAfter mode w (k + 1) (.error (.cancelled (.ofCount (k + 1)))) := by
  obtain ⟨p, paused⟩ := paused_iff_retries.mpr (reaches_iff_retries.mp reaches)
  obtain ⟨count, due, _⟩ := of_paused paused
  subst count
  obtain ⟨e, ended, result⟩ := due.ended_of_interrupted going cut
  rw [← watched] at ended
  rw [← result]
  exact endsAfter_of_ended paused ended

/-- No call follows a wait that finds the token cancelled. -/
theorem calls_le_of_interrupted (watched : mode.watches = true) (cut : x.rules.Interrupted w k)
    (limit : Nat) : (x.run mode w limit).calls ≤ k + 1 := by
  refine Nat.le_of_not_lt fun more => ?_
  have reaches : x.Reaches mode w (k + 1) := ⟨limit, more⟩
  have retries := reaches_iff_retries.mp reaches k (Nat.lt_succ_self k)
  exact retries.2 ⟨watched, cut⟩

/-- An execution that comes to a further call has found its token not cancelled. -/
theorem not_cancelledBy_of_paused (watched : mode.watches = true) {p : Pause}
    (paused : (x.run mode w (k + 1)).stage = .paused p) : p.token.cancelledBy p.now = false := by
  have retries := paused_iff_retries.mp ⟨p, paused⟩ k (Nat.lt_succ_self k)
  obtain ⟨q, before, rfl⟩ := exists_resumption_of_paused paused
  obtain ⟨rfl, due, _⟩ := of_paused before
  have token : (x.rules.resumption w q).token = x.rules.tokenAt w q.rounds := due.token
  rw [due.now_resumption, token]
  refine Bool.eq_false_iff.mpr fun cancelled => ?_
  exact retries.2 ⟨watched, Or.inr cancelled⟩

/-- What the next round makes of an execution that is under way. -/
theorem result?_succ_of_paused {p : Pause} (paused : (x.run mode w n).stage = .paused p) :
    x.result? mode w (n + 1) =
      if x.rules.Stops w n then some (x.rules.resultOf n (w.call n).outcome)
      else if mode.watches = true ∧ x.rules.Interrupted w n then
        some (.error (.cancelled (.ofCount (n + 1))))
      else none := by
  have reaches : x.Reaches mode w n := reaches_iff_retries.mpr (paused_iff_retries.mp ⟨p, paused⟩)
  split
  · next stops => exact ((reaches.endsAfter_of_stops stops).closed_after _ (Nat.le_refl _)).1
  · next going =>
    split
    · next cut =>
      exact ((reaches.endsAfter_of_interrupted cut.1 going cut.2).closed_after _ (Nat.le_refl _)).1
    · next uncut =>
      have retries : ∀ k < n + 1, x.rules.Retries w mode.watches k := by
        intro k below
        rcases Nat.lt_succ_iff_lt_or_eq.mp below with earlier | rfl
        · exact paused_iff_retries.mp ⟨p, paused⟩ k earlier
        · exact ⟨going, uncut⟩
      obtain ⟨q, still⟩ := paused_iff_retries.mpr retries
      exact (result?_of_paused still).1

/-- Whenever an execution comes to a further call, its token is not cancelled at that moment. A
wait finds a token that is cancelled before its delay has run out, if its sleep is not over earlier.
A token that is found cancelled allows no further call; the wait that finds it, if the execution
comes to it, ends in a cancelled result that carries the number of calls; and a round that has no
wait gives the result that it gives without a token. -/
theorem cancellation_ends_waits_only (x : Executor T E) (mode : Mode) (w : Scenario T E) (k : Nat) :
    (mode.watches = true → ∀ p, (x.run mode w (k + 1)).stage = .paused p →
      p.token.cancelledBy p.now = false) ∧
    ((x.rules.decision w k).now + x.rules.gap w k ≤
        w.timer.rest (x.rules.decision w k).now (x.rules.gap w k) →
      (x.rules.tokenAt w k).cancelledBy ((x.rules.decision w k).now + x.rules.gap w k) = true →
      x.rules.Interrupted w k) ∧
    (mode.watches = true → x.rules.Interrupted w k →
      ∀ limit, (x.run mode w limit).calls ≤ k + 1) ∧
    (mode.watches = true → x.Reaches mode w k → ¬ x.rules.Stops w k → x.rules.Interrupted w k →
      x.EndsAfter mode w (k + 1) (.error (.cancelled (.ofCount (k + 1))))) ∧
    (x.Reaches mode w k → x.rules.Stops w k →
      x.EndsAfter mode w (k + 1) (x.rules.resultOf k (w.call k).outcome) ∧
      x.EndsAfter .plain w (k + 1) (x.rules.resultOf k (w.call k).outcome)) := by
  refine ⟨?_, Rules.interrupted_of_cancelledBy, calls_le_of_interrupted, ?_, ?_⟩
  · intro watched p paused
    exact not_cancelledBy_of_paused watched paused
  · intro watched reaches going cut
    exact reaches.endsAfter_of_interrupted watched going cut
  · intro reaches stops
    exact ⟨reaches.endsAfter_of_stops stops, reaches.plain.endsAfter_of_stops stops⟩

end Executor

/-- A failing operation under a token that is cancelled during the second wait. -/
def interrupted : Scenario String Cause :=
  { unanswered with timer := .millisecond, token := ⟨some (.ofMillis 7)⟩ }

/-- Where the second call of `interrupted` begins. -/
def interruptedPause : Pause :=
  ⟨1, ⟨2, .zero, .ofMillis 5, some (.error "no answer")⟩, ⟨some (.ofMillis 7)⟩⟩

/-- An operation that cancels the token in its first call and fails with an error that is not
retried. -/
def selfCancelling : Scenario String Cause :=
  { unanswered with call := fun _ => ⟨.failure ⟨"Fatal", "no access"⟩, .ofMillis 3, true⟩ }

theorem interrupted_endsAfter_two :
    Mode.cancellable.watches = true ∧
      (patient.run .cancellable interrupted 1).stage = .paused interruptedPause ∧
      interruptedPause.token.cancelledBy interruptedPause.now = false ∧
    (patient.rules.decision interrupted 1).now + patient.rules.gap interrupted 1 ≤
        interrupted.timer.rest (patient.rules.decision interrupted 1).now
          (patient.rules.gap interrupted 1) ∧
      (patient.rules.tokenAt interrupted 1).cancelledBy
        ((patient.rules.decision interrupted 1).now + patient.rules.gap interrupted 1) = true ∧
      patient.rules.Interrupted interrupted 1 ∧
      patient.Reaches .cancellable interrupted 1 ∧ ¬ patient.rules.Stops interrupted 1 ∧
      (∀ limit, (patient.run .cancellable interrupted limit).calls ≤ 2) ∧
      patient.EndsAfter .cancellable interrupted 2 (.error (.cancelled 2)) ∧
    patient.Reaches .cancellable selfCancelling 0 ∧ patient.rules.Stops selfCancelling 0 ∧
      patient.EndsAfter .cancellable selfCancelling 1 (.error (.operation ⟨"Fatal", "no access"⟩)) ∧
      patient.EndsAfter .plain selfCancelling 1 (.error (.operation ⟨"Fatal", "no access"⟩)) := by
  have paused : (patient.run .cancellable interrupted 1).stage = .paused interruptedPause := rfl
  have whole : (patient.rules.decision interrupted 1).now + patient.rules.gap interrupted 1 ≤
      interrupted.timer.rest (patient.rules.decision interrupted 1).now
        (patient.rules.gap interrupted 1) := by decide
  have cancelled : (patient.rules.tokenAt interrupted 1).cancelledBy
      ((patient.rules.decision interrupted 1).now + patient.rules.gap interrupted 1) = true := by
    decide
  have going : ¬ patient.rules.Stops interrupted 1 := by decide
  have second : patient.Reaches .cancellable interrupted 1 := ⟨2, by decide⟩
  have first : patient.Reaches .cancellable selfCancelling 0 := ⟨1, by decide⟩
  have stops : patient.rules.Stops selfCancelling 0 := by decide
  obtain ⟨uncancelled, _⟩ := patient.cancellation_ends_waits_only .cancellable interrupted 0
  obtain ⟨_, finds, few, ends, _⟩ :=
    patient.cancellation_ends_waits_only .cancellable interrupted 1
  obtain ⟨_, _, _, _, stopped⟩ :=
    patient.cancellation_ends_waits_only .cancellable selfCancelling 0
  have cut := finds whole cancelled
  exact ⟨rfl, paused, uncancelled rfl _ paused, whole, cancelled, cut, second, going, few rfl cut,
    ends rfl second going cut, first, stops, stopped first stops⟩

end Retry
