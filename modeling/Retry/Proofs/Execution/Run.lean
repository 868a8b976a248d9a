import Retry.Executor
import Retry.Proofs.Execution.Round

/-! Runs of an executor as sequences of rounds. A round that is retried leaves one pause behind, so
every pause stands where the rounds before it have led (`Rules.pauseAt`): it has the number of its
round and has kept the moment at which the execution started. `Rules.decision` is the context in
which a round is decided if no earlier round ended the execution and the clock started at zero,
computed from the scenario alone, and `Executor.of_paused` is the invariant that ties it to the run.
Later rounds only add to what was done before. -/
namespace Retry

variable {T E : Type}

namespace Rules

section

variable (r : Rules T E) (w : Scenario T E) (begins : Duration)

/-- The pause before round `k` of an execution that starts at `begins`, if all rounds before it were
retried. -/
def pauseAt : Nat → Pause
  | 0 => .first begins w.token
  | k + 1 => r.resumption w (pauseAt k)

theorem rounds_pauseAt (k : Nat) : (r.pauseAt w begins k).rounds = k := by
  induction k with
  | zero => rfl
  | succ k ih => exact congrArg (· + 1) ih

theorem attempt_pauseAt (k : Nat) : (r.pauseAt w begins k).context.attempt = .ofCount (k + 1) := by
  induction k with
  | zero => rfl
  | succ k ih => exact (congrArg Attempt.next ih).trans (Attempt.next_ofCount (k + 1))

theorem start_pauseAt (k : Nat) : (r.pauseAt w begins k).context.start = begins := by
  induction k with
  | zero => rfl
  | succ k ih => exact ih

end

/-- The context in which round `k` is decided if all rounds before it were retried. -/
def decision (r : Rules T E) (w : Scenario T E) : Nat → Context
  | 0 => ⟨.ofCount 1, .zero, .zero + (w.call 0).takes, some (r.failure (w.call 0).outcome)⟩
  | k + 1 =>
    let c := decision r w k
    let wake := w.timer.rest c.now (r.policy.delay c (w.draw k))
    ⟨.ofCount (k + 2), .zero, wake + (w.call (k + 1)).takes,
      some (r.failure (w.call (k + 1)).outcome)⟩

theorem attempt_decision (r : Rules T E) (w : Scenario T E) (k : Nat) :
    (r.decision w k).attempt = .ofCount (k + 1) := by
  cases k <;> rfl

theorem start_decision (r : Rules T E) (w : Scenario T E) (k : Nat) :
    (r.decision w k).start = .zero := by
  cases k <;> rfl

theorem elapsed_decision (r : Rules T E) (w : Scenario T E) (k : Nat) :
    (r.decision w k).elapsed = (r.decision w k).now := by
  rw [Context.elapsed, start_decision]
  rfl

theorem lastFailure_decision (r : Rules T E) (w : Scenario T E) (k : Nat) :
    (r.decision w k).lastFailure = some (r.failure (w.call k).outcome) := by
  cases k <;> rfl

/-- The delay that the policy asks for after round `k`. -/
def gap (r : Rules T E) (w : Scenario T E) (k : Nat) : Duration :=
  r.policy.delay (r.decision w k) (w.draw k)

/-- The token when call `k` has come back, if all rounds before it were retried. -/
def tokenAt (r : Rules T E) (w : Scenario T E) : Nat → Token
  | 0 => if (w.call 0).cancels then w.token.cancel (r.decision w 0).now else w.token
  | k + 1 =>
    let before := tokenAt r w k
    if (w.call (k + 1)).cancels then before.cancel (r.decision w (k + 1)).now else before

/-- The wait after round `k` finds the token cancelled. -/
def Interrupted (r : Rules T E) (w : Scenario T E) (k : Nat) : Prop :=
  w.timer.FindsCancelled (r.tokenAt w k) (r.decision w k).now (r.gap w k)

instance (r : Rules T E) (w : Scenario T E) (k : Nat) : Decidable (r.Interrupted w k) :=
  inferInstanceAs (Decidable (w.timer.FindsCancelled _ _ _))

/-- A pause that stands where the rounds before it lead. -/
structure Due (r : Rules T E) (w : Scenario T E) (p : Pause) : Prop where
  failed : r.failed w p = r.decision w p.rounds
  token : w.tokenAfter p = r.tokenAt w p.rounds

namespace Due

variable {r : Rules T E} {w : Scenario T E} {p : Pause}

theorem attempt (due : r.Due w p) : p.context.attempt = .ofCount (p.rounds + 1) := by
  have same := congrArg Context.attempt due.failed
  rwa [attempt_decision] at same

theorem returned (due : r.Due w p) : w.returned p = (r.decision w p.rounds).now :=
  congrArg Context.now due.failed

theorem pace (due : r.Due w p) : r.pace w p = r.gap w p.rounds := by
  rw [Rules.pace, due.failed, gap]

theorem first (r : Rules T E) (w : Scenario T E) : r.Due w (.first .zero w.token) := ⟨rfl, rfl⟩

/-- A pause in which a round ends is due again. -/
theorem next (due : r.Due w p) : r.Due w (r.resumption w p) := by
  have started : p.context.start = .zero :=
    (congrArg Context.start due.failed).trans (r.start_decision w p.rounds)
  have back : w.timer.rest (w.returned p) (r.pace w p) + (w.call (p.rounds + 1)).takes =
      (r.decision w (p.rounds + 1)).now := by
    rw [due.returned, due.pace]
    rfl
  constructor
  · change (⟨p.context.attempt.next, p.context.start,
      w.timer.rest (w.returned p) (r.pace w p) + (w.call (p.rounds + 1)).takes,
      some (r.failure (w.call (p.rounds + 1)).outcome)⟩ : Context) = _
    rw [due.attempt, Attempt.next_ofCount, started, back]
    rfl
  · change (if (w.call (p.rounds + 1)).cancels then (w.tokenAfter p).cancel
      (w.timer.rest (w.returned p) (r.pace w p) + (w.call (p.rounds + 1)).takes)
      else w.tokenAfter p) = _
    rw [back, due.token]
    rfl

/-- The next call begins when the wait of the round is over. -/
theorem now_resumption (due : r.Due w p) :
    (r.resumption w p).now = w.timer.rest (r.decision w p.rounds).now (r.gap w p.rounds) := by
  rw [← due.returned, ← due.pace]
  rfl

end Due

theorem due_pauseAt (r : Rules T E) (w : Scenario T E) (k : Nat) : r.Due w (r.pauseAt w .zero k) := by
  induction k with
  | zero => exact .first r w
  | succ k ih => exact ih.next

end Rules

namespace Progress

variable {r : Rules T E} {w : Scenario T E} {watched : Bool} {s : Progress T E} {m n : Nat}
  {p : Pause} {e : Ending T E}

theorem resume_succ_last (r : Rules T E) (w : Scenario T E) (watched : Bool) (s : Progress T E)
    (n : Nat) :
    s.resume r w watched (n + 1) = (s.resume r w watched n).advance r w watched := by
  rw [resume_add, resume_succ]
  rfl

theorem resume_succ_of_paused (paused : (s.resume r w watched n).stage = .paused p) :
    s.resume r w watched (n + 1) =
      ⟨(s.resume r w watched n).log ++ (r.round w watched p).actions,
        (r.round w watched p).stage⟩ := by
  rw [resume_succ_last, advance]
  simp only [paused]

theorem log_resume_succ (paused : (s.resume r w watched n).stage = .paused p) :
    (s.resume r w watched (n + 1)).log.toList =
      (s.resume r w watched n).log.toList ++ (r.round w watched p).actions := by
  rw [resume_succ_of_paused paused, Array.toList_appendList]

theorem calls_resume_succ (paused : (s.resume r w watched n).stage = .paused p) :
    (s.resume r w watched (n + 1)).calls = (s.resume r w watched n).calls + 1 := by
  simp only [calls, ← Array.countP_toList, log_resume_succ paused, List.countP_append,
    Rules.countP_isInvoke_round]

theorem resume_of_ended_of_le (ended : (s.resume r w watched m).stage = .ended e)
    (later : m ≤ n) : s.resume r w watched n = s.resume r w watched m := by
  obtain ⟨d, rfl⟩ := Nat.exists_eq_add_of_le later
  rw [resume_add]
  exact resume_of_ended ended d

theorem paused_of_paused_of_le (paused : (s.resume r w watched n).stage = .paused p)
    (earlier : m ≤ n) : ∃ q, (s.resume r w watched m).stage = .paused q := by
  cases stage : (s.resume r w watched m).stage with
  | paused q => exact ⟨q, rfl⟩
  | ended e =>
    rw [resume_of_ended_of_le stage earlier, stage] at paused
    contradiction

theorem log_resume_prefix (earlier : m ≤ n) :
    (s.resume r w watched m).log.toList <+: (s.resume r w watched n).log.toList := by
  induction earlier with
  | refl => exact List.prefix_refl _
  | @step n earlier ih =>
    refine ih.trans ?_
    cases stage : (s.resume r w watched n).stage with
    | ended e => simp [resume_of_ended_of_le stage (Nat.le_add_right n 1)]
    | paused p =>
      rw [log_resume_succ stage]
      exact List.prefix_append _ _

/-- An execution that has started at `begins` and is not over has called the operation once in each
of its rounds, and its pause is the one to which they lead. -/
theorem of_paused {begins : Duration} (opens : s.stage = .paused (.first begins w.token))
    (uncalled : s.calls = 0) (paused : (s.resume r w watched n).stage = .paused p) :
    p = r.pauseAt w begins n ∧ (s.resume r w watched n).calls = n := by
  induction n generalizing p with
  | zero => exact ⟨Stage.paused.inj (paused.symm.trans opens), uncalled⟩
  | succ n ih =>
    obtain ⟨q, before⟩ := paused_of_paused_of_le paused (Nat.le_succ n)
    obtain ⟨rfl, calls⟩ := ih before
    have round : (r.round w watched (r.pauseAt w begins n)).stage = .paused p := by
      rw [resume_succ_of_paused before] at paused
      exact paused
    exact ⟨Rules.eq_resumption_of_paused round, by rw [calls_resume_succ before, calls]⟩

end Progress

namespace Executor

variable [TextCarrier T] [Chained E] {x : Executor T E} {mode : Mode} {w : Scenario T E}
  {m n : Nat} {p : Pause} {e : Ending T E}

theorem run_succ_of_paused (paused : (x.run mode w n).stage = .paused p) :
    x.run mode w (n + 1) = ⟨(x.run mode w n).log ++ (x.rules.round w mode.watches p).actions,
      (x.rules.round w mode.watches p).stage⟩ :=
  Progress.resume_succ_of_paused paused

theorem run_of_ended (ended : (x.run mode w m).stage = .ended e) (later : m ≤ n) :
    x.run mode w n = x.run mode w m :=
  Progress.resume_of_ended_of_le ended later

theorem log_run_succ (paused : (x.run mode w n).stage = .paused p) :
    (x.run mode w (n + 1)).log.toList =
      (x.run mode w n).log.toList ++ (x.rules.round w mode.watches p).actions :=
  Progress.log_resume_succ paused

/-- A run that is not over was not over before. -/
theorem paused_of_paused (paused : (x.run mode w n).stage = .paused p) (earlier : m ≤ n) :
    ∃ q, (x.run mode w m).stage = .paused q :=
  Progress.paused_of_paused_of_le paused earlier

theorem calls_run_succ (paused : (x.run mode w n).stage = .paused p) :
    (x.run mode w (n + 1)).calls = (x.run mode w n).calls + 1 :=
  Progress.calls_resume_succ paused

/-- A run of `n` rounds that is not over has called the operation `n` times, and its pause is
the one to which `n` retried rounds lead. -/
theorem of_paused (paused : (x.run mode w n).stage = .paused p) :
    p.rounds = n ∧ x.rules.Due w p ∧ (x.run mode w n).calls = n := by
  obtain ⟨rfl, calls⟩ := Progress.of_paused rfl rfl paused
  exact ⟨x.rules.rounds_pauseAt w .zero n, x.rules.due_pauseAt w n, calls⟩

/-- A run that is not over after one more round has retried that round. -/
theorem exists_resumption_of_paused (paused : (x.run mode w (n + 1)).stage = .paused p) :
    ∃ q, (x.run mode w n).stage = .paused q ∧ p = x.rules.resumption w q := by
  obtain ⟨q, before⟩ := paused_of_paused paused (Nat.le_succ n)
  rw [run_succ_of_paused before] at paused
  exact ⟨q, before, Rules.eq_resumption_of_paused paused⟩

/-- Later rounds only add to the log. -/
theorem log_prefix (x : Executor T E) (mode : Mode) (w : Scenario T E) (earlier : m ≤ n) :
    (x.run mode w m).log.toList <+: (x.run mode w n).log.toList :=
  Progress.log_resume_prefix earlier

end Executor
end Retry
