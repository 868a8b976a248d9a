import Retry.Proofs.Fleet.Turn

/-! Executions that start anywhere on the clock, pause by pause. What an execution has done is its
opening record, and then what each of its rounds does from its own pause: one call, and a remainder
in which the condition and the policy are asked (`Rules.asked`). -/
namespace Retry

variable {T E : Type}

/-- A question to the condition or to the policy. -/
def Action.isQuestion : Action T E → Bool
  | .judge .. | .consult .. | .space .. => true
  | _ => false

/-- What was done after each call of the operation and before the next one. -/
def Progress.chapters (p : Progress T E) : List (List (Action T E)) :=
  (p.log.toList.splitOnP Action.isInvoke).tail

/-- Splitting a log at its calls gives back what precedes the first one, and the chapters. -/
theorem splitOnP_flatMap_chapters (opening : List (Action T E))
    (chapter : Nat → List (Action T E)) (uncalled : ∀ a ∈ opening, a.isInvoke = false)
    (inner : ∀ k, ∀ a ∈ chapter k, a.isInvoke = false) (n : Nat) :
    (opening ++ (List.range n).flatMap fun k => .invoke :: chapter k).splitOnP Action.isInvoke =
      opening :: (List.range n).map chapter := by
  induction n with
  | zero => simpa using List.splitOnP_eq_singleton uncalled
  | succ n ih =>
    rw [List.range_succ, List.flatMap_append, List.map_append, ← List.append_assoc,
      List.flatMap_singleton, List.splitOnP_append_cons _ _ rfl, ih,
      List.splitOnP_eq_singleton (inner n)]
    rfl

namespace Rules

variable (r : Rules T E) (w : Scenario T E) (watched : Bool) (p : Pause)

/-- What a round that starts from a pause does after its call. -/
def remainder : List (Action T E) := (r.round w watched p).actions.tail

theorem actions_eq_invoke_cons :
    (r.round w watched p).actions = .invoke :: r.remainder w watched p := by
  unfold remainder
  cases r.course w watched p with
  | accepted _ _ _ same | declined _ _ _ same | refused _ _ same | cut _ _ _ _ same
  | retried _ _ _ same =>
    rw [same]
    rfl

theorem isInvoke_of_mem_remainder {a : Action T E} (member : a ∈ r.remainder w watched p) :
    a.isInvoke = false := by
  have once := r.countP_isInvoke_round w watched p
  rw [actions_eq_invoke_cons, List.countP_cons_of_pos rfl, Nat.add_eq_right,
    List.countP_eq_zero] at once
  exact Bool.eq_false_iff.mpr (once a member)

/-- What is asked in a round that starts from a pause: the condition, the policy if the condition
asks for another attempt, and for its delay if it permits one. -/
def asked : List (Action T E) :=
  .judge (w.call p.rounds).outcome (r.judge (w.call p.rounds).outcome) ::
    if (r.judge (w.call p.rounds).outcome).retry then
      .consult (r.failed w p) (r.policy.permits (r.failed w p)) ::
        if r.policy.permits (r.failed w p) then [.space (r.failed w p) (r.pace w p)] else []
    else []

/-- Nothing else is asked, however the round ends. -/
theorem filter_isQuestion_remainder :
    (r.remainder w watched p).filter Action.isQuestion = r.asked w p := by
  unfold remainder asked
  cases r.course w watched p with
  | accepted _ _ kept same | declined _ _ kept same =>
    rw [same, kept]
    rfl
  | refused asks refuses same =>
    rw [same, asks, refuses]
    rfl
  | cut _ asks permits _ same | retried asks permits _ same =>
    rw [same, asks, permits]
    rfl

end Rules

namespace Member

variable [TextCarrier T] [Chained E] (m : Member T E) (x : Executor T E)

/-- What is done in round `k` after its call. -/
def part (k : Nat) : List (Action T E) :=
  x.rules.remainder m.scenario m.mode.watches (x.rules.pauseAt m.scenario m.begins k)

/-- An execution is its opening record, and then one call and one part for each of its rounds. -/
theorem log_alone (n : Nat) :
    (m.alone x n).log.toList = .write (.started x.strategy) ::
      (List.range (m.alone x n).calls).flatMap fun k => .invoke :: m.part x k := by
  induction n with
  | zero => rfl
  | succ n ih =>
    cases stage : (m.alone x n).stage with
    | ended e =>
      have same : m.alone x (n + 1) = m.alone x n :=
        Progress.resume_of_ended_of_le stage (Nat.le_succ n)
      rw [same]
      exact ih
    | paused p =>
      obtain ⟨rfl, calls⟩ : _ ∧ (m.alone x n).calls = n := Progress.of_paused rfl rfl stage
      have log : (m.alone x (n + 1)).log.toList = (m.alone x n).log.toList ++ _ :=
        Progress.log_resume_succ stage
      have called : (m.alone x (n + 1)).calls = n + 1 :=
        (Progress.calls_resume_succ stage).trans (congrArg (· + 1) calls)
      rw [log, ih, called, calls, List.range_succ, List.flatMap_append, List.flatMap_singleton,
        Rules.actions_eq_invoke_cons]
      rfl

theorem chapters_alone (n : Nat) :
    (m.alone x n).chapters = (List.range (m.alone x n).calls).map (m.part x) := by
  have split := splitOnP_flatMap_chapters [.write (.started x.strategy)] (m.part x)
    (by simp [Action.isInvoke])
    (fun k _ => Rules.isInvoke_of_mem_remainder _ _ _ _) (m.alone x n).calls
  rw [Progress.chapters, log_alone, ← List.singleton_append, split, List.tail_cons]

end Member
end Retry
