import Mathlib.Data.List.Basic
import Retry.Proofs.Execution.Ending

/-! What an event says of the rest of its run. An event is told before the wait that it
announces, so it announces a decision: another call follows unless the token cuts that
wait, and then the event is the last one and the run is cancelled. -/
namespace Retry

variable {T E : Type}

/-- Neither a call nor an event. -/
def Action.Inner (a : Action T E) : Prop := a.isInvoke = false ∧ a.event? = none

namespace Action

theorem invoke_notMem {actions : List (Action T E)} (inner : ∀ a ∈ actions, a.Inner) :
    .invoke ∉ actions := by
  intro member
  exact absurd (inner _ member).1 (by simp [isInvoke])

theorem tell_notMem {actions : List (Action T E)} (inner : ∀ a ∈ actions, a.Inner) (e : Event) :
    .tell e ∉ actions := by
  intro member
  exact absurd (inner _ member).2 (by simp [event?])

end Action

def Stage.Cancelled (s : Stage T E) : Prop :=
  ∃ ending attempts, s = .ended ending ∧ ending.result = .error (.cancelled attempts)

/-- A round calls the operation, and then tells one event, which says that another attempt
was decided on. -/
theorem Rules.round_reports (r : Rules T E) (w : Scenario T E) (watched : Bool) (p : Pause) :
    ∃ lead e trail, (r.round w watched p).actions = .invoke :: lead ++ .tell e :: trail ∧
      (∀ a ∈ lead, a.Inner) ∧ (∀ a ∈ trail, a.Inner) ∧
      (e.retrying = true ↔ (∃ q, (r.round w watched p).stage = .paused q) ∨
        (r.round w watched p).stage.Cancelled) := by
  cases r.course w watched p with
  | accepted _ _ _ same | declined _ _ _ same =>
    rw [same]
    refine ⟨[_, _], _, [], rfl, ?_, ?_, ?_⟩
    · simp [Action.Inner, Action.isInvoke, Action.event?]
    · simp
    · simp [Event.retrying, Event.ofContext, Stage.Cancelled]
  | refused _ _ same =>
    rw [same]
    refine ⟨[_, _, _], _, [], rfl, ?_, ?_, ?_⟩
    · simp [Action.Inner, Action.isInvoke, Action.event?]
    · simp
    · cases (w.call p.rounds).outcome <;>
        simp [Event.retrying, Event.ofContext, Stage.Cancelled, refusal]
  | cut _ _ _ _ same =>
    rw [same]
    refine ⟨[_, _, _, _], r.announced w p, [_, _], rfl, ?_, ?_, ?_⟩
    · simp [Action.Inner, Action.isInvoke, Action.event?]
    · simp [Action.Inner, Action.isInvoke, Action.event?]
    · simp [announced, Event.retrying, Event.ofContext, Stage.Cancelled]
  | retried _ _ _ same =>
    rw [same]
    refine ⟨[_, _, _, _], r.announced w p, [_], rfl, ?_, ?_, ?_⟩
    · simp [Action.Inner, Action.isInvoke, Action.event?]
    · simp [Action.Inner, Action.isInvoke, Action.event?]
    · simp [announced, Event.retrying, Event.ofContext]

namespace Executor

variable [TextCarrier T] [Chained E] {x : Executor T E} {mode : Mode} {w : Scenario T E}
  {m n : Nat}

/-- Another call of the operation follows in the run that begins with `done`. -/
def InvokesAfter (x : Executor T E) (mode : Mode) (w : Scenario T E)
    (done : List (Action T E)) : Prop :=
  ∃ n later, (x.run mode w n).log.toList = done ++ later ∧ .invoke ∈ later

/-- The run that begins with `done` is cancelled without a further event. -/
def CancelledAfter (x : Executor T E) (mode : Mode) (w : Scenario T E)
    (done : List (Action T E)) : Prop :=
  ∃ n later attempts, (x.run mode w n).log.toList = done ++ later ∧ (∀ e, .tell e ∉ later) ∧
    x.result? mode w n = some (.error (.cancelled attempts))

/-- Every event of a run is told in one of its rounds. -/
theorem exists_round_of_told {before : List (Action T E)} {e : Event}
    (told : before ++ [.tell e] <+: (x.run mode w n).log.toList) :
    ∃ k p lead trail, (x.run mode w k).stage = .paused p ∧
      (x.rules.round w mode.watches p).actions = lead ++ .tell e :: trail ∧
      before = (x.run mode w k).log.toList ++ lead := by
  induction n with
  | zero =>
    obtain ⟨rest, same⟩ := told
    cases before with
    | nil => simp [run, Progress.resume, start] at same
    | cons a before => simp [run, Progress.resume, start] at same
  | succ n ih =>
    cases stage : (x.run mode w n).stage with
    | ended ending =>
      rw [run_of_ended stage (Nat.le_succ n)] at told
      exact ih told
    | paused p =>
      rw [log_run_succ stage] at told
      obtain ⟨rest, same⟩ := told
      rw [List.append_assoc, List.singleton_append] at same
      rcases List.append_eq_append_iff.mp same with ⟨extra, past, new⟩ | ⟨lead, past, new⟩
      · cases extra with
        | nil => exact ⟨n, p, [], rest, stage, by simpa using new.symm, by simpa using past.symm⟩
        | cons a extra =>
          obtain ⟨rfl, _⟩ := List.cons.inj new
          exact ih ⟨extra, by rw [past, List.append_assoc, List.singleton_append]⟩
      · exact ⟨n, p, lead, rest, stage, new, past⟩

/-- A told event stands in a round, and the run that ends with this round has nothing else
to tell. -/
theorem exists_report_of_told {before : List (Action T E)} {e : Event}
    (told : before ++ [.tell e] <+: (x.run mode w n).log.toList) :
    ∃ k trail, (x.run mode w (k + 1)).log.toList = before ++ [.tell e] ++ trail ∧
      (∀ a ∈ trail, a.Inner) ∧
      (e.retrying = true ↔ (∃ q, (x.run mode w (k + 1)).stage = .paused q) ∨
        (x.run mode w (k + 1)).stage.Cancelled) := by
  obtain ⟨k, p, lead, trail, paused, actions, rfl⟩ := exists_round_of_told told
  obtain ⟨inside, f, rest, shape, leading, trailing, decided⟩ :=
    x.rules.round_reports w mode.watches p
  have quiet : .tell e ∉ .invoke :: inside := by
    simpa using Action.tell_notMem leading e
  have split := (List.append_cons_inj_of_notMem quiet (Action.tell_notMem trailing e)).mp
    (shape.symm.trans actions)
  obtain ⟨rfl, told, rfl⟩ := split
  cases told
  refine ⟨k, rest, ?_, trailing, ?_⟩
  · rw [log_run_succ paused, shape]
    simp
  · rw [run_succ_of_paused paused]
    exact decided

variable {done trail : List (Action T E)}

/-- A run that is not over calls the operation again, and has more to tell. -/
theorem invokesAfter_of_paused {p : Pause} (paused : (x.run mode w n).stage = .paused p)
    (log : (x.run mode w n).log.toList = done ++ trail) :
    x.InvokesAfter mode w done ∧ ¬ x.CancelledAfter mode w done := by
  obtain ⟨inside, f, rest, shape, _⟩ := x.rules.round_reports w mode.watches p
  have next : (x.run mode w (n + 1)).log.toList =
      done ++ (trail ++ (.invoke :: inside ++ .tell f :: rest)) := by
    rw [log_run_succ paused, log, shape, List.append_assoc]
  refine ⟨⟨n + 1, _, next, by simp⟩, ?_⟩
  rintro ⟨m, later, attempts, same, silent, result⟩
  have after : n + 1 ≤ m := by
    by_contra early
    obtain ⟨q, still⟩ := paused_of_paused paused (show m ≤ n by omega)
    rw [(result?_of_paused still).1] at result
    contradiction
  have longer := x.log_prefix mode w after
  rw [next, same, List.prefix_append_right_inj] at longer
  exact silent f (longer.subset (by simp))

theorem not_invokesAfter_of_ended {ending : Ending T E}
    (ended : (x.run mode w n).stage = .ended ending)
    (log : (x.run mode w n).log.toList = done ++ trail) (inner : ∀ a ∈ trail, a.Inner) :
    ¬ x.InvokesAfter mode w done := by
  rintro ⟨m, later, same, invoked⟩
  have shorter : (x.run mode w m).log.toList <+: (x.run mode w n).log.toList := by
    rcases Nat.le_total m n with early | late
    · exact x.log_prefix mode w early
    · simp [run_of_ended ended late]
  rw [same, log, List.prefix_append_right_inj] at shorter
  exact Action.invoke_notMem inner (shorter.subset invoked)

theorem cancelledAfter_iff_of_ended {ending : Ending T E}
    (ended : (x.run mode w n).stage = .ended ending)
    (log : (x.run mode w n).log.toList = done ++ trail) (inner : ∀ a ∈ trail, a.Inner) :
    x.CancelledAfter mode w done ↔ (x.run mode w n).stage.Cancelled := by
  constructor
  · rintro ⟨m, later, attempts, _, _, result⟩
    obtain ⟨other, stage, cancelled⟩ := ended_of_result? result
    have same : x.run mode w m = x.run mode w n := by
      rcases Nat.le_total m n with early | late
      · exact (run_of_ended stage early).symm
      · exact run_of_ended ended late
    exact ⟨other, attempts, same ▸ stage, cancelled⟩
  · rintro ⟨other, attempts, stage, cancelled⟩
    exact ⟨n, trail, attempts, log, Action.tell_notMem inner,
      (result?_of_ended stage).trans (congrArg some cancelled)⟩

/-- An event is retrying exactly if another call follows, or if its wait is cut and it was
the last event of a cancelled run. -/
theorem retrying_iff_invokesAfter_or_cancelledAfter {before : List (Action T E)} {e : Event}
    (told : before ++ [.tell e] <+: (x.run mode w n).log.toList) :
    (e.retrying = true ↔ x.InvokesAfter mode w (before ++ [.tell e]) ∨
      x.CancelledAfter mode w (before ++ [.tell e])) ∧
    ¬ (x.InvokesAfter mode w (before ++ [.tell e]) ∧
      x.CancelledAfter mode w (before ++ [.tell e])) := by
  obtain ⟨k, trail, log, inner, decided⟩ := exists_report_of_told told
  cases stage : (x.run mode w (k + 1)).stage with
  | paused q =>
    obtain ⟨invokes, uncut⟩ := invokesAfter_of_paused stage log
    have retrying : e.retrying = true := decided.mpr (Or.inl ⟨q, stage⟩)
    exact ⟨⟨fun _ => Or.inl invokes, fun _ => retrying⟩, fun both => uncut both.2⟩
  | ended ending =>
    have silent := not_invokesAfter_of_ended stage log inner
    refine ⟨?_, fun both => silent both.1⟩
    rw [decided, cancelledAfter_iff_of_ended stage log inner, stage]
    simp [silent]

end Executor

/-- A failing operation under a token that is cancelled from the start. -/
def cutShort : Scenario String Cause := { unanswered with token := ⟨some .zero⟩ }

/-- What is decided after its first call. -/
def cutShortEvent : Event :=
  ⟨1, .retriableError, some (.ofMillis 5), .zero, some (.error "no answer")⟩

def cutShortBefore : List (Action String Cause) :=
  (patient.run .cancellable cutShort 1).log.toList.take 6

theorem cutShort_log : (patient.run .cancellable cutShort 1).log.toList =
    cutShortBefore ++ [.tell cutShortEvent] ++ [.sleep (.ofMillis 5), .write (.cancelled 1)] :=
  rfl

theorem cutShort_told : cutShortBefore ++ [.tell cutShortEvent] <+:
    (patient.run .cancellable cutShort 1).log.toList := by
  rw [cutShort_log]
  exact List.prefix_append _ _

theorem cutShort_retrying :
    cutShortBefore ++ [.tell cutShortEvent] <+: (patient.run .cancellable cutShort 1).log.toList ∧
      (cutShortEvent.retrying = true ↔
        patient.InvokesAfter .cancellable cutShort (cutShortBefore ++ [.tell cutShortEvent]) ∨
          patient.CancelledAfter .cancellable cutShort (cutShortBefore ++ [.tell cutShortEvent])) ∧
      ¬ (patient.InvokesAfter .cancellable cutShort (cutShortBefore ++ [.tell cutShortEvent]) ∧
        patient.CancelledAfter .cancellable cutShort (cutShortBefore ++ [.tell cutShortEvent])) := by
  exact ⟨cutShort_told, Executor.retrying_iff_invokesAfter_or_cancelledAfter cutShort_told⟩

/-- A retrying event need not be followed by another call. -/
theorem cutShort_not_retrying_iff_invokesAfter :
    ¬ ∀ n before e, before ++ [.tell e] <+: (patient.run .cancellable cutShort n).log.toList →
      (e.retrying = true ↔ patient.InvokesAfter .cancellable cutShort (before ++ [.tell e])) := by
  intro followed
  have invokes := (followed 1 _ _ cutShort_told).mp rfl
  exact Executor.not_invokesAfter_of_ended rfl cutShort_log
    (by simp [Action.Inner, Action.isInvoke, Action.event?]) invokes

end Retry
