import Mathlib.Logic.Function.Iterate
import Retry.Fleet
import Retry.Proofs.Execution.Run

/-! One execution of a fleet, turn by turn. In a turn it performs the action that is due next, or
begins a round where nothing is due. `Share.At` is the invariant of its turns: what it has
performed and what is due are, together, what it does when it is carried out alone, so that
it can be behind the execution alone but never beside it. Nothing is said of the other executions
here, and nothing of the order in which turns are given. -/
namespace Retry

variable {T E : Type}

/-- An execution with nobody beside it, after at most `limit` rounds. -/
def Member.alone [TextCarrier T] [Chained E] (m : Member T E) (x : Executor T E) (limit : Nat) :
    Progress T E :=
  (x.start m.scenario m.begins).resume x.rules m.scenario m.mode.watches limit

/-- An execution ends in one way. -/
theorem Member.alone_eq_of_ended [TextCarrier T] [Chained E] {m : Member T E} {x : Executor T E}
    {k l : Nat} {d e : Ending T E} (ended : (m.alone x k).stage = .ended d)
    (other : (m.alone x l).stage = .ended e) : m.alone x k = m.alone x l := by
  rcases Nat.le_total k l with before | after
  · exact (Progress.resume_of_ended_of_le ended before).symm
  · exact Progress.resume_of_ended_of_le other after

namespace Task

variable {r : Rules T E} {t : Task T E}

theorem finished_iff : t.finished = true ↔ t.due = [] ∧ ∃ e, t.stage = .ended e := by
  obtain ⟨w, watched, due, stage⟩ := t
  cases due <;> cases stage <;> simp [finished]

theorem step_of_due {a : Action T E} {due : List (Action T E)} (next : t.due = a :: due) :
    t.step r = ({ t with due := due }, some a) := by
  simp [step, next]

theorem step_of_paused {p : Pause} (idle : t.due = []) (paused : t.stage = .paused p) :
    t.step r = ({ t with
      due := (r.round t.scenario t.watched p).actions
      stage := (r.round t.scenario t.watched p).stage }, none) := by
  simp [step, idle, paused]

theorem step_of_finished (finished : t.finished = true) : t.step r = (t, none) := by
  obtain ⟨idle, e, ended⟩ := finished_iff.mp finished
  simp [step, idle, ended]

end Task

/-- One execution of a fleet: its task, and the actions it has performed. -/
structure Share (T E : Type) where
  task : Task T E
  done : List (Action T E)

namespace Share

def turn (r : Rules T E) (s : Share T E) : Share T E :=
  ⟨(s.task.step r).1, s.done ++ (s.task.step r).2.toList⟩

def progress (s : Share T E) : Progress T E := ⟨s.done.toArray, s.task.stage⟩

variable [TextCarrier T] [Chained E]

/-- After `turns` turns the execution is in round `n` of what it does alone. Each turn has
performed an action or begun a round, unless nothing was left to be done. -/
structure At (s : Share T E) (x : Executor T E) (m : Member T E) (turns n : Nat) : Prop where
  scenario : s.task.scenario = m.scenario
  watched : s.task.watched = m.mode.watches
  log : s.done ++ s.task.due = (m.alone x n).log.toList
  stage : s.task.stage = (m.alone x n).stage
  behind : ∀ j < n, (∃ p, (m.alone x j).stage = .paused p) ∧ (m.alone x j).log.toList <+: s.done
  spent : turns = n + s.done.length ∨ s.task.finished = true

namespace At

variable {s : Share T E} {x : Executor T E} {m : Member T E} {turns n k : Nat}

theorem launch (x : Executor T E) (m : Member T E) : At ⟨.start x m, []⟩ x m 0 0 where
  scenario := rfl
  watched := rfl
  log := rfl
  stage := rfl
  behind j before := absurd before (Nat.not_lt_zero j)
  spent := Or.inl rfl

theorem perform (here : s.At x m turns n) {a : Action T E} {due : List (Action T E)}
    (next : s.task.due = a :: due) : (s.turn x.rules).At x m (turns + 1) n := by
  have same : s.turn x.rules = ⟨{ s.task with due := due }, s.done ++ [a]⟩ := by
    rw [turn, Task.step_of_due next]
    rfl
  have busy : s.task.finished ≠ true := by
    simp [Task.finished_iff, next]
  rw [same]
  refine ⟨here.scenario, here.watched, ?_, here.stage, ?_, ?_⟩
  · rw [← here.log, next]
    simp
  · intro j before
    obtain ⟨paused, done⟩ := here.behind j before
    exact ⟨paused, done.trans (List.prefix_append _ _)⟩
  · have count := here.spent.resolve_right busy
    left
    simp only [count, List.length_append, List.length_singleton]
    omega

theorem begin (here : s.At x m turns n) {p : Pause} (idle : s.task.due = [])
    (paused : s.task.stage = .paused p) : (s.turn x.rules).At x m (turns + 1) (n + 1) := by
  have same : s.turn x.rules = ⟨{ s.task with
      due := (x.rules.round m.scenario m.mode.watches p).actions
      stage := (x.rules.round m.scenario m.mode.watches p).stage }, s.done⟩ := by
    rw [turn, Task.step_of_paused idle paused]
    simp [here.scenario, here.watched]
  have done : s.done = (m.alone x n).log.toList := by
    rw [← here.log, idle, List.append_nil]
  have stands : (m.alone x n).stage = .paused p := here.stage.symm.trans paused
  have next : m.alone x (n + 1) =
      ⟨(m.alone x n).log ++ (x.rules.round m.scenario m.mode.watches p).actions,
        (x.rules.round m.scenario m.mode.watches p).stage⟩ :=
    Progress.resume_succ_of_paused stands
  rw [same]
  refine ⟨here.scenario, here.watched, ?_, ?_, ?_, ?_⟩
  · rw [next, Array.toList_appendList, done]
  · rw [next]
  · intro j before
    rcases Nat.lt_succ_iff_lt_or_eq.mp before with earlier | rfl
    · exact here.behind j earlier
    · exact ⟨⟨p, stands⟩, done ▸ List.prefix_rfl⟩
  · have busy : s.task.finished ≠ true := by
      simp [Task.finished_iff, paused]
    have count := here.spent.resolve_right busy
    left
    change turns + 1 = n + 1 + s.done.length
    omega

theorem rest (here : s.At x m turns n) (finished : s.task.finished = true) :
    (s.turn x.rules).At x m (turns + 1) n := by
  have same : s.turn x.rules = s := by
    rw [turn, Task.step_of_finished finished]
    simp
  rw [same]
  exact { here with spent := Or.inr finished }

/-- A turn keeps the execution on the way it takes alone. -/
theorem turn (here : s.At x m turns n) : ∃ n, (s.turn x.rules).At x m (turns + 1) n := by
  cases next : s.task.due with
  | cons a due => exact ⟨n, here.perform next⟩
  | nil =>
    cases stage : s.task.stage with
    | paused p => exact ⟨n + 1, here.begin next stage⟩
    | ended e => exact ⟨n, here.rest (Task.finished_iff.mpr ⟨next, e, stage⟩)⟩

theorem iterate (x : Executor T E) (m : Member T E) (turns : Nat) :
    ∃ n, ((Share.turn x.rules)^[turns] ⟨.start x m, []⟩).At x m turns n := by
  induction turns with
  | zero => exact ⟨0, launch x m⟩
  | succ turns ih =>
    obtain ⟨n, here⟩ := ih
    rw [Function.iterate_succ_apply']
    exact here.turn

/-- What is done is a beginning of what the execution does alone. -/
theorem done_prefix (here : s.At x m turns n) : s.done <+: (m.alone x n).log.toList := by
  rw [← here.log]
  exact List.prefix_append _ _

/-- An execution that has finished has done all that it does alone. -/
theorem progress_of_finished (here : s.At x m turns n) (finished : s.task.finished = true) :
    s.progress = m.alone x n ∧ ∃ e, (m.alone x n).stage = .ended e := by
  obtain ⟨idle, e, ended⟩ := Task.finished_iff.mp finished
  have done := here.log
  rw [idle, List.append_nil] at done
  have stage := here.stage
  refine ⟨?_, e, stage.symm.trans ended⟩
  rw [progress, done, stage]

/-- The first `k` rounds are done when there was a turn for each of them and for each of their
actions; and if they end the execution, it has finished. -/
theorem keeps_up (here : s.At x m turns n) (enough : k + (m.alone x k).log.size ≤ turns) :
    (m.alone x k).log.toList <+: s.done ∧
      ((∃ e, (m.alone x k).stage = .ended e) → s.task.finished = true) := by
  have longest := here.done_prefix.length_le
  rw [Array.length_toList] at longest
  rcases here.spent with count | finished
  -- no turn was idle, so the turns tell how far the execution is; round `k` is not beyond that
  · rcases Nat.lt_trichotomy k n with before | rfl | after
    · obtain ⟨⟨p, paused⟩, done⟩ := here.behind k before
      refine ⟨done, ?_⟩
      rintro ⟨e, ended⟩
      rw [paused] at ended
      contradiction
    · have all : s.done = (m.alone x k).log.toList := by
        apply here.done_prefix.eq_of_length
        rw [Array.length_toList]
        omega
      refine ⟨all ▸ List.prefix_rfl, ?_⟩
      rintro ⟨e, ended⟩
      have idle : s.task.due = [] := by
        have parts := here.log
        rwa [← all, List.append_right_eq_self] at parts
      exact Task.finished_iff.mpr ⟨idle, e, here.stage.trans ended⟩
    · have more : (m.alone x n).log.toList.length ≤ (m.alone x k).log.toList.length :=
        (Progress.log_resume_prefix (Nat.le_of_lt after)).length_le
      simp only [Array.length_toList] at more
      omega
  · obtain ⟨same, e, ended⟩ := here.progress_of_finished finished
    have all : s.done = (m.alone x n).log.toList := by
      rw [← same]
      rfl
    refine ⟨?_, fun _ => finished⟩
    rw [all]
    rcases Nat.le_total k n with before | after
    · exact Progress.log_resume_prefix before
    · have settled : m.alone x k = m.alone x n := Progress.resume_of_ended_of_le ended after
      exact settled ▸ List.prefix_rfl

end At
end Share
end Retry
