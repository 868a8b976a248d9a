import Retry.Proofs.Execution.Ending
import Retry.Proofs.Execution.Pauses

/-! The log of a run, call by call. What an execution does after call `k` and before the next
call is a chapter of its log: it asks the condition, consults the policy where the condition asks
for another attempt, reports, and waits where the policy permits one. `Rules.chapter` computes it
from the scenario alone, and `Executor.log_run` says that a run is its opening record and then
one call and one chapter for each round it has made. -/
namespace Retry

variable {T E : Type}

/-- How an attempt is named, by its outcome and whether another one was asked for. -/
def Outcome.grade : Outcome T E → Bool → AttemptOutcome
  | .success _, false => .accepted
  | .success _, true => .rejected
  | .failure _, false => .nonRetriableError
  | .failure _, true => .retriableError

theorem Outcome.grade_true (o : Outcome T E) : o.grade true = Rules.asksAgain o := by
  cases o <;> rfl

namespace Action

/-- The delay that the policy gave. -/
def spaced? : Action T E → Option Duration
  | .space _ delay => some delay
  | _ => none

/-- The delay that is waited for. -/
def slept? : Action T E → Option Duration
  | .sleep delay => some delay
  | _ => none

end Action

namespace Rules

/-- The delay of round `k`, if the condition asks for another attempt and the policy permits it. -/
def delay? (r : Rules T E) (w : Scenario T E) (k : Nat) : Option Duration :=
  if (r.judge (w.call k).outcome).retry = true ∧ r.policy.permits (r.decision w k) = true then
    some (r.gap w k)
  else none

/-- What is asked in round `k`: the condition, and the policy if the condition asks for another
attempt. -/
def questions (r : Rules T E) (w : Scenario T E) (k : Nat) : List (Action T E) :=
  .judge (w.call k).outcome (r.judge (w.call k).outcome) ::
    if (r.judge (w.call k).outcome).retry then
      .consult (r.decision w k) (r.policy.permits (r.decision w k)) ::
        if r.policy.permits (r.decision w k) then [.space (r.decision w k) (r.gap w k)] else []
    else []

/-- The event of round `k`. -/
def event (r : Rules T E) (w : Scenario T E) (k : Nat) : Event :=
  .ofContext (r.decision w k)
    ((w.call k).outcome.grade (r.judge (w.call k).outcome).retry) (r.delay? w k)

/-- The last words of an execution whose wait after round `k` is cut. -/
def farewell (r : Rules T E) (w : Scenario T E) (watched : Bool) (k : Nat) : List (Action T E) :=
  if ¬ r.Stops w k ∧ watched = true ∧ r.Interrupted w k then
    [.write (.cancelled (r.decision w k).attempt)]
  else []

/-- What is done in round `k` once its event is told. -/
def departure (r : Rules T E) (w : Scenario T E) (watched : Bool) (k : Nat) : List (Action T E) :=
  (r.delay? w k).toList.map .sleep ++ r.farewell w watched k

/-- What round `k` does after its call, if all rounds before it were retried. -/
def chapter (r : Rules T E) (w : Scenario T E) (watched : Bool) (k : Nat) : List (Action T E) :=
  r.questions w k ++ Action.report (r.event w k) ++ r.departure w watched k

section

variable {r : Rules T E} {w : Scenario T E} {watched : Bool} {k : Nat}

theorem delay?_of_not_stops (going : ¬ r.Stops w k) : r.delay? w k = some (r.gap w k) :=
  if_pos (not_stops_iff.mp going)

theorem delay?_of_stops (stops : r.Stops w k) : r.delay? w k = none :=
  if_neg fun asks => not_stops_iff.mpr asks stops

theorem questions_of_kept (kept : (r.judge (w.call k).outcome).retry = false) :
    r.questions w k = [.judge (w.call k).outcome (r.judge (w.call k).outcome)] := by
  simp [questions, kept]

theorem questions_of_refused (asks : (r.judge (w.call k).outcome).retry = true)
    (refuses : r.policy.permits (r.decision w k) = false) :
    r.questions w k = [.judge (w.call k).outcome (r.judge (w.call k).outcome),
      .consult (r.decision w k) false] := by
  simp [questions, asks, refuses]

theorem questions_of_not_stops (going : ¬ r.Stops w k) :
    r.questions w k = [.judge (w.call k).outcome (r.judge (w.call k).outcome),
      .consult (r.decision w k) true, .space (r.decision w k) (r.gap w k)] := by
  obtain ⟨asks, permits⟩ := not_stops_iff.mp going
  simp [questions, asks, permits]

theorem farewell_of_stops (stops : r.Stops w k) : r.farewell w watched k = [] :=
  if_neg fun cut => cut.1 stops

/-- A round that stops the execution says nothing after its event. -/
theorem departure_of_stops (stops : r.Stops w k) : r.departure w watched k = [] := by
  rw [departure, delay?_of_stops stops, farewell_of_stops stops]
  rfl

theorem departure_of_not_stops (going : ¬ r.Stops w k) :
    r.departure w watched k = .sleep (r.gap w k) :: r.farewell w watched k := by
  rw [departure, delay?_of_not_stops going]
  rfl

end

/-- The actions of a round are its call and its chapter. -/
theorem Due.actions_round {r : Rules T E} {w : Scenario T E} {p : Pause} (due : r.Due w p)
    (watched : Bool) :
    (r.round w watched p).actions = .invoke :: r.chapter w watched p.rounds := by
  have going : (r.judge (w.call p.rounds).outcome).retry = true →
      r.policy.permits (r.failed w p) = true → ¬ r.Stops w p.rounds := by
    intro asks permits
    rw [due.failed] at permits
    exact not_stops_iff.mpr ⟨asks, permits⟩
  have announced : ¬ r.Stops w p.rounds → r.announced w p = r.event w p.rounds := by
    intro goes
    rw [Rules.announced, due.failed, due.pace, event, delay?_of_not_stops goes,
      (not_stops_iff.mp goes).1, Outcome.grade_true]
  cases r.course w watched p with
  | accepted value outcome kept same =>
    have stops : r.Stops w p.rounds := Or.inl kept
    have told : Event.ofContext { p.context with now := w.returned p } .accepted none =
        r.event w p.rounds := by
      rw [event, ← due.failed, delay?_of_stops stops, kept, outcome]
      rfl
    rw [same, told, chapter, questions_of_kept kept, departure_of_stops stops]
    rfl
  | declined error outcome kept same =>
    have stops : r.Stops w p.rounds := Or.inl kept
    have told : Event.ofContext (r.failed w p) .nonRetriableError none = r.event w p.rounds := by
      rw [event, ← due.failed, delay?_of_stops stops, kept, outcome]
      rfl
    rw [same, told, chapter, questions_of_kept kept, departure_of_stops stops]
    rfl
  | refused asks refuses same =>
    rw [due.failed] at refuses
    have stops : r.Stops w p.rounds := Or.inr refuses
    have told : Event.ofContext (r.failed w p) (asksAgain (w.call p.rounds).outcome) none =
        r.event w p.rounds := by
      rw [event, ← due.failed, delay?_of_stops stops, asks, Outcome.grade_true]
    rw [same, told, chapter, questions_of_refused asks refuses, departure_of_stops stops,
      due.failed]
    rfl
  | cut moment asks permits cuts same =>
    have goes := going asks permits
    have found := Timer.findsCancelled_of_wait cuts
    rw [due.findsCancelled_iff] at found
    rw [same, permitted, announced goes, chapter, questions_of_not_stops goes,
      departure_of_not_stops goes, farewell, if_pos ⟨goes, found⟩, due.failed, due.pace,
      due.attempt, attempt_decision]
    rfl
  | retried asks permits rests same =>
    have goes := going asks permits
    have unfound := (Timer.eq_rest_of_wait rests).2
    rw [due.findsCancelled_iff] at unfound
    rw [same, permitted, announced goes, chapter, questions_of_not_stops goes,
      departure_of_not_stops goes, farewell, if_neg fun cut => unfound cut.2, due.failed, due.pace]
    rfl

section

variable (r : Rules T E) (w : Scenario T E) (watched : Bool) (k : Nat)

theorem isQuestion_of_mem_questions : ∀ a ∈ r.questions w k, a.isQuestion = true := by
  unfold questions
  split
  · split <;> simp [Action.isQuestion]
  · simp [Action.isQuestion]

theorem mem_departure {a : Action T E} (member : a ∈ r.departure w watched k) :
    (∃ delay, a = .sleep delay) ∨ ∃ record, a = .write record := by
  rw [departure, List.mem_append, List.mem_map] at member
  rcases member with ⟨delay, _, rfl⟩ | last
  · exact Or.inl ⟨delay, rfl⟩
  · unfold farewell at last
    split at last
    · exact Or.inr ⟨_, List.mem_singleton.mp last⟩
    · contradiction

/-- A chapter is what a round does after its call, if the clock started at zero. -/
theorem remainder_pauseAt : r.remainder w watched (r.pauseAt w .zero k) = r.chapter w watched k := by
  have same := (r.due_pauseAt w k).actions_round watched
  rw [actions_eq_invoke_cons, rounds_pauseAt] at same
  exact (List.cons.inj same).2

theorem asked_pauseAt : r.asked w (r.pauseAt w .zero k) = r.questions w k := by
  have due := r.due_pauseAt w k
  rw [asked, due.failed, due.pace, rounds_pauseAt, questions]

/-- A chapter holds the questions of its round and no other. -/
theorem filter_isQuestion_chapter :
    (r.chapter w watched k).filter Action.isQuestion = r.questions w k := by
  rw [← remainder_pauseAt, filter_isQuestion_remainder, asked_pauseAt]

/-- The policy is asked in the context in which the round is decided. -/
theorem eq_of_consult_mem_chapter {c : Context} {answer : Bool}
    (member : .consult c answer ∈ r.chapter w watched k) :
    c = r.decision w k ∧ answer = r.policy.permits c := by
  have asked : .consult c answer ∈ r.questions w k := by
    rw [← r.filter_isQuestion_chapter w watched k, List.mem_filter]
    exact ⟨member, rfl⟩
  unfold questions at asked
  cases asks : (r.judge (w.call k).outcome).retry with
  | false => simp [asks] at asked
  | true =>
    cases permits : r.policy.permits (r.decision w k) <;> simp_all

/-- What is gathered from a chapter, but not from questions, is gathered from its report and from
what follows. -/
theorem filterMap_chapter {β : Type} {f : Action T E → Option β}
    (unasked : ∀ a, a.isQuestion = true → f a = none) :
    (r.chapter w watched k).filterMap f =
      (Action.report (r.event w k)).filterMap f ++ (r.departure w watched k).filterMap f := by
  have silent : (r.questions w k).filterMap f = [] :=
    List.filterMap_eq_nil_iff.mpr fun a member =>
      unasked a (r.isQuestion_of_mem_questions w k a member)
  rw [chapter, List.filterMap_append, List.filterMap_append, silent, List.nil_append]

/-- What is gathered neither from questions nor from waits and records. -/
theorem filterMap_departure_eq_nil {β : Type} {f : Action T E → Option β}
    (unslept : ∀ d, f (.sleep d) = none) (unwritten : ∀ x, f (.write x) = none) :
    (r.departure w watched k).filterMap f = [] := by
  rw [List.filterMap_eq_nil_iff]
  intro a member
  rcases r.mem_departure w watched k member with ⟨d, rfl⟩ | ⟨x, rfl⟩
  · exact unslept d
  · exact unwritten x

end

end Rules

namespace Executor

variable [TextCarrier T] [Chained E] (x : Executor T E) (mode : Mode) (w : Scenario T E) (n : Nat)

/-- A run is its opening record, and then one call and one chapter for each of its rounds. -/
theorem log_run :
    (x.run mode w n).log.toList = .write (.started x.strategy) ::
      (List.range (x.run mode w n).calls).flatMap fun k =>
        .invoke :: x.rules.chapter w mode.watches k := by
  have alone := (⟨mode, w, .zero⟩ : Member T E).log_alone x n
  simp only [Member.part, Rules.remainder_pauseAt] at alone
  exact alone

theorem chapters_run :
    (x.run mode w n).chapters =
      (List.range (x.run mode w n).calls).map (x.rules.chapter w mode.watches) := by
  have alone := (⟨mode, w, .zero⟩ : Member T E).chapters_alone x n
  have part : (⟨mode, w, .zero⟩ : Member T E).part x = x.rules.chapter w mode.watches :=
    funext fun k => x.rules.remainder_pauseAt w mode.watches k
  rw [part] at alone
  exact alone

theorem chapters_run_get {k : Nat} (made : k < (x.run mode w n).calls) :
    (x.run mode w n).chapters[k]? = some (x.rules.chapter w mode.watches k) := by
  rw [chapters_run, List.getElem?_map, List.getElem?_range made]
  rfl

end Executor
end Retry
