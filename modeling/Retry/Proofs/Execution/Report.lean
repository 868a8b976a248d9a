import Retry.Proofs.Execution.Cancellation
import Retry.Proofs.Execution.Chapter

/-! What the observer is told. A round tells one event, between its call and its wait or the end
of the execution, and the event describes that round and no other: a lost, repeated or mislabelled
event would change no result, so none of this follows from what an execution returns. The delay is
taken from the policy once; the one that is announced is the one that is waited for. -/
namespace Retry

variable {T E : Type}

namespace Rules

/-- `e` is the one event that the actions after call `k` tell, and it describes that round. -/
structure Reports (r : Rules T E) (w : Scenario T E) (k : Nat) (actions : List (Action T E))
    (e : Event) : Prop where
  once : actions.filterMap Action.event? = [e]
  before_wait : ∃ lead trail, actions = lead ++ .tell e :: trail ∧ ∀ d, .sleep d ∉ lead
  attempt : e.attempt = .ofCount (k + 1)
  outcome : e.outcome = (w.call k).outcome.grade (r.judge (w.call k).outcome).retry
  failure : e.failure =
    if e.outcome = .accepted then none else some (r.failure (w.call k).outcome)
  delay_isSome : e.delay.isSome = true ↔
    (r.judge (w.call k).outcome).retry = true ∧ ∃ c, .consult c true ∈ actions
  spaced : actions.filterMap Action.spaced? = e.delay.toList
  slept : actions.filterMap Action.slept? = e.delay.toList

variable (r : Rules T E) (w : Scenario T E) (watched : Bool) (k : Nat)

theorem filterMap_event?_chapter :
    (r.chapter w watched k).filterMap Action.event? = [r.event w k] := by
  rw [filterMap_chapter r w watched k (fun a question => by cases a <;> trivial),
    filterMap_departure_eq_nil r w watched k (fun _ => rfl) fun _ => rfl]
  rfl

theorem filterMap_slept?_chapter :
    (r.chapter w watched k).filterMap Action.slept? = (r.delay? w k).toList := by
  have last : (r.farewell w watched k).filterMap Action.slept? = [] := by
    unfold farewell
    split <;> rfl
  have waits : ((r.delay? w k).toList.map Action.sleep).filterMap
      (Action.slept? : Action T E → _) = (r.delay? w k).toList := by
    cases r.delay? w k <;> rfl
  rw [filterMap_chapter r w watched k (fun a question => by cases a <;> trivial), departure,
    List.filterMap_append, last, waits]
  exact List.append_nil _

/-- The policy gives its delay once, and only where another attempt follows. -/
theorem filterMap_spaced?_chapter :
    (r.chapter w watched k).filterMap Action.spaced? = (r.delay? w k).toList := by
  have asked : (r.questions w k).filterMap Action.spaced? = (r.delay? w k).toList := by
    cases asks : (r.judge (w.call k).outcome).retry with
    | false =>
      rw [questions_of_kept asks, delay?_of_stops (Or.inl asks)]
      rfl
    | true =>
      cases permits : r.policy.permits (r.decision w k) with
      | false =>
        rw [questions_of_refused asks permits, delay?_of_stops (Or.inr permits)]
        rfl
      | true =>
        have going : ¬ r.Stops w k := not_stops_iff.mpr ⟨asks, permits⟩
        rw [questions_of_not_stops going, delay?_of_not_stops going]
        rfl
  rw [chapter, List.filterMap_append, List.filterMap_append, asked,
    filterMap_departure_eq_nil r w watched k (fun _ => rfl) fun _ => rfl]
  simp [Action.report, Action.spaced?]

/-- The policy permits another attempt exactly in the rounds that do not stop the execution. -/
theorem consult_true_mem_chapter_iff :
    (∃ c, .consult c true ∈ r.chapter w watched k) ↔ ¬ r.Stops w k := by
  have asked (c : Context) :
      .consult c true ∈ r.chapter w watched k ↔ .consult c true ∈ r.questions w k := by
    rw [← r.filter_isQuestion_chapter w watched k, List.mem_filter]
    simp [Action.isQuestion]
  simp only [asked]
  constructor
  · rintro ⟨c, member⟩ stops
    cases asks : (r.judge (w.call k).outcome).retry with
    | false => simp [questions_of_kept asks] at member
    | true =>
      have refuses : r.policy.permits (r.decision w k) = false := by simpa [Stops, asks] using stops
      simp [questions_of_refused asks refuses] at member
  · intro going
    exact ⟨r.decision w k, by simp [questions_of_not_stops going]⟩

theorem delay?_isSome_iff : (r.delay? w k).isSome = true ↔ ¬ r.Stops w k := by
  by_cases stops : r.Stops w k
  · simp [delay?_of_stops stops, stops]
  · simp [delay?_of_not_stops stops, stops]

theorem reports_chapter : r.Reports w k (r.chapter w watched k) (r.event w k) where
  once := r.filterMap_event?_chapter w watched k
  before_wait := by
    refine ⟨r.questions w k ++ [.write (.ofEvent (r.event w k))], r.departure w watched k, ?_, ?_⟩
    · simp [chapter, Action.report]
    · intro d member
      simp only [List.mem_append, List.mem_singleton] at member
      rcases member with asked | written
      · exact absurd (r.isQuestion_of_mem_questions w k _ asked) (by simp [Action.isQuestion])
      · contradiction
  attempt := r.attempt_decision w k
  outcome := rfl
  failure := by
    rw [← r.lastFailure_decision w k]
    rfl
  delay_isSome := by
    rw [consult_true_mem_chapter_iff]
    refine (r.delay?_isSome_iff w k).trans ⟨fun going => ?_, And.right⟩
    exact ⟨(not_stops_iff.mp going).1, going⟩
  spaced := r.filterMap_spaced?_chapter w watched k
  slept := r.filterMap_slept?_chapter w watched k

end Rules

namespace Executor

variable [TextCarrier T] [Chained E] (x : Executor T E) (mode : Mode) (w : Scenario T E) (n : Nat)

theorem events_run :
    (x.run mode w n).events = (List.range (x.run mode w n).calls).map (x.rules.event w) := by
  have told (k : Nat) :
      (Action.invoke :: x.rules.chapter w mode.watches k).filterMap Action.event? =
        [x.rules.event w k] := x.rules.filterMap_event?_chapter w mode.watches k
  rw [Progress.events, log_run, List.filterMap_cons_none rfl, List.filterMap_flatMap,
    List.map_eq_flatMap]
  simp only [told]

/-- A run has told one event for each call, and told it in the chapter of that call. If another
call follows, it begins when the announced delay has been waited for. -/
theorem told_once_per_call :
    (x.run mode w n).events.length = (x.run mode w n).calls ∧
    ∀ k < (x.run mode w n).calls, ∃ actions e,
      (x.run mode w n).chapters[k]? = some actions ∧ (x.run mode w n).events[k]? = some e ∧
      x.rules.Reports w k actions e ∧
      ∀ d p, e.delay = some d → (x.run mode w (k + 1)).stage = .paused p →
        p.now = w.timer.rest e.elapsed d := by
  constructor
  · rw [events_run, List.length_map, List.length_range]
  · intro k made
    refine ⟨_, x.rules.event w k, x.chapters_run_get mode w n made, ?_,
      x.rules.reports_chapter w mode.watches k, ?_⟩
    · rw [events_run, List.getElem?_map, List.getElem?_range made]
      rfl
    · intro d p delayed paused
      have going := (paused_iff_retries.mp ⟨p, paused⟩ k (Nat.lt_succ_self k)).1
      have waited : some (x.rules.gap w k) = some d :=
        (Rules.delay?_of_not_stops going).symm.trans delayed
      obtain ⟨q, before, rfl⟩ := exists_resumption_of_paused paused
      obtain ⟨count, due, _⟩ := of_paused before
      rw [due.now_resumption, count, Option.some.inj waited, ← x.rules.elapsed_decision]
      rfl

end Executor

/-- What is decided after the first call of `interrupted`, whose wait is not cut. -/
def interruptedEvent : Event :=
  ⟨1, .retriableError, some (.ofMillis 5), .zero, some (.error "no answer")⟩

theorem interrupted_told_before_each_wait :
    (patient.run .cancellable interrupted 2).events.length = 2 ∧
      0 < (patient.run .cancellable interrupted 2).calls ∧
      (patient.run .cancellable interrupted 1).stage = .paused interruptedPause ∧
      ∃ actions, (patient.run .cancellable interrupted 2).chapters[0]? = some actions ∧
        (patient.run .cancellable interrupted 2).events[0]? = some interruptedEvent ∧
        patient.rules.Reports interrupted 0 actions interruptedEvent ∧
        interruptedPause.now = interrupted.timer.rest .zero (.ofMillis 5) := by
  have made : 0 < (patient.run .cancellable interrupted 2).calls := by decide
  have paused : (patient.run .cancellable interrupted 1).stage = .paused interruptedPause := rfl
  obtain ⟨count, told⟩ := patient.told_once_per_call .cancellable interrupted 2
  obtain ⟨actions, e, chapter, event, reports, waits⟩ := told 0 made
  obtain rfl : interruptedEvent = e := Option.some.inj event
  exact ⟨count, made, paused, actions, chapter, event, reports, waits _ _ rfl paused⟩

end Retry
