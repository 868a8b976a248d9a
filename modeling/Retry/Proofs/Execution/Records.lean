import Mathlib.Data.List.Basic
import Retry.Proofs.Execution.Report
import Retry.Proofs.Record.Reading

/-! What the records of a run tell. They are the record that opens it, one record for each event,
and a last one if a wait was cut. They can be read back: the attempts of the run, and whether it
has returned and how. -/
namespace Retry

variable {T E : Type}

theorem Outcome.eq_false_of_grade {o : Outcome T E} {again : Bool}
    (accepted : o.grade again = .accepted) : again = false := by
  cases o <;> cases again <;> simp_all [grade]

namespace Rules

variable (r : Rules T E) (w : Scenario T E) (watched : Bool) (k : Nat)

theorem event_coherent : (r.event w k).Coherent := by
  intro accepted
  have kept : (r.judge (w.call k).outcome).retry = false := Outcome.eq_false_of_grade accepted
  exact ⟨delay?_of_stops (Or.inl kept), if_pos accepted⟩

theorem filterMap_record?_chapter :
    (r.chapter w watched k).filterMap Action.record? =
      .ofEvent (r.event w k) :: (r.farewell w watched k).filterMap Action.record? := by
  have unwritten : ((r.delay? w k).toList.map Action.sleep).filterMap
      (Action.record? : Action T E → _) = [] := by
    cases r.delay? w k <;> rfl
  rw [filterMap_chapter r w watched k (fun a question => by cases a <;> trivial), departure,
    List.filterMap_append, unwritten]
  rfl

/-- The kind of the result of a round that stops the execution shows in its event. -/
theorem resultKind?_brief_event (stops : r.Stops w k) :
    (r.event w k).brief.resultKind? =
      some (.of (r.resultOf k (w.call k).outcome)) := by
  have last : (r.event w k).brief.retrying = false := by
    change (r.delay? w k).isSome = false
    rw [delay?_of_stops stops]
    rfl
  have named : (r.event w k).brief.outcome =
      (w.call k).outcome.grade (r.judge (w.call k).outcome).retry := rfl
  rw [Brief.resultKind?, last, named]
  cases outcome : (w.call k).outcome with
  | success value =>
    cases again : (r.judge (.success value)).retry <;>
      simp [Outcome.grade, resultOf, again, ResultKind.of]
  | failure error =>
    cases again : (r.judge (.failure error)).retry <;>
      simp [Outcome.grade, resultOf, ResultKind.of]

/-- A round that is to be followed by another tells no result. -/
theorem resultKind?_brief_event_of_not_stops (going : ¬ r.Stops w k) :
    (r.event w k).brief.resultKind? = none := by
  have again : (r.event w k).brief.retrying = true := by
    change (r.delay? w k).isSome = true
    rw [delay?_of_not_stops going]
    rfl
  rw [Brief.resultKind?, again]
  rfl

theorem resultKind_resultOf_ne (outcome : Outcome T E) :
    ResultKind.of (r.resultOf k outcome) ≠ .cancellation := by
  cases outcome with
  | success value =>
    rw [resultOf]
    split <;> simp [ResultKind.of]
  | failure error => simp [resultOf, ResultKind.of]

end Rules

/-- The record with which a cancelled execution ends. -/
def Record.closing (calls : Nat) (result? : Option (Except (RunError E) T)) : List Record :=
  if result?.map ResultKind.of = some .cancellation then [.cancelled (.ofCount calls)] else []

theorem Record.closing_none (calls : Nat) :
    Record.closing calls (none : Option (Except (RunError E) T)) = [] :=
  rfl

theorem Record.closing_resultOf (r : Rules T E) (k calls : Nat) (outcome : Outcome T E) :
    Record.closing calls (some (r.resultOf k outcome)) = [] :=
  if_neg fun cancelled => r.resultKind_resultOf_ne k outcome (Option.some.inj cancelled)

theorem Record.closing_cancelled (calls : Nat) (attempts : Attempt) :
    Record.closing calls (some (.error (.cancelled attempts)) : Option (Except (RunError E) T)) =
      [.cancelled (.ofCount calls)] :=
  rfl

namespace Executor

variable [TextCarrier T] [Chained E] {x : Executor T E} {mode : Mode} {w : Scenario T E} {n : Nat}

/-- The last words of a round are the closing record of a run that it cancels. -/
theorem filterMap_record?_farewell {p : Pause} (paused : (x.run mode w n).stage = .paused p) :
    (x.rules.farewell w mode.watches n).filterMap Action.record? =
      Record.closing (n + 1) (x.result? mode w (n + 1)) := by
  rw [result?_succ_of_paused paused, Rules.farewell, x.rules.attempt_decision w n]
  split
  · next cut =>
    rw [if_neg cut.1, if_pos cut.2, Record.closing_cancelled]
    rfl
  · next uncut =>
    split
    · exact (Record.closing_resultOf ..).symm
    · next going =>
      rw [if_neg fun cut => uncut ⟨going, cut⟩, Record.closing_none]
      rfl

theorem records_run_succ {p : Pause} (paused : (x.run mode w n).stage = .paused p) :
    (x.run mode w (n + 1)).records = (x.run mode w n).records ++
      .ofEvent (x.rules.event w n) :: Record.closing (n + 1) (x.result? mode w (n + 1)) := by
  obtain ⟨count, due, _⟩ := of_paused paused
  rw [Progress.records, log_run_succ paused, due.actions_round, count, List.filterMap_append,
    List.filterMap_cons_none rfl, Rules.filterMap_record?_chapter,
    filterMap_record?_farewell paused]
  rfl

theorem events_run_succ {p : Pause} (paused : (x.run mode w n).stage = .paused p) :
    (x.run mode w (n + 1)).events = (x.run mode w n).events ++ [x.rules.event w n] := by
  rw [events_run, events_run, calls_run_succ paused, List.range_succ, List.map_append,
    (of_paused paused).2.2]
  rfl

/-- The records of a run are its opening, one for each event, and its closing. -/
theorem records_run :
    (x.run mode w n).records = .started x.strategy ::
      ((x.run mode w n).events.map .ofEvent ++
        Record.closing (x.run mode w n).calls (x.result? mode w n)) := by
  induction n with
  | zero => rfl
  | succ n ih =>
    cases stage : (x.run mode w n).stage with
    | ended e =>
      rw [result?, run_of_ended stage (Nat.le_succ n)]
      exact ih
    | paused p =>
      obtain ⟨unreturned, calls⟩ := result?_of_paused stage
      rw [unreturned, Record.closing_none, List.append_nil] at ih
      rw [records_run_succ stage, ih, events_run_succ stage, calls_run_succ stage, calls,
        List.map_append, List.cons_append, List.append_assoc]
      rfl

/-- The last record of a run tells whether the run has returned, and how. -/
theorem resultKind?_records_run :
    Record.resultKind? (x.run mode w n).records = (x.result? mode w n).map ResultKind.of := by
  induction n with
  | zero => rfl
  | succ n ih =>
    cases stage : (x.run mode w n).stage with
    | ended e =>
      rw [result?, run_of_ended stage (Nat.le_succ n)]
      exact ih
    | paused p =>
      have coherent := x.rules.event_coherent w n
      rw [records_run_succ stage, result?_succ_of_paused stage]
      split
      · next stops =>
        rw [Record.closing_resultOf, Record.resultKind?_append_ofEvent coherent,
          x.rules.resultKind?_brief_event w n stops]
        rfl
      · next going =>
        split
        · rw [Record.closing_cancelled, List.append_cons, Record.resultKind?_append_cancelled]
          rfl
        · rw [Record.closing_none, Record.resultKind?_append_ofEvent coherent,
            x.rules.resultKind?_brief_event_of_not_stops w n going]
          rfl

theorem coherent_of_mem_events {e : Event} (told : e ∈ (x.run mode w n).events) : e.Coherent := by
  rw [events_run] at told
  obtain ⟨k, _, rfl⟩ := List.mem_map.mp told
  exact x.rules.event_coherent w k

/-- The attempts of a run are read off its records. -/
theorem filterMap_brief?_records_run :
    (x.run mode w n).records.filterMap Record.brief? = (x.run mode w n).events.map Event.brief := by
  have last : (Record.closing (x.run mode w n).calls (x.result? mode w n)).filterMap
      Record.brief? = [] := by
    unfold Record.closing
    split <;> rfl
  have each : ((x.run mode w n).events.map Record.ofEvent).filterMap Record.brief? =
      (x.run mode w n).events.map Event.brief := by
    rw [List.filterMap_map, ← List.filterMap_eq_map]
    apply List.filterMap_congr
    intro e told
    exact Record.brief?_ofEvent (coherent_of_mem_events told)
  rw [records_run, List.filterMap_cons_none rfl, List.filterMap_append, each, last, List.append_nil]

/-- The last event of a run has the number of its calls. -/
theorem attempt_of_getLast?_events {e : Event} (last : (x.run mode w n).events.getLast? = some e) :
    e.attempt = .ofCount (x.run mode w n).calls := by
  rw [events_run] at last
  cases calls : (x.run mode w n).calls with
  | zero =>
    rw [calls] at last
    contradiction
  | succ k =>
    rw [calls, List.range_succ, List.map_append, List.map_singleton, List.getLast?_concat] at last
    rw [← Option.some.inj last]
    exact x.rules.attempt_decision w k

/-- The records of a run are the opening of its span, which names the strategy, one record for each
event, which says of the event what it has to say, and a last one with the number of the last
attempt if the run was cancelled. The attempts and the kind of the result can be read back from
them. -/
theorem records_tell_run (x : Executor T E) (mode : Mode) (w : Scenario T E) (n : Nat) :
    (x.run mode w n).records = .started x.strategy ::
      ((x.run mode w n).events.map .ofEvent ++
        if (x.result? mode w n).map ResultKind.of = some .cancellation then
          [.cancelled (.ofCount (x.run mode w n).calls)] else []) ∧
    (Record.started x.strategy).Opens x.strategy ∧
    (∀ e ∈ (x.run mode w n).events, (Record.ofEvent e).Describes e) ∧
    (Record.cancelled (.ofCount (x.run mode w n).calls)).Closes (.ofCount (x.run mode w n).calls) ∧
    (∀ e, (x.run mode w n).events.getLast? = some e →
      e.attempt = .ofCount (x.run mode w n).calls) ∧
    (x.run mode w n).records.filterMap Record.brief? = (x.run mode w n).events.map Event.brief ∧
    Record.resultKind? (x.run mode w n).records = (x.result? mode w n).map ResultKind.of :=
  ⟨records_run, Record.opens_started x.strategy,
    fun _ told => Record.describes_ofEvent (coherent_of_mem_events told),
    Record.closes_cancelled _, fun _ => attempt_of_getLast?_events,
    filterMap_brief?_records_run, resultKind?_records_run⟩

end Executor

/-- What is decided after the second call of `interrupted`, whose wait is cut. -/
def interruptedLastEvent : Event :=
  ⟨2, .retriableError, some (.ofMillis 5), .ofMillis 5, some (.error "no answer")⟩

theorem interrupted_records :
    (patient.run .cancellable interrupted 2).records =
      [.started patient.strategy, .ofEvent interruptedEvent, .ofEvent interruptedLastEvent,
        .cancelled 2] ∧
    (Record.started patient.strategy).Opens patient.strategy ∧
    interruptedLastEvent ∈ (patient.run .cancellable interrupted 2).events ∧
    (Record.ofEvent interruptedLastEvent).Describes interruptedLastEvent ∧
    (Record.cancelled 2).Closes 2 ∧
    (patient.run .cancellable interrupted 2).events.getLast? = some interruptedLastEvent ∧
    interruptedLastEvent.attempt = 2 ∧
    (patient.run .cancellable interrupted 2).records.filterMap Record.brief? =
      [⟨1, .retriableError, true, some "no answer"⟩, ⟨2, .retriableError, true, some "no answer"⟩] ∧
    Record.resultKind? (patient.run .cancellable interrupted 2).records = some .cancellation := by
  have told : interruptedLastEvent ∈ (patient.run .cancellable interrupted 2).events :=
    List.mem_of_getElem? (i := 1) rfl
  have last : (patient.run .cancellable interrupted 2).events.getLast? =
      some interruptedLastEvent := rfl
  obtain ⟨records, opens, describes, closes, attempt, briefs, kind⟩ :=
    patient.records_tell_run .cancellable interrupted 2
  exact ⟨records, opens, told, describes _ told, closes, last, attempt _ last, briefs, kind⟩

end Retry
