import Retry.Execution.Run

/-! The courses that a round can take. It ends the execution with an accepted value, with
an error that is not retried, with a refusal of the policy or with a wait that is cut; in
the one course left it ends in a pause. `Rules.course` lists them with all that is done
on the way, so that no later proof opens the definition of a round. -/
namespace Retry

variable {T E : Type}

/-- The end of a wait that nothing cuts. -/
def Timer.rest (t : Timer) (now delay : Duration) : Duration :=
  if delay = .zero then now else t.wake now delay

/-- A wait from `now` finds the token cancelled: when it begins, or no later than at the end of
its sleep. -/
def Timer.FindsCancelled (t : Timer) (token : Token) (now delay : Duration) : Prop :=
  token.cancelledBy now = true ∨ token.cancelledBy (t.rest now delay) = true

instance (t : Timer) (token : Token) (now delay : Duration) :
    Decidable (t.FindsCancelled token now delay) :=
  inferInstanceAs (Decidable (_ ∨ _))

/-- A wait is cut exactly if it is watched and finds its token cancelled. -/
theorem Timer.wait_cases (t : Timer) (watched : Bool) (token : Token) (now delay : Duration) :
    (watched = true ∧ t.FindsCancelled token now delay ∧
      ∃ moment, t.wait watched token now delay = .cut moment) ∨
    (¬ (watched = true ∧ t.FindsCancelled token now delay) ∧
      t.wait watched token now delay = .over (t.rest now delay)) := by
  obtain ⟨cancelled⟩ := token
  cases watched with
  | false => exact Or.inr ⟨by simp, rfl⟩
  | true =>
    cases cancelled with
    | none => exact Or.inr ⟨by simp [FindsCancelled, Token.cancelledBy], rfl⟩
    | some moment =>
      have waits : t.wait true ⟨some moment⟩ now delay =
          if moment ≤ now then .cut now
          else if moment ≤ t.rest now delay then .cut moment else .over (t.rest now delay) := rfl
      have finds : t.FindsCancelled ⟨some moment⟩ now delay ↔
          moment ≤ now ∨ moment ≤ t.rest now delay := by
        simp [FindsCancelled, Token.cancelledBy]
      by_cases before : moment ≤ now
      · exact Or.inl ⟨rfl, finds.mpr (Or.inl before), now, by rw [waits, if_pos before]⟩
      · by_cases during : moment ≤ t.rest now delay
        · exact Or.inl ⟨rfl, finds.mpr (Or.inr during), moment,
            by rw [waits, if_neg before, if_pos during]⟩
        · refine Or.inr ⟨?_, by rw [waits, if_neg before, if_neg during]⟩
          rw [finds]
          simp [before, during]

theorem Timer.findsCancelled_of_wait {t : Timer} {watched : Bool} {token : Token}
    {now delay moment : Duration} (cuts : t.wait watched token now delay = .cut moment) :
    watched = true ∧ t.FindsCancelled token now delay := by
  rcases t.wait_cases watched token now delay with ⟨watches, finds, _⟩ | ⟨_, ends⟩
  · exact ⟨watches, finds⟩
  · rw [ends] at cuts
    contradiction

/-- A wait that is not cut ends where it would end without a token. -/
theorem Timer.eq_rest_of_wait {t : Timer} {watched : Bool} {token : Token}
    {now delay wake : Duration} (rests : t.wait watched token now delay = .over wake) :
    wake = t.rest now delay ∧ ¬ (watched = true ∧ t.FindsCancelled token now delay) := by
  rcases t.wait_cases watched token now delay with ⟨_, _, moment, cut⟩ | ⟨unfound, ends⟩
  · rw [cut] at rests
    contradiction
  · rw [ends] at rests
    exact ⟨(WaitEnd.over.inj rests).symm, unfound⟩

namespace Scenario

/-- The moment at which the call of a round comes back. -/
def returned (w : Scenario T E) (p : Pause) : Duration := p.now + (w.call p.rounds).takes

/-- The token when the call of a round has come back. -/
def tokenAfter (w : Scenario T E) (p : Pause) : Token :=
  if (w.call p.rounds).cancels then p.token.cancel (w.returned p) else p.token

end Scenario

namespace Rules

/-- The context in which a round that did not end well is decided. -/
def failed (r : Rules T E) (w : Scenario T E) (p : Pause) : Context :=
  p.context.record (w.returned p) (r.failure (w.call p.rounds).outcome)

def opening (r : Rules T E) (w : Scenario T E) (k : Nat) : List (Action T E) :=
  [.invoke, .judge (w.call k).outcome (r.judge (w.call k).outcome)]

/-- The delay that the policy asks for after a round. -/
def pace (r : Rules T E) (w : Scenario T E) (p : Pause) : Duration :=
  r.policy.delay (r.failed w p) (w.draw p.rounds)

/-- The event of a round that is to be followed by another. -/
def announced (r : Rules T E) (w : Scenario T E) (p : Pause) : Event :=
  .ofContext (r.failed w p) (asksAgain (w.call p.rounds).outcome) (some (r.pace w p))

/-- What a permitted round does up to its wait. -/
def permitted (r : Rules T E) (w : Scenario T E) (p : Pause) : List (Action T E) :=
  r.opening w p.rounds ++ [.consult (r.failed w p) true, .space (r.failed w p) (r.pace w p)] ++
    Action.report (r.announced w p) ++ [.sleep (r.pace w p)]

inductive Course (r : Rules T E) (w : Scenario T E) (watched : Bool) (p : Pause) : Prop where
  | accepted (value : T) (outcome : (w.call p.rounds).outcome = .success value)
      (kept : (r.judge (w.call p.rounds).outcome).retry = false)
      (round : r.round w watched p =
        ⟨r.opening w p.rounds ++
            Action.report (.ofContext { p.context with now := w.returned p } .accepted none),
          .ended ⟨.ok value, w.returned p, w.tokenAfter p⟩⟩)
  | declined (error : E) (outcome : (w.call p.rounds).outcome = .failure error)
      (kept : (r.judge (w.call p.rounds).outcome).retry = false)
      (round : r.round w watched p =
        ⟨r.opening w p.rounds ++ Action.report (.ofContext (r.failed w p) .nonRetriableError none),
          .ended ⟨.error (.operation error), w.returned p, w.tokenAfter p⟩⟩)
  | refused (asks : (r.judge (w.call p.rounds).outcome).retry = true)
      (refuses : r.policy.permits (r.failed w p) = false)
      (round : r.round w watched p =
        ⟨r.opening w p.rounds ++ .consult (r.failed w p) false ::
            Action.report (.ofContext (r.failed w p) (asksAgain (w.call p.rounds).outcome) none),
          .ended ⟨.error (refusal p.context.attempt (w.call p.rounds).outcome), w.returned p,
            w.tokenAfter p⟩⟩)
  | cut (moment : Duration) (asks : (r.judge (w.call p.rounds).outcome).retry = true)
      (permits : r.policy.permits (r.failed w p) = true)
      (cuts : w.timer.wait watched (w.tokenAfter p) (w.returned p) (r.pace w p) = .cut moment)
      (round : r.round w watched p =
        ⟨r.permitted w p ++ [.write (.cancelled p.context.attempt)],
          .ended ⟨.error (.cancelled p.context.attempt), moment, w.tokenAfter p⟩⟩)
  | retried (asks : (r.judge (w.call p.rounds).outcome).retry = true)
      (permits : r.policy.permits (r.failed w p) = true)
      (rests : w.timer.wait watched (w.tokenAfter p) (w.returned p) (r.pace w p) =
        .over (w.timer.rest (w.returned p) (r.pace w p)))
      (round : r.round w watched p =
        ⟨r.permitted w p,
          .paused ⟨p.rounds + 1,
            (r.failed w p).advance (w.timer.rest (w.returned p) (r.pace w p)), w.tokenAfter p⟩⟩)

theorem course (r : Rules T E) (w : Scenario T E) (watched : Bool) (p : Pause) :
    Course r w watched p := by
  cases asks : (r.judge (w.call p.rounds).outcome).retry with
  | false =>
    cases outcome : (w.call p.rounds).outcome with
    | success value =>
      refine .accepted value outcome asks ?_
      rw [outcome] at asks
      simp [round, opening, Scenario.returned, Scenario.tokenAfter, outcome, asks]
    | failure error =>
      refine .declined error outcome asks ?_
      rw [outcome] at asks
      simp [round, opening, failed, Scenario.returned, Scenario.tokenAfter, outcome, asks]
  | true =>
    have opened : r.round w watched p =
        ⟨r.opening w p.rounds ++ (r.consult w watched p.rounds (w.call p.rounds).outcome
            (r.failed w p) (w.tokenAfter p)).actions,
          (r.consult w watched p.rounds (w.call p.rounds).outcome
            (r.failed w p) (w.tokenAfter p)).stage⟩ := by
      simp [round, opening, failed, Scenario.returned, Scenario.tokenAfter, asks]
    cases permits : r.policy.permits (r.failed w p) with
    | false =>
      refine .refused asks permits ?_
      rw [opened]
      simp only [consult, permits]
      rfl
    | true =>
      rcases ends : w.timer.wait watched (w.tokenAfter p) (w.returned p) (r.pace w p) with
        wake | moment
      · obtain ⟨rfl, _⟩ := Timer.eq_rest_of_wait ends
        refine .retried asks permits ends ?_
        have waits : w.timer.wait watched (w.tokenAfter p) (r.failed w p).now
            (r.policy.delay (r.failed w p) (w.draw p.rounds)) =
              .over (w.timer.rest (w.returned p) (r.pace w p)) := ends
        rw [opened]
        simp only [consult, permits, if_true, waits]
        rfl
      · refine .cut moment asks permits ends ?_
        have waits : w.timer.wait watched (w.tokenAfter p) (r.failed w p).now
            (r.policy.delay (r.failed w p) (w.draw p.rounds)) = .cut moment := ends
        rw [opened]
        simp only [consult, permits, if_true, waits]
        rfl

/-- The pause to which a retried round leads. -/
def resumption (r : Rules T E) (w : Scenario T E) (p : Pause) : Pause :=
  ⟨p.rounds + 1, (r.failed w p).advance (w.timer.rest (w.returned p) (r.pace w p)), w.tokenAfter p⟩

/-- No other course than being retried ends in a pause. -/
theorem eq_resumption_of_paused {r : Rules T E} {w : Scenario T E} {watched : Bool} {p q : Pause}
    (round : (r.round w watched p).stage = .paused q) : q = r.resumption w p := by
  cases r.course w watched p with
  | accepted _ _ _ same | declined _ _ _ same | refused _ _ same | cut _ _ _ _ same =>
    rw [same] at round
    contradiction
  | retried _ _ _ same =>
    rw [same] at round
    exact (Stage.paused.inj round).symm

end Rules
end Retry
