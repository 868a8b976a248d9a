import Retry.Proofs.Execution.Run

/-! How an execution ends. It goes on exactly as long as its rounds are retried: a round stops
it when its outcome is not asked to be retried or the policy refuses, and a watched token cuts
the wait that finds it cancelled (`Executor.paused_iff_retries`). The first round that is not
retried is the last, and it alone decides the result; an execution that nobody cancels is stopped
by its rounds only. Rounds are numbered from zero and counted without end; the attempt numbers
that the policy sees and a result carries stop at 2^32 - 1. -/
namespace Retry

variable {T E : Type}

/-- The token is not cancelled, neither from outside nor by a call. -/
def Scenario.Quiet (w : Scenario T E) : Prop := w.token = .never ∧ ∀ k, (w.call k).cancels = false

namespace Rules

/-- Round `k` is not retried, though all rounds before it were. -/
def Stops (r : Rules T E) (w : Scenario T E) (k : Nat) : Prop :=
  (r.judge (w.call k).outcome).retry = false ∨ r.policy.permits (r.decision w k) = false

instance (r : Rules T E) (w : Scenario T E) (k : Nat) : Decidable (r.Stops w k) :=
  inferInstanceAs (Decidable (_ ∨ _))

/-- The result of an execution by the outcome of its last round `k`. -/
def resultOf (r : Rules T E) (k : Nat) : Outcome T E → Except (RunError E) T
  | .success value =>
    if (r.judge (.success value)).retry then .error (.resultRejected (.ofCount (k + 1))) else .ok value
  | .failure error => .error (.operation error)

/-- A round that asks for another attempt gives the result of a refusal if it is the last. -/
theorem resultOf_of_asks {r : Rules T E} {outcome : Outcome T E}
    (asks : (r.judge outcome).retry = true) (k : Nat) :
    r.resultOf k outcome = .error (refusal (.ofCount (k + 1)) outcome) := by
  cases outcome with
  | success value => simp [resultOf, refusal, asks]
  | failure error => rfl

theorem not_stops_iff {r : Rules T E} {w : Scenario T E} {k : Nat} :
    ¬ r.Stops w k ↔
      (r.judge (w.call k).outcome).retry = true ∧ r.policy.permits (r.decision w k) = true := by
  simp [Stops]

/-- Round `k` is followed by another one. -/
def Retries (r : Rules T E) (w : Scenario T E) (watched : Bool) (k : Nat) : Prop :=
  ¬ r.Stops w k ∧ ¬ (watched = true ∧ r.Interrupted w k)

namespace Due

variable {r : Rules T E} {w : Scenario T E} {p : Pause}

theorem findsCancelled_iff (due : r.Due w p) :
    w.timer.FindsCancelled (w.tokenAfter p) (w.returned p) (r.pace w p) ↔
      r.Interrupted w p.rounds := by
  rw [due.token, due.returned, due.pace, Interrupted]

/-- A round that stops the execution gives its result, whether or not a token is cancelled. -/
theorem ended_of_stops (due : r.Due w p) (watched : Bool) (stops : r.Stops w p.rounds) :
    ∃ e, (r.round w watched p).stage = .ended e ∧
      e.result = r.resultOf p.rounds (w.call p.rounds).outcome := by
  cases r.course w watched p with
  | accepted value outcome kept same =>
    refine ⟨_, by rw [same], ?_⟩
    rw [outcome] at kept ⊢
    simp [resultOf, kept]
  | declined error outcome kept same =>
    refine ⟨_, by rw [same], ?_⟩
    rw [outcome]
    rfl
  | refused asks refuses same =>
    refine ⟨_, by rw [same], ?_⟩
    rw [due.attempt]
    cases outcome : (w.call p.rounds).outcome with
    | success value =>
      rw [outcome] at asks
      simp [refusal, resultOf, asks]
    | failure error => rfl
  | cut _ asks permits | retried asks permits =>
    rw [due.failed] at permits
    exact absurd stops (not_stops_iff.mpr ⟨asks, permits⟩)

/-- It gives it when its call has come back. -/
theorem finish_of_stops (due : r.Due w p) {watched : Bool} (stops : r.Stops w p.rounds)
    {e : Ending T E} (ended : (r.round w watched p).stage = .ended e) :
    e.finish = (r.decision w p.rounds).now := by
  rw [← due.returned]
  cases r.course w watched p with
  | accepted _ _ _ same | declined _ _ _ same | refused _ _ same =>
    rw [same] at ended
    exact congrArg Ending.finish (Stage.ended.inj ended).symm
  | cut _ asks permits | retried asks permits =>
    rw [due.failed] at permits
    exact absurd stops (not_stops_iff.mpr ⟨asks, permits⟩)

/-- A round that does not stop the execution is cut if its wait is watched and finds the token
cancelled. -/
theorem ended_of_interrupted (due : r.Due w p) (going : ¬ r.Stops w p.rounds)
    (cut : r.Interrupted w p.rounds) :
    ∃ e, (r.round w true p).stage = .ended e ∧
      e.result = .error (.cancelled (.ofCount (p.rounds + 1))) := by
  rw [not_stops_iff, ← due.failed] at going
  cases r.course w true p with
  | accepted _ _ kept | declined _ _ kept => simp [kept] at going
  | refused _ refuses => simp [refuses] at going
  | cut _ _ _ _ same => exact ⟨_, by rw [same], by rw [due.attempt]⟩
  | retried _ _ rests =>
    have unfound := (Timer.eq_rest_of_wait rests).2
    rw [due.findsCancelled_iff] at unfound
    exact absurd ⟨rfl, cut⟩ unfound

theorem paused_iff_retries (due : r.Due w p) (watched : Bool) :
    (∃ q, (r.round w watched p).stage = .paused q) ↔ r.Retries w watched p.rounds := by
  constructor
  · rintro ⟨q, paused⟩
    have going : ¬ r.Stops w p.rounds := by
      intro stops
      obtain ⟨e, ended, _⟩ := due.ended_of_stops watched stops
      rw [paused] at ended
      contradiction
    refine ⟨going, ?_⟩
    rintro ⟨rfl, cut⟩
    obtain ⟨e, ended, _⟩ := due.ended_of_interrupted going cut
    rw [paused] at ended
    contradiction
  · rintro ⟨going, uncut⟩
    rw [not_stops_iff, ← due.failed] at going
    cases r.course w watched p with
    | accepted _ _ kept | declined _ _ kept => simp [kept] at going
    | refused _ refuses => simp [refuses] at going
    | cut _ _ _ cuts =>
      have found := Timer.findsCancelled_of_wait cuts
      rw [due.findsCancelled_iff] at found
      exact absurd found uncut
    | retried _ _ _ same => exact ⟨_, by rw [same]⟩

end Due

/-- Nothing cuts the waits of an execution that nobody cancels. -/
theorem not_interrupted_of_quiet (r : Rules T E) {w : Scenario T E} (quiet : w.Quiet) (k : Nat) :
    ¬ r.Interrupted w k := by
  have never : r.tokenAt w k = .never := by
    induction k with
    | zero => simp [tokenAt, quiet.1, quiet.2]
    | succ k ih => simp [tokenAt, quiet.2, ih]
  simp [Interrupted, Timer.FindsCancelled, never, Token.never, Token.cancelledBy]

theorem retries_iff_of_quiet {r : Rules T E} {w : Scenario T E} {watched : Bool}
    (quiet : watched = true → w.Quiet) (k : Nat) : r.Retries w watched k ↔ ¬ r.Stops w k :=
  ⟨And.left, fun going =>
    ⟨going, fun cut => r.not_interrupted_of_quiet (quiet cut.1) k cut.2⟩⟩

end Rules

namespace Executor

variable [TextCarrier T] [Chained E] {x : Executor T E} {mode : Mode} {w : Scenario T E} {n : Nat}

def result? (x : Executor T E) (mode : Mode) (w : Scenario T E) (limit : Nat) :
    Option (Except (RunError E) T) :=
  (x.run mode w limit).ending?.map Ending.result

/-- The execution calls the operation `n` times and then returns `result`. -/
structure EndsAfter (x : Executor T E) (mode : Mode) (w : Scenario T E) (n : Nat)
    (result : Except (RunError E) T) : Prop where
  open_before : ∀ limit < n, x.result? mode w limit = none ∧ (x.run mode w limit).calls = limit
  closed_after : ∀ limit ≥ n, x.result? mode w limit = some result ∧ (x.run mode w limit).calls = n

/-- The execution calls the operation again in every round and never returns. -/
def NeverEnds (x : Executor T E) (mode : Mode) (w : Scenario T E) : Prop :=
  ∀ limit, x.result? mode w limit = none ∧ (x.run mode w limit).calls = limit

theorem result?_of_paused {p : Pause} (paused : (x.run mode w n).stage = .paused p) :
    x.result? mode w n = none ∧ (x.run mode w n).calls = n := by
  refine ⟨?_, (of_paused paused).2.2⟩
  simp [result?, Progress.ending?, paused]

theorem result?_of_ended {e : Ending T E} (ended : (x.run mode w n).stage = .ended e) :
    x.result? mode w n = some e.result := by
  simp [result?, Progress.ending?, ended]

theorem ended_of_result? {result : Except (RunError E) T}
    (returned : x.result? mode w n = some result) :
    ∃ e, (x.run mode w n).stage = .ended e ∧ e.result = result := by
  cases stage : (x.run mode w n).stage with
  | paused p =>
    rw [(result?_of_paused stage).1] at returned
    contradiction
  | ended e =>
    rw [result?_of_ended stage] at returned
    exact ⟨e, rfl, Option.some.inj returned⟩

/-- An execution is under way after `n` rounds exactly if all of them are retried. -/
theorem paused_iff_retries :
    (∃ p, (x.run mode w n).stage = .paused p) ↔ ∀ k < n, x.rules.Retries w mode.watches k := by
  induction n with
  | zero => exact ⟨fun _ k below => absurd below (Nat.not_lt_zero k), fun _ => ⟨_, rfl⟩⟩
  | succ n ih =>
    have last : ∀ p, (x.run mode w n).stage = .paused p →
        ((∃ q, (x.run mode w (n + 1)).stage = .paused q) ↔ x.rules.Retries w mode.watches n) := by
      intro p paused
      obtain ⟨count, due, _⟩ := of_paused paused
      rw [run_succ_of_paused paused, ← count]
      exact due.paused_iff_retries mode.watches
    constructor
    · rintro ⟨q, paused⟩ k below
      obtain ⟨p, before⟩ := paused_of_paused paused (Nat.le_succ n)
      rcases Nat.lt_succ_iff_lt_or_eq.mp below with earlier | rfl
      · exact ih.mp ⟨p, before⟩ k earlier
      · exact (last p before).mp ⟨q, paused⟩
    · intro retries
      obtain ⟨p, before⟩ := ih.mpr fun k below => retries k (Nat.lt_succ_of_lt below)
      exact (last p before).mpr (retries n (Nat.lt_succ_self n))

/-- A round that ends the execution settles the number of calls and the result. -/
theorem endsAfter_of_ended {k : Nat} {p : Pause} {e : Ending T E}
    (paused : (x.run mode w k).stage = .paused p)
    (ended : (x.rules.round w mode.watches p).stage = .ended e) :
    x.EndsAfter mode w (k + 1) e.result := by
  have closed : (x.run mode w (k + 1)).stage = .ended e := by
    rw [run_succ_of_paused paused]
    exact ended
  constructor
  · intro limit below
    obtain ⟨q, early⟩ := paused_of_paused paused (Nat.le_of_lt_succ below)
    exact result?_of_paused early
  · intro limit above
    have same := run_of_ended closed above
    have calls := (calls_run_succ paused).trans (congrArg (· + 1) (result?_of_paused paused).2)
    rw [result?, same]
    exact ⟨result?_of_ended closed, calls⟩

/-- The round that stops an execution which has come to it gives its result. -/
theorem endsAfter_of_paused_of_stops {k : Nat} {p : Pause}
    (paused : (x.run mode w k).stage = .paused p) (stops : x.rules.Stops w k) :
    x.EndsAfter mode w (k + 1) (x.rules.resultOf k (w.call k).outcome) := by
  obtain ⟨count, due, _⟩ := of_paused paused
  subst count
  obtain ⟨e, ended, result⟩ := due.ended_of_stops mode.watches stops
  rw [← result]
  exact endsAfter_of_ended paused ended

/-- An execution that is stopped finishes when its last call has come back. -/
theorem exists_finish_of_stops (quiet : mode.watches = true → w.Quiet) {k : Nat}
    (stops : x.rules.Stops w k) (going : ∀ j < k, ¬ x.rules.Stops w j) :
    ∃ e, (x.run mode w (k + 1)).stage = .ended e ∧ e.finish = (x.rules.decision w k).now := by
  obtain ⟨p, paused⟩ := paused_iff_retries.mpr fun j below =>
    (Rules.retries_iff_of_quiet quiet j).mpr (going j below)
  obtain ⟨count, due, _⟩ := of_paused paused
  subst count
  obtain ⟨e, ended, _⟩ := due.ended_of_stops mode.watches stops
  refine ⟨e, ?_, due.finish_of_stops stops ended⟩
  rw [run_succ_of_paused paused]
  exact ended

theorem endsAfter_of_stops (quiet : mode.watches = true → w.Quiet) {k : Nat}
    (stops : x.rules.Stops w k) (going : ∀ j < k, ¬ x.rules.Stops w j) :
    x.EndsAfter mode w (k + 1) (x.rules.resultOf k (w.call k).outcome) := by
  obtain ⟨p, paused⟩ := paused_iff_retries.mpr fun j below =>
    (Rules.retries_iff_of_quiet quiet j).mpr (going j below)
  exact endsAfter_of_paused_of_stops paused stops

theorem neverEnds_of_not_stops (quiet : mode.watches = true → w.Quiet)
    (going : ∀ k, ¬ x.rules.Stops w k) : x.NeverEnds mode w := by
  intro limit
  obtain ⟨p, paused⟩ := paused_iff_retries.mpr fun k (_ : k < limit) =>
    (Rules.retries_iff_of_quiet quiet k).mpr (going k)
  exact result?_of_paused paused

/-- The first round that is not retried is the last, and it alone decides the result. -/
theorem endsAfter_first_stop (x : Executor T E) (mode : Mode) (w : Scenario T E)
    (quiet : mode.watches = true → w.Quiet) :
    (∀ k, x.rules.Stops w k → (∀ j < k, ¬ x.rules.Stops w j) →
      x.EndsAfter mode w (k + 1) (x.rules.resultOf k (w.call k).outcome)) ∧
    ((∀ k, ¬ x.rules.Stops w k) → x.NeverEnds mode w) :=
  ⟨fun _ stops going => endsAfter_of_stops quiet stops going, neverEnds_of_not_stops quiet⟩

end Executor

/-- A cause by itself is an error without causes. -/
instance : Chained Cause := ⟨id, fun _ => []⟩

/-- An operation that times out once and then answers. -/
def slowStart : Scenario String Cause where
  call k := ⟨if k = 0 then .failure ⟨"Timeout", "no answer"⟩ else .success "done", .zero, false⟩
  draw _ := 0
  timer := .exact
  token := .never

def patient : Executor String Cause :=
  ⟨.fixed ⟨3, .ofMillis 5⟩, .errorKinds (.of "Timeout"), .silent⟩

theorem slowStart_endsAfter_two :
    (Mode.cancellable.watches = true → slowStart.Quiet) ∧ patient.rules.Stops slowStart 1 ∧
      (∀ j < 1, ¬ patient.rules.Stops slowStart j) ∧
      patient.EndsAfter .cancellable slowStart 2 (.ok "done") := by
  have quiet : Mode.cancellable.watches = true → slowStart.Quiet := fun _ => ⟨rfl, fun _ => rfl⟩
  have stops : patient.rules.Stops slowStart 1 := Or.inl rfl
  have going : ∀ j < 1, ¬ patient.rules.Stops slowStart j := by
    intro j first
    obtain rfl := Nat.lt_one_iff.mp first
    decide
  exact ⟨quiet, stops, going, (patient.endsAfter_first_stop _ _ quiet).1 1 stops going⟩

/-- An operation that times out in every call. -/
def unanswered : Scenario String Cause where
  call _ := ⟨.failure ⟨"Timeout", "no answer"⟩, .zero, false⟩
  draw _ := 0
  timer := .exact
  token := .never

end Retry
