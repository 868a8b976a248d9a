import Retry.Proofs.Blueprint.Assembly
import Retry.Proofs.Fleet.Interleaving

/-! The longest wait of a backoff. A cap is the last step of the delay, so it holds whatever the
numbers before it have become: infinite, no number at all, or the longest of all spans. It is set
by a choice or by settings, it goes through shared references and into executors unchanged, and
what an executor announces and waits for are the delays of its strategy. A zero cap is none. -/
namespace Retry

variable {T E : Type}

namespace Backoff

/-- The cap that a choice sets, zero included. -/
def Choice.cap? : Choice → Option Duration
  | .maxDelay cap => some cap
  | _ => none

def uncapped (b : Backoff) : Backoff := { b with maxDelay := none }

variable {b : Backoff} {cap : Duration} {choices : List Choice}

theorem cut_le (cap d : Duration) : cut (some cap) d ≤ cap := by
  simp only [cut]
  split
  · exact Nat.le_refl cap.nanos
  · next short => exact Nat.le_of_not_lt short

theorem delay_le_cap (capped : b.maxDelay = some cap) (attempt : Attempt) (draw : Binary64) :
    b.delay attempt draw ≤ cap := by
  rw [delay, capped]
  exact cut_le cap _

/-- The last cap counts, and a zero one takes away those before it. -/
theorem maxDelay_foldl_choose (b : Backoff) (choices : List Choice) :
    (choices.foldl choose b).maxDelay =
      match choices.reverse.findSome? Choice.cap? with
      | some cap => if cap = .zero then none else some cap
      | none => b.maxDelay := by
  induction choices generalizing b with
  | nil => rfl
  | cons choice choices ih =>
    rw [List.foldl_cons, ih, List.reverse_cons, List.findSome?_append, List.findSome?_singleton]
    cases choices.reverse.findSome? Choice.cap? with
    | some cap => rfl
    | none => cases choice <;> rfl

theorem maxDelay_of_last_cap (last : choices.reverse.findSome? Choice.cap? = some cap)
    (positive : cap ≠ .zero) : (ofChoices choices).maxDelay = some cap := by
  rw [ofChoices, maxDelay_foldl_choose, last]
  exact if_neg positive

/-- Caps change nothing but the cap. -/
theorem uncapped_foldl_choose (b : Backoff) (choices : List Choice) :
    (choices.foldl choose b).uncapped =
      (choices.filter fun choice => choice.cap?.isNone).foldl choose b.uncapped := by
  induction choices generalizing b with
  | nil => rfl
  | cons choice choices ih =>
    rw [List.foldl_cons, ih]
    cases choice <;> rfl

theorem ofChoices_of_zero_cap (last : choices.reverse.findSome? Choice.cap? = some .zero) :
    ofChoices choices = ofChoices (choices.filter fun choice => choice.cap?.isNone) := by
  have lifted : (ofChoices choices).maxDelay = none := by
    rw [ofChoices, maxDelay_foldl_choose, last]
    rfl
  have same : (ofChoices choices).uncapped = ofChoices choices := by
    rw [uncapped, ← lifted]
  rw [← same]
  exact uncapped_foldl_choose default choices

end Backoff

/-- A strategy that was given a cap: a backoff whose last cap it is, behind any number of shared
references. -/
inductive Strategy.Capped (cap : Duration) : Strategy → Prop where
  | chosen {choices : List Backoff.Choice}
      (last : choices.reverse.findSome? Backoff.Choice.cap? = some cap) (positive : cap ≠ .zero) :
      Capped cap (.growing (.ofChoices choices))
  | shared {inner : Strategy} (capped : Capped cap inner) : Capped cap (.shared inner)

/-- No delay of the policy is longer than `cap`. -/
def Policy.WaitsWithin (policy : Policy) (cap : Duration) : Prop :=
  ∀ c draw, policy.delay c draw ≤ cap

theorem Strategy.Capped.waitsWithin {cap : Duration} {s : Strategy} (capped : s.Capped cap) :
    s.policy.WaitsWithin cap := by
  induction capped with
  | chosen last positive =>
    intro c draw
    exact Backoff.delay_le_cap (Backoff.maxDelay_of_last_cap last positive) c.attempt draw
  | shared _ ih => exact ih

namespace Settings

/-- The cap that settings hold, zero included. -/
def maxDelayMs? : Settings → Option UInt64
  | .exponential _ _ _ maxDelayMs _ => maxDelayMs
  | _ => none

/-- Valid settings with a cap give a strategy with that cap. -/
theorem strategy_of_cap {settings : Settings} {ms : UInt64}
    (cap : settings.maxDelayMs? = some ms) (positive : ms ≠ 0)
    (valid : settings.validate = .ok ()) :
    ∃ s, settings.strategy = .ok s ∧ s.Capped (.ofMillis ms.toNat) := by
  have lasting : Duration.ofMillis ms.toNat ≠ .zero := by
    intro zero
    have nanos : ms.toNat * 1000000 = 0 := congrArg Duration.nanos zero
    have nothing : ms.toNat = 0 := by omega
    exact positive (UInt64.toNat_inj.mp nothing)
  refine ⟨_, strategy_of_valid valid, .shared ?_⟩
  cases settings with
  | fixed | timeout => contradiction
  | exponential maxAttempts baseDelayMs multiplier maxDelayMs jitter =>
    obtain rfl : maxDelayMs = some ms := cap
    exact .chosen rfl lasting

theorem strategy_of_zero_cap (maxAttempts : UInt32) (baseDelayMs : UInt64)
    (multiplier jitter : Binary64) :
    (exponential maxAttempts baseDelayMs multiplier (some 0) jitter).strategy =
      (exponential maxAttempts baseDelayMs multiplier none jitter).strategy := by
  have same : backoff maxAttempts baseDelayMs multiplier (some 0) jitter =
      backoff maxAttempts baseDelayMs multiplier none jitter :=
    Backoff.ofChoices_of_zero_cap rfl
  simp only [strategy, described, same]
  rfl

end Settings

namespace Action

/-- Neither a delay that the policy gives, nor one that is told or waited for, is longer than
`cap`. -/
def WaitsWithin (cap : Duration) : Action T E → Prop
  | .space _ delay | .sleep delay => delay ≤ cap
  | .tell event => ∀ delay, event.delay = some delay → delay ≤ cap
  | _ => True

end Action

variable {cap : Duration} {r : Rules T E}

/-- A round announces, and waits for, the delay that the policy gives. -/
theorem Rules.waitsWithin_round (paced : r.policy.WaitsWithin cap) (w : Scenario T E)
    (watched : Bool) (p : Pause) : ∀ a ∈ (r.round w watched p).actions, a.WaitsWithin cap := by
  have bound : r.pace w p ≤ cap := paced _ _
  cases r.course w watched p with
  | accepted _ _ _ same | declined _ _ _ same | refused _ _ same =>
    rw [same]
    simp [opening, Action.report, Action.WaitsWithin, Event.ofContext]
  | cut _ _ _ _ same | retried _ _ _ same =>
    rw [same]
    simp [permitted, opening, announced, Action.report, Action.WaitsWithin, Event.ofContext, bound]

theorem Progress.waitsWithin_log (paced : r.policy.WaitsWithin cap) (w : Scenario T E)
    (watched : Bool) {p : Progress T E} (before : ∀ a ∈ p.log.toList, a.WaitsWithin cap) (n : Nat) :
    ∀ a ∈ (p.resume r w watched n).log.toList, a.WaitsWithin cap := by
  induction n with
  | zero => exact before
  | succ n ih =>
    cases stage : (p.resume r w watched n).stage with
    | ended e =>
      rw [resume_of_ended_of_le stage (Nat.le_succ n)]
      exact ih
    | paused q =>
      rw [log_resume_succ stage]
      intro a member
      rcases List.mem_append.mp member with earlier | last
      · exact ih a earlier
      · exact r.waitsWithin_round paced w watched q a last

/-- Neither an execution by itself, whenever it starts, nor executions side by side announce a
delay, or wait for one, that is longer than `cap`. -/
def Executor.WaitsWithin [TextCarrier T] [Chained E] (x : Executor T E) (cap : Duration) : Prop :=
  (∀ (m : Member T E) n, ∀ a ∈ (m.alone x n).log.toList, a.WaitsWithin cap) ∧
    ∀ members schedule,
      ∀ entry ∈ ((Fleet.launch x members).follow x.rules schedule).log.toList,
        entry.2.WaitsWithin cap

theorem Executor.waitsWithin_of_capped [TextCarrier T] [Chained E] {x : Executor T E}
    (capped : x.strategy.Capped cap) : x.WaitsWithin cap := by
  have alone : ∀ (m : Member T E) n, ∀ a ∈ (m.alone x n).log.toList, a.WaitsWithin cap := by
    intro m n
    refine Progress.waitsWithin_log capped.waitsWithin m.scenario m.mode.watches ?_ n
    intro a opening
    obtain rfl := List.mem_singleton.mp opening
    trivial
  refine ⟨alone, ?_⟩
  rintro members schedule ⟨i, a⟩ logged
  -- in a fleet an execution has done a beginning of what it does alone
  have own : a ∈ ((Fleet.launch x members).follow x.rules schedule).actionsOf i :=
    List.mem_filterMap.mpr ⟨(i, a), logged, if_pos rfl⟩
  cases member : members[i]? with
  | none =>
    have outside : (Fleet.launch x members).tasks[i]? = none := by simpa [Fleet.launch] using member
    rw [Fleet.actionsOf_follow_of_none x.rules _ schedule outside] at own
    contradiction
  | some m =>
    obtain ⟨n, here⟩ := Share.At.iterate x m (schedule.count i)
    have stands : ((Fleet.launch x members).follow x.rules schedule).share? i =
        some ((Share.turn x.rules)^[schedule.count i] ⟨.start x m, []⟩) := by
      rw [Fleet.share?_follow, Fleet.share?_launch, member]
      rfl
    rw [Fleet.actionsOf_of_share? stands] at own
    exact alone m n a (here.done_prefix.mem own)

/-- On every route a cap bounds every delay, be it the plain backoff that is asked, the backoff
behind references, an executor with it, or one that was given settings with the cap. A zero cap
is no cap. -/
theorem cap_bounds_delays [Pattern.Compiler] (T E : Type) [TextCarrier T] [Chained E] :
    (∀ {s : Strategy} {cap}, s.Capped cap →
      (∀ c draw, s.policy.delay c draw ≤ cap) ∧
      ∀ x : Executor T E, x.strategy = s → x.WaitsWithin cap) ∧
    (∀ {settings : Settings} {ms}, settings.maxDelayMs? = some ms → ms ≠ 0 →
      settings.validate = .ok () →
      ∃ s, settings.strategy = .ok s ∧ s.Capped (.ofMillis ms.toNat) ∧
        ∀ before after, (∀ choice ∈ after, choice.strategy? = none) → ∀ x : Executor T E,
          (Blueprint.ofChoices (before ++ .settings settings :: after)).build = .ok x →
          x.strategy = s ∧ x.WaitsWithin (.ofMillis ms.toNat)) ∧
    (∀ {choices : List Backoff.Choice},
      choices.reverse.findSome? Backoff.Choice.cap? = some .zero →
        Backoff.ofChoices choices =
          .ofChoices (choices.filter fun choice => choice.cap?.isNone)) ∧
    ∀ maxAttempts baseDelayMs multiplier jitter,
      (Settings.exponential maxAttempts baseDelayMs multiplier (some 0) jitter).strategy =
        (Settings.exponential maxAttempts baseDelayMs multiplier none jitter).strategy := by
  refine ⟨?_, ?_, ?_, ?_⟩
  · intro s cap capped
    refine ⟨capped.waitsWithin, ?_⟩
    rintro x rfl
    exact Executor.waitsWithin_of_capped capped
  · intro settings ms cap positive valid
    obtain ⟨s, given, capped⟩ := Settings.strategy_of_cap cap positive valid
    refine ⟨s, given, capped, ?_⟩
    intro before after last x built
    obtain rfl := Blueprint.strategy_of_settings given last built
    exact ⟨rfl, Executor.waitsWithin_of_capped capped⟩
  · intro choices last
    exact Backoff.ofChoices_of_zero_cap last
  · exact Settings.strategy_of_zero_cap

/-- A backoff whose numbers make no sense, with two caps. -/
def shaky : List Backoff.Choice :=
  [.maxDelay (.ofMillis 90), .multiplier (.infinite true), .jitter .nan, .maxDelay (.ofMillis 5),
    .baseDelay .max]

theorem shaky_delays :
    (Strategy.shared (.growing (.ofChoices shaky))).Capped (.ofMillis 5) ∧
      (Backoff.ofChoices shaky).delay 4294967295 0 ≤ .ofMillis 5 ∧
      ({ patient with strategy := .shared (.growing (.ofChoices shaky)) } :
        Executor String Cause).WaitsWithin (.ofMillis 5) ∧
      (∃ s, (Settings.exponential 3 100 2 (some 500) 0).strategy = .ok s ∧
        s.Capped (.ofMillis 500)) ∧
      Backoff.ofChoices (shaky ++ [.maxDelay .zero]) =
        .ofChoices [.multiplier (.infinite true), .jitter .nan, .baseDelay .max] := by
  have capped : (Strategy.shared (.growing (.ofChoices shaky))).Capped (.ofMillis 5) :=
    .shared (.chosen rfl (by decide))
  have grows : ¬ (Binary64.isFinite 2 = false ∨ Binary64.lt 2 1 = true) := by decide +kernel
  have steady : (Binary64.le 0 0 && Binary64.le 0 1) = true := by decide +kernel
  have valid : (Settings.exponential 3 100 2 (some 500) 0).validate = .ok () := by
    rw [Settings.validate, if_neg grows, if_pos steady]
  obtain ⟨bounds, given, zero, -⟩ := cap_bounds_delays String Cause
  obtain ⟨delays, waits⟩ := bounds capped
  obtain ⟨s, strategy, within, -⟩ := given rfl (by decide) valid
  exact ⟨capped, delays (.fresh 4294967295 .zero) 0, waits _ rfl, ⟨s, strategy, within⟩, zero rfl⟩

end Retry
