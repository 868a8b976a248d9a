import Retry.Blueprint

/-! What a sequence of choices builds. A choice that cannot be made has an error, any other sets
one part of the executor. Of all errors the first one is reported, whatever else is chosen; of all
choices of one part the last one counts. A pattern that cannot be read also takes away the
condition chosen before it, and nothing tells of that: its error is there from then on. Which
patterns these are depends on the compiler, and nothing here is said of one compiler only. -/
namespace Retry

namespace Settings

variable {s : Settings}

theorem strategy_of_valid (valid : s.validate = .ok ()) :
    s.strategy = .ok (.shared s.described) := by
  rw [strategy, valid]
  rfl

theorem strategy_of_fault {fault : Fault} (invalid : s.validate = .error fault) :
    s.strategy = .error fault := by
  rw [strategy, invalid]
  rfl

end Settings

namespace Blueprint

variable {T E : Type}

namespace Choice

/-- Why a choice cannot be made. -/
def error? [Pattern.Compiler] : Choice T E → Option SetupError
  | .settings s =>
    match s.validate with
    | .ok () => none
    | .error fault => some fault.error
  | .onPattern source _ =>
    match Pattern.ofString source with
    | .ok _ => none
    | .error fault => some (.invalidPattern fault)
  | _ => none

/-- The strategy that a choice sets. -/
def strategy? : Choice T E → Option Strategy
  | .fixed maxAttempts delay => some (.fixed ⟨maxAttempts, delay⟩)
  | .exponential maxAttempts baseDelay => some (.growing (.doubling maxAttempts baseDelay))
  | .timeout budget delay => some (.limited ⟨budget, delay⟩)
  | .strategy s => some s
  | .settings s =>
    match s.validate with
    | .ok () => some (.shared s.described)
    | .error _ => none
  | _ => none

/-- The condition that a choice sets. -/
def condition? [Pattern.Compiler] : Choice T E → Option (Condition T E)
  | .condition c => some c
  | .onError kind => some (.errorKinds (.of kind))
  | .ifResult type predicate => some (.resultPredicate type predicate)
  | .onPattern source retryOnMatch =>
    match Pattern.ofString source with
    | .ok pattern => some (.pattern ⟨pattern, retryOnMatch⟩)
    | .error _ => none
  | _ => none

def observer? : Choice T E → Option Observer
  | .observer o => some o
  | _ => none

/-- Valid settings set the strategy that they give. -/
theorem strategy?_of_settings {settings : Settings} {s : Strategy}
    (valid : settings.strategy = .ok s) :
    (.settings settings : Choice T E).strategy? = some s := by
  cases checked : settings.validate with
  | ok =>
    have given := Settings.strategy_of_valid checked
    rw [valid] at given
    simp only [strategy?, checked, Except.ok.inj given]
  | error fault =>
    rw [Settings.strategy_of_fault checked] at valid
    contradiction

end Choice

section

variable [Pattern.Compiler] {b : Blueprint T E} {choice : Choice T E}
  {choices : List (Choice T E)}

/-- A choice that can be made sets its part and leaves the others. -/
theorem choose_of_possible (possible : choice.error? = none) :
    b.choose choice = ⟨choice.strategy?.or b.strategy, choice.condition?.or b.condition,
      choice.observer?.or b.observer, b.error⟩ := by
  cases choice with
  | settings s =>
    cases valid : s.validate with
    | ok =>
      simp only [choose, Settings.strategy_of_valid valid, Choice.strategy?, valid]
      rfl
    | error fault => simp [Choice.error?, valid] at possible
  | onPattern source retryOnMatch =>
    cases read : Pattern.ofString source with
    | ok pattern =>
      simp only [choose, PatternRule.ofString, read, Except.map, Choice.condition?]
      rfl
    | error fault => simp [Choice.error?, read] at possible
  | _ => rfl

/-- One that cannot be made leaves its error, unless there is one already. -/
theorem error_choose_of_impossible {error : SetupError} (impossible : choice.error? = some error) :
    (b.choose choice).error = some (b.error.getD error) := by
  cases choice with
  | settings s =>
    cases valid : s.validate with
    | ok => simp [Choice.error?, valid] at impossible
    | error fault =>
      obtain rfl : fault.error = error := by simpa [Choice.error?, valid] using impossible
      simp only [choose, Settings.strategy_of_fault valid, fail]
  | onPattern source retryOnMatch =>
    cases read : Pattern.ofString source with
    | ok pattern => simp [Choice.error?, read] at impossible
    | error fault =>
      obtain rfl : .invalidPattern fault = error := by simpa [Choice.error?, read] using impossible
      simp only [choose, PatternRule.ofString, read, Except.map, fail]
  | _ => contradiction

theorem error_choose (b : Blueprint T E) (choice : Choice T E) :
    (b.choose choice).error = b.error.or choice.error? := by
  cases possible : choice.error? with
  | none => rw [choose_of_possible possible, Option.or_none]
  | some error => rw [error_choose_of_impossible possible, Option.or_some]

/-- The first error stays through all later choices. -/
theorem error_foldl_choose (b : Blueprint T E) (choices : List (Choice T E)) :
    (choices.foldl choose b).error = b.error.or (choices.findSome? Choice.error?) := by
  induction choices generalizing b with
  | nil => exact Option.or_none.symm
  | cons choice choices ih =>
    rw [List.foldl_cons, ih, error_choose, Option.or_assoc, List.findSome?_cons]
    cases choice.error? <;> rfl

theorem error_ofChoices (choices : List (Choice T E)) :
    (ofChoices choices).error = choices.findSome? Choice.error? :=
  error_foldl_choose empty choices

/-- Where every choice can be made, each part is as the last choice of it says. -/
theorem foldl_choose_of_possible (b : Blueprint T E)
    (possible : ∀ choice ∈ choices, choice.error? = none) :
    choices.foldl choose b = ⟨(choices.reverse.findSome? Choice.strategy?).or b.strategy,
      (choices.reverse.findSome? Choice.condition?).or b.condition,
      (choices.reverse.findSome? Choice.observer?).or b.observer, b.error⟩ := by
  induction choices generalizing b with
  | nil => rfl
  | cons choice choices ih =>
    have later : ∀ choice ∈ choices, choice.error? = none :=
      fun c member => possible c (List.mem_cons_of_mem choice member)
    rw [List.foldl_cons, choose_of_possible (possible choice List.mem_cons_self), ih _ later]
    simp only [List.reverse_cons, List.findSome?_append, List.findSome?_singleton, Option.or_assoc]

theorem ofChoices_of_possible (possible : choices.findSome? Choice.error? = none) :
    ofChoices choices = ⟨choices.reverse.findSome? Choice.strategy?,
      choices.reverse.findSome? Choice.condition?, choices.reverse.findSome? Choice.observer?,
      none⟩ := by
  rw [ofChoices, foldl_choose_of_possible empty (List.findSome?_eq_none_iff.mp possible)]
  simp only [empty, Option.or_none]

theorem build_of_failed {error : SetupError}
    (failed : choices.findSome? Choice.error? = some error) :
    (ofChoices choices).build = .error error := by
  have stays := (error_ofChoices choices).trans failed
  simp only [build, stays]

theorem build_of_possible (possible : choices.findSome? Choice.error? = none) :
    (ofChoices choices).build =
      match choices.reverse.findSome? Choice.strategy? with
      | none => .error .missingStrategy
      | some strategy =>
        match choices.reverse.findSome? Choice.condition? with
        | none => .error .missingCondition
        | some condition => .ok ⟨strategy, condition,
            (choices.reverse.findSome? Choice.observer?).getD .silent⟩ := by
  rw [ofChoices_of_possible possible, build]
  cases choices.reverse.findSome? Choice.strategy? with
  | none => rfl
  | some strategy => cases choices.reverse.findSome? Choice.condition? <;> rfl

/-- An executor that is built has the strategy chosen last. -/
theorem strategy_of_build {x : Executor T E} (built : (ofChoices choices).build = .ok x) :
    choices.reverse.findSome? Choice.strategy? = some x.strategy := by
  cases failed : choices.findSome? Choice.error? with
  | some error =>
    rw [build_of_failed failed] at built
    contradiction
  | none =>
    rw [build_of_possible failed] at built
    split at built
    · contradiction
    · next strategy chosen =>
      split at built
      · contradiction
      · obtain rfl := Except.ok.inj built
        exact chosen

/-- Settings chosen last for the strategy give it to the executor. -/
theorem strategy_of_settings {before after : List (Choice T E)} {settings : Settings}
    {s : Strategy} (valid : settings.strategy = .ok s)
    (last : ∀ choice ∈ after, choice.strategy? = none) {x : Executor T E}
    (built : (ofChoices (before ++ .settings settings :: after)).build = .ok x) :
    x.strategy = s := by
  have chosen := strategy_of_build built
  have later : after.reverse.findSome? Choice.strategy? = none :=
    List.findSome?_eq_none_iff.mpr fun choice member => last choice (List.mem_reverse.mp member)
  simp only [List.reverse_append, List.reverse_cons, List.findSome?_append, later, Option.none_or,
    List.findSome?_singleton, Choice.strategy?_of_settings valid, Option.some_or] at chosen
  exact (Option.some.inj chosen).symm

/-- The first choice that cannot be made decides alone. Where there is none, a missing strategy
comes before a missing condition, and an executor holds what was chosen last. Building writes one
record if there is an executor, does nothing else, and so calls no operation. -/
theorem build_ofChoices (choices : List (Choice T E)) :
    (ofChoices choices).build =
      (match choices.findSome? Choice.error? with
      | some error => .error error
      | none =>
        match choices.reverse.findSome? Choice.strategy? with
        | none => .error .missingStrategy
        | some strategy =>
          match choices.reverse.findSome? Choice.condition? with
          | none => .error .missingCondition
          | some condition => .ok ⟨strategy, condition,
              (choices.reverse.findSome? Choice.observer?).getD .silent⟩) ∧
    (ofChoices choices).buildActions =
      (match (ofChoices choices).build with
      | .error _ => []
      | .ok x => [.write ⟨.event, "Built retry executor", .trace,
          [("strategy", .text (inspect x.strategy))]⟩]) ∧
    ∀ action ∈ (ofChoices choices).buildActions, action.isInvoke = false := by
  refine ⟨?_, ?_, ?_⟩
  · cases failed : choices.findSome? Choice.error? with
    | some error => exact build_of_failed failed
    | none => exact build_of_possible failed
  · rw [buildActions, buildRecords]
    cases (ofChoices choices).build <;> rfl
  · intro action done
    obtain ⟨record, -, rfl⟩ := List.mem_map.mp done
    rfl

end

/-- Every part is chosen twice. -/
def redecided : List (Choice String Cause) :=
  [.onError "Timeout", .exponential 5 (.ofMillis 200), .observer (.recording "first"),
    .settings (.fixed 2 10), .observer (.recording "last"), .onPattern "^OK$" true]

/-- Two choices that cannot be made, among others that can. -/
def misread : List (Choice String Cause) :=
  redecided ++ [.onPattern "(unclosed" false, .settings (.exponential 3 100 0 none 0)] ++ redecided

theorem redecided_and_misread_build :
    (∃ x rule, (ofChoices redecided).build = .ok x ∧
      x.strategy = .shared (.fixed ⟨2, .ofMillis 10⟩) ∧ x.condition = .pattern rule ∧
      rule.retryOnMatch = true ∧ rule.pattern.isMatch "OK" = true ∧
      x.observer = .recording "last" ∧
      .write (.built x.strategy) ∈ (ofChoices redecided).buildActions ∧
      (.write (.built x.strategy) : Action String Cause).isInvoke = false) ∧
    (ofChoices misread).build = .error (.invalidPattern ⟨"error: unclosed group"⟩) := by
  constructor
  · obtain ⟨outcome, actions, uncalled⟩ := build_ofChoices redecided
    have possible : redecided.findSome? Choice.error? = none := by decide +kernel
    have found : ((Pattern.ofString "^OK$").map (·.isMatch "OK")).toOption = some true := by
      decide +kernel
    cases read : Pattern.ofString "^OK$" with
    | error fault =>
      rw [read] at found
      contradiction
    | ok pattern =>
      rw [read] at found
      have last : (Choice.onPattern "^OK$" true : Choice String Cause).condition? =
          some (.pattern ⟨pattern, true⟩) := by
        simp only [Choice.condition?, read]
      have chosen : redecided.reverse.findSome? Choice.condition? =
          some (.pattern ⟨pattern, true⟩) := by
        have parts : redecided = redecided.dropLast ++ [.onPattern "^OK$" true] := rfl
        rw [parts, List.reverse_concat, List.findSome?_cons, last]
      have built : (ofChoices redecided).build =
          .ok ⟨.shared (.fixed ⟨2, .ofMillis 10⟩), .pattern ⟨pattern, true⟩,
            .recording "last"⟩ := by
        rw [outcome, possible, chosen]
        rfl
      have written : .write (.built (.shared (.fixed ⟨2, .ofMillis 10⟩))) ∈
          (ofChoices redecided).buildActions := by
        rw [actions, built]
        exact List.mem_singleton_self _
      exact ⟨_, _, built, rfl, rfl, rfl, Option.some.inj found, rfl, written, uncalled _ written⟩
  · obtain ⟨outcome, -⟩ := build_ofChoices misread
    have failed : misread.findSome? Choice.error? =
        some (.invalidPattern ⟨"error: unclosed group"⟩) := by
      decide +kernel
    rw [outcome, failed]

end Blueprint
end Retry
