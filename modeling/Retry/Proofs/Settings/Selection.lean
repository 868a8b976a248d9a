import Retry.Settings.Decoding
import Retry.Settings.Environment

/-! Which variables the settings of an environment depend on. The environment selects a kind of
strategy, and each field of that kind is read from a variable of its own. No other variable
matters, with one exception: the number of attempts is read whatever is selected, so that settings
with a time limit, which have no such number, are refused where it cannot be read. -/
namespace Retry.Settings

theorem Kind.eq_name_of_ofName? {kind : Kind} {s : String} (known : Kind.ofName? s = some kind) :
    s = kind.name := by
  have named := List.find?_some known
  exact (eq_of_beq named).symm

/-- The variable that names the kind of strategy. -/
def kindVariable : String := "RELENTLESS_STRATEGY"

/-- The variable that holds a field. A delay is read from the same variable whether it is constant
or the first of growing ones. -/
def Field.variableName : Field → String
  | .maxAttempts => "RELENTLESS_MAX_ATTEMPTS"
  | .delayMs | .baseDelayMs => "RELENTLESS_DELAY_MS"
  | .multiplier => "RELENTLESS_MULTIPLIER"
  | .maxDelayMs => "RELENTLESS_MAX_DELAY_MS"
  | .jitter => "RELENTLESS_JITTER"
  | .budgetMs => "RELENTLESS_BUDGET_MS"

/-- The kind that the environment selects, if it is a known one: exponential where none is named. -/
def selected? (env : Environment) : Option Kind :=
  Kind.ofName? (((env.text? kindVariable).map Text.trim).getD Kind.exponential.name)

/-- What is read for a kind once the number of attempts and the delay are known. -/
def complete (env : Environment) (maxAttempts : UInt32) (delayMs : UInt64) :
    Kind → Except Fault Settings
  | .fixed => pure (.fixed maxAttempts delayMs)
  | .exponential => do
    let multiplier ← numeric env Field.multiplier.variableName Decimal.read?
    let maxDelayMs ← numeric env Field.maxDelayMs.variableName word64?
    let jitter ← numeric env Field.jitter.variableName Decimal.read?
    pure (.exponential maxAttempts delayMs (multiplier.getD defaultMultiplier) maxDelayMs
      (jitter.getD defaultJitter))
  | .timeout => do
    let budgetMs ← numeric env Field.budgetMs.variableName word64?
    pure (.timeout (budgetMs.getD defaultBudgetMs) delayMs)

variable {env env' : Environment} {kind : Kind}

theorem described?_of_selected (selects : selected? env = some kind) :
    described? env = (do
      let maxAttempts ← numeric env Field.maxAttempts.variableName word32?
      let delayMs ← numeric env Field.delayMs.variableName word64?
      complete env (maxAttempts.getD defaultMaxAttempts) (delayMs.getD defaultDelayMs) kind) := by
  have named : ((env.text? "RELENTLESS_STRATEGY").map Text.trim).getD "exponential" = kind.name :=
    Kind.eq_name_of_ofName? selects
  rw [described?, named]
  cases kind <;> rfl

section

variable {α : Type} {name : String} {parse : String → Option α}

theorem numeric_congr (same : env name = env' name) :
    numeric env name parse = numeric env' name parse := by
  simp only [numeric, Environment.text?, same]

/-- A fault of a variable names it. -/
theorem parameter_of_numeric {fault : Fault} (failed : numeric env name parse = .error fault) :
    fault.parameter = name := by
  unfold numeric at failed
  split at failed
  · contradiction
  · split at failed
    · contradiction
    · obtain rfl := Except.error.inj failed
      rfl

end

/-- Two environments hold the same in the variables of a kind. -/
def Agree (kind : Kind) (env env' : Environment) : Prop :=
  ∀ field ∈ kind.fields, env field.variableName = env' field.variableName

/-- Every kind has a delay. -/
theorem Agree.delay (agree : Agree kind env env') :
    env Field.delayMs.variableName = env' Field.delayMs.variableName := by
  cases kind with
  | fixed => exact agree .delayMs (by decide)
  | exponential => exact agree .baseDelayMs (by decide)
  | timeout => exact agree .delayMs (by decide)

theorem Agree.complete_eq (agree : Agree kind env env') (maxAttempts : UInt32) (delayMs : UInt64) :
    complete env maxAttempts delayMs kind = complete env' maxAttempts delayMs kind := by
  cases kind with
  | fixed => rfl
  | exponential =>
    simp only [complete, numeric_congr (agree .multiplier (by decide)),
      numeric_congr (agree .maxDelayMs (by decide)), numeric_congr (agree .jitter (by decide))]
  | timeout => simp only [complete, numeric_congr (agree .budgetMs (by decide))]

/-- What is wrong with the number of attempts, if it is set and cannot be read. -/
def attemptsFault? (env : Environment) : Option Fault :=
  match numeric env Field.maxAttempts.variableName word32? with
  | .ok _ => none
  | .error fault => some fault

theorem attemptsFault?_eq_some_iff {fault : Fault} :
    attemptsFault? env = some fault ↔
      numeric env Field.maxAttempts.variableName word32? = .error fault := by
  unfold attemptsFault?
  cases numeric env Field.maxAttempts.variableName word32? <;> simp

theorem attemptsFault?_eq_none_iff :
    attemptsFault? env = none ↔
      ∃ found, numeric env Field.maxAttempts.variableName word32? = .ok found := by
  unfold attemptsFault?
  cases numeric env Field.maxAttempts.variableName word32? <;> simp

/-- Where the number of attempts is a field, all that is read is read from fields. -/
theorem Agree.ofEnvironment_eq (agree : Agree kind env env') (counts : .maxAttempts ∈ kind.fields)
    (selects : selected? env = some kind) (selects' : selected? env' = some kind) :
    ofEnvironment env = ofEnvironment env' := by
  have attempts : numeric env _ word32? = numeric env' _ word32? :=
    numeric_congr (agree .maxAttempts counts)
  have delay : numeric env _ word64? = numeric env' _ word64? := numeric_congr agree.delay
  simp only [ofEnvironment, described?_of_selected selects, described?_of_selected selects',
    attempts, delay, agree.complete_eq]

/-- What is read of settings with a time limit, but for the number of attempts. -/
def limit (env : Environment) : Except Fault Settings := do
  let delayMs ← numeric env Field.delayMs.variableName word64?
  complete env defaultMaxAttempts (delayMs.getD defaultDelayMs) .timeout

/-- Settings with a time limit are never out of range, and of the number of attempts they need no
more than that it can be read. -/
theorem ofEnvironment_of_timeout (selects : selected? env = some .timeout) :
    ofEnvironment env =
      match attemptsFault? env with
      | some fault => .error fault
      | none => limit env := by
  rw [ofEnvironment, described?_of_selected selects, attemptsFault?]
  cases numeric env Field.maxAttempts.variableName word32? with
  | error fault => rfl
  | ok maxAttempts =>
    rw [limit]
    cases numeric env Field.delayMs.variableName word64? with
    | error fault => rfl
    | ok delayMs =>
      simp only [complete]
      cases numeric env Field.budgetMs.variableName word64? <;> rfl

theorem parameter_of_limit {fault : Fault} (failed : limit env = .error fault) :
    fault.parameter ≠ Field.maxAttempts.variableName := by
  rw [limit] at failed
  cases delay : numeric env Field.delayMs.variableName word64? with
  | error found =>
    rw [delay] at failed
    obtain rfl : found = fault := Except.error.inj failed
    rw [parameter_of_numeric delay]
    decide
  | ok delayMs =>
    simp only [delay, complete] at failed
    cases budget : numeric env Field.budgetMs.variableName word64? with
    | error found =>
      rw [budget] at failed
      obtain rfl : found = fault := Except.error.inj failed
      rw [parameter_of_numeric budget]
      decide
    | ok budgetMs =>
      rw [budget] at failed
      contradiction

theorem parameter_of_attemptsFault? {fault : Fault} (failed : attemptsFault? env = some fault) :
    fault.parameter = Field.maxAttempts.variableName :=
  parameter_of_numeric (attemptsFault?_eq_some_iff.mp failed)

/-- A fault in the number of attempts is never one of a time limit. -/
theorem Agree.ofEnvironment_eq_iff_of_timeout (agree : Agree .timeout env env')
    (selects : selected? env = some .timeout) (selects' : selected? env' = some .timeout) :
    ofEnvironment env = ofEnvironment env' ↔ attemptsFault? env = attemptsFault? env' := by
  have same : limit env = limit env' := by
    simp only [limit, numeric_congr agree.delay, agree.complete_eq]
  have apart {e e' : Environment} {fault : Fault} (failed : attemptsFault? e = some fault) :
      limit e' ≠ .error fault :=
    fun limited => parameter_of_limit limited (parameter_of_attemptsFault? failed)
  rw [ofEnvironment_of_timeout selects, ofEnvironment_of_timeout selects', same]
  cases failed : attemptsFault? env with
  | none =>
    cases failed' : attemptsFault? env' with
    | none => simp
    | some fault' => simpa using apart failed'
  | some fault =>
    cases failed' : attemptsFault? env' with
    | none => simpa using (apart failed).symm
    | some fault' => simp

/-- The variables that do not belong to the selected kind make no difference, but for the number of
attempts where a time limit is selected: there it decides by its fault, and by nothing else. -/
theorem ofEnvironment_eq_iff (selects : selected? env = some kind)
    (selects' : selected? env' = some kind) (agree : Agree kind env env') :
    ofEnvironment env = ofEnvironment env' ↔
      (kind = .timeout → attemptsFault? env = attemptsFault? env') := by
  cases kind with
  | timeout => simpa using agree.ofEnvironment_eq_iff_of_timeout selects selects'
  | fixed => simpa using agree.ofEnvironment_eq (by decide) selects selects'
  | exponential => simpa using agree.ofEnvironment_eq (by decide) selects selects'

/-- A time limit beside variables of other kinds. -/
def limited : Environment := .ofList
  [("RELENTLESS_STRATEGY", .text " timeout "), ("RELENTLESS_BUDGET_MS", .text "2000"),
    ("RELENTLESS_MAX_ATTEMPTS", .text "7"), ("RELENTLESS_JITTER", .text "lots")]

/-- The same time limit, with nothing beside it. -/
def onlyLimited : Environment := .ofList
  [("RELENTLESS_STRATEGY", .text "timeout"), ("RELENTLESS_BUDGET_MS", .text "2000")]

theorem limited_ofEnvironment_eq :
    selected? limited = some .timeout ∧ selected? onlyLimited = some .timeout ∧
      Agree .timeout limited onlyLimited ∧ attemptsFault? limited = attemptsFault? onlyLimited ∧
      ofEnvironment limited = ofEnvironment onlyLimited := by
  have selects : selected? limited = some .timeout := by decide +kernel
  have selects' : selected? onlyLimited = some .timeout := by decide +kernel
  have agree : Agree .timeout limited onlyLimited := by
    unfold Agree
    decide +kernel
  have readable : attemptsFault? limited = attemptsFault? onlyLimited := by decide +kernel
  exact ⟨selects, selects', agree, readable,
    (ofEnvironment_eq_iff selects selects' agree).mpr fun _ => readable⟩

/-- A time limit beside a number of attempts that is none. -/
def distracted : Environment := .ofList
  [("RELENTLESS_STRATEGY", .text "timeout"), ("RELENTLESS_BUDGET_MS", .text "2000"),
    ("RELENTLESS_MAX_ATTEMPTS", .text "lots")]

theorem distracted_ofEnvironment_ne :
    selected? distracted = some .timeout ∧ selected? onlyLimited = some .timeout ∧
      Agree .timeout distracted onlyLimited ∧
      ofEnvironment distracted = .error (.notNumeric "RELENTLESS_MAX_ATTEMPTS" "lots") ∧
      ofEnvironment onlyLimited = .ok (.timeout 2000 100) ∧
      ofEnvironment distracted ≠ ofEnvironment onlyLimited := by
  have selects : selected? distracted = some .timeout := by decide +kernel
  have agree : Agree .timeout distracted onlyLimited := by
    unfold Agree
    decide +kernel
  have unread : attemptsFault? distracted =
      some (.notNumeric "RELENTLESS_MAX_ATTEMPTS" "lots") := by decide +kernel
  have refused : ofEnvironment distracted =
      .error (.notNumeric "RELENTLESS_MAX_ATTEMPTS" "lots") := by
    rw [ofEnvironment_of_timeout selects, unread]
  have accepted : ofEnvironment onlyLimited = .ok (.timeout 2000 100) := rfl
  refine ⟨selects, by decide +kernel, agree, refused, accepted, ?_⟩
  rw [refused, accepted]
  exact fun same => by contradiction

end Retry.Settings
