import Retry.Proofs.Settings.Strictness
import Retry.Proofs.Settings.Fields
import Retry.Proofs.Blueprint.Assembly
import Retry.Proofs.Binary64.Product

/-! What an environment must provide, in order. A reading that asks for some things one after
another gives a value if all of them are there, and otherwise the fault of the first one that is
not, whatever comes after it (`Asks`). Readings put together ask for what their parts ask for, so
that a whole environment is described by the list of its demands: the number of attempts and the
delay, a known kind, what is read for that kind, and the ranges of the numbers that were read. A
variable that does not hold text is taken as not set. -/
namespace Retry.Settings

/-- One thing that an environment must provide. -/
inductive Demand where
  /-- The variable of a field is not set, or holds a number of the sort that the field needs. -/
  | readable (field : Field)
  | knownKind
  /-- The multiplier is finite, and at least one. -/
  | growing
  /-- The jitter lies between zero and one. -/
  | fraction
deriving DecidableEq

namespace Field

/-- The value that a text stands for. -/
def parse? : (field : Field) → String → Option field.Value
  | .maxAttempts, raw => word32? raw
  | .delayMs, raw | .baseDelayMs, raw | .budgetMs, raw => word64? raw
  | .multiplier, raw | .jitter, raw => Decimal.read? raw
  | .maxDelayMs, raw => (word64? raw).map some

/-- The value of a field whose variable is not set. -/
def fallback : (field : Field) → field.Value
  | .maxAttempts => defaultMaxAttempts
  | .delayMs | .baseDelayMs => defaultDelayMs
  | .multiplier => defaultMultiplier
  | .maxDelayMs => (none : Option UInt64)
  | .jitter => defaultJitter
  | .budgetMs => defaultBudgetMs

/-- The value that an environment gives to a field: what its variable holds, blanks around it apart,
or the default. -/
def valueIn (field : Field) (env : Environment) : field.Value :=
  ((env.text? field.variableName).bind fun raw => field.parse? (Text.trim raw)).getD field.fallback

end Field

namespace Demand

variable (env : Environment)

def met : Demand → Bool
  | .readable field => (env.text? field.variableName).all field.reads
  | .knownKind => (selected? env).isSome
  | .growing =>
    (Field.multiplier.valueIn env).isFinite && Binary64.le 1 (Field.multiplier.valueIn env)
  | .fraction =>
    Binary64.le 0 (Field.jitter.valueIn env) && Binary64.le (Field.jitter.valueIn env) 1

/-- The variable, or for numbers out of range the field, that is named if the demand is not met. -/
def parameter : Demand → String
  | .readable field => field.variableName
  | .knownKind => kindVariable
  | .growing => Field.multiplier.name
  | .fraction => Field.jitter.name

def fault : Demand → Fault
  | .readable field => .notNumeric field.variableName ((env.text? field.variableName).getD "")
  | .knownKind =>
    .unknownStrategy (((env.text? kindVariable).map Text.trim).getD Kind.exponential.name)
  | .growing => .multiplier (Field.multiplier.valueIn env)
  | .fraction => .jitter (Field.jitter.valueIn env)

theorem error_fault (demand : Demand) : (demand.fault env).error =
    .invalidParameter demand.parameter (demand.fault env).reason := by
  cases demand <;> rfl

end Demand

/-- The fields that are read for a kind alone, in the order in which they are read. -/
def Kind.ownFields : Kind → List Field
  | .fixed => []
  | .exponential => [.multiplier, .maxDelayMs, .jitter]
  | .timeout => [.budgetMs]

/-- The ranges that the numbers of a kind must keep to. -/
def Kind.ranges : Kind → List Demand
  | .exponential => [.growing, .fraction]
  | _ => []

def Kind.demands (kind : Kind) : List Demand := kind.ownFields.map .readable ++ kind.ranges

/-- The demands on an environment. -/
def demands (env : Environment) : List Demand :=
  [.readable .maxAttempts, .readable .delayMs] ++
    match selected? env with
    | some kind => kind.demands
    | none => [.knownKind]

/-- The first demand of a list that an environment does not meet. -/
def unmet? (env : Environment) (list : List Demand) : Option Demand :=
  list.find? fun demand => !demand.met env

/-- A reading that gives `a` if the environment meets all demands of a list, and otherwise fails by
the first one that is not met. -/
def Asks {α : Type} (env : Environment) (list : List Demand) (reading : Except Fault α) (a : α) :
    Prop :=
  reading = match unmet? env list with
    | none => .ok a
    | some demand => .error (demand.fault env)

variable {env : Environment}

namespace Asks

variable {α β : Type} {list rest : List Demand} {demand : Demand} {reading : Except Fault α}
  {next : α → Except Fault β} {a a' : α} {b : β}

theorem nothing (a : α) : Asks env [] (.ok a) a := rfl

theorem single (met : demand.met env = true → reading = .ok a)
    (missed : demand.met env = false → reading = .error (demand.fault env)) :
    Asks env [demand] reading a := by
  unfold Asks unmet?
  cases asked : demand.met env with
  | true => simp only [List.find?_cons, asked, Bool.not_true, List.find?_nil, met asked]
  | false => simp only [List.find?_cons, asked, Bool.not_false, missed asked]

/-- What comes second is asked for second. -/
theorem bind (first : Asks env list reading a) (second : Asks env rest (next a) b) :
    Asks env (list ++ rest) (reading >>= next) b := by
  unfold Asks unmet? at *
  rw [first, List.find?_append]
  cases list.find? fun demand => !demand.met env with
  | some demand => rfl
  | none => exact second

theorem eq_ok_iff (asks : Asks env list reading a) :
    reading = .ok a' ↔ (∀ demand ∈ list, demand.met env = true) ∧ a' = a := by
  have all_met : unmet? env list = none ↔ ∀ demand ∈ list, demand.met env = true := by
    simp [unmet?, List.find?_eq_none]
  rw [← all_met, asks]
  cases unmet? env list with
  | none => simp [eq_comm]
  | some demand => simp

theorem eq_error_iff (asks : Asks env list reading a) {fault : Fault} :
    reading = .error fault ↔ ∃ before demand after, list = before ++ demand :: after ∧
      (∀ earlier ∈ before, earlier.met env = true) ∧ demand.met env = false ∧
      fault = demand.fault env := by
  have first {demand : Demand} : unmet? env list = some demand ↔ demand.met env = false ∧
      ∃ before after, list = before ++ demand :: after ∧
        ∀ earlier ∈ before, earlier.met env = true := by
    simp [unmet?, List.find?_eq_some_iff_append]
  have failed : reading = .error fault ↔
      ∃ demand, unmet? env list = some demand ∧ fault = demand.fault env := by
    rw [asks]
    cases unmet? env list with
    | none => simp
    | some demand => simp [eq_comm]
  rw [failed]
  constructor
  · rintro ⟨demand, unmet, same⟩
    obtain ⟨missed, before, after, parts, met⟩ := first.mp unmet
    exact ⟨before, demand, after, parts, met, missed, same⟩
  · rintro ⟨before, demand, after, parts, met, missed, same⟩
    exact ⟨demand, first.mpr ⟨missed, before, after, parts, met⟩, same⟩

end Asks

/-- A variable is asked for a number of the sort that its field needs. -/
theorem asks_numeric {α : Type} (field : Field) (parse : String → Option α)
    (reads : ∀ raw, field.reads raw = (parse (Text.trim raw)).isSome) :
    Asks env [.readable field] (numeric env field.variableName parse)
      ((env.text? field.variableName).bind fun raw => parse (Text.trim raw)) := by
  apply Asks.single
  · intro met
    unfold numeric
    cases held : env.text? field.variableName with
    | none => rfl
    | some raw =>
      have readable : field.reads raw = true := by simpa [Demand.met, held] using met
      rw [reads] at readable
      obtain ⟨found, parsed⟩ := Option.isSome_iff_exists.mp readable
      simp only [parsed, Option.bind_some]
  · intro missed
    unfold numeric
    cases held : env.text? field.variableName with
    | none => simp [Demand.met, held] at missed
    | some raw =>
      have unreadable : field.reads raw = false := by simpa [Demand.met, held] using missed
      rw [reads, Option.isSome_eq_false_iff, Option.isNone_iff_eq_none] at unreadable
      simp only [unreadable, Demand.fault, held, Option.getD_some]

/-- The settings of a kind that an environment describes, whether it meets the demands or not. -/
def settingsIn (env : Environment) : Kind → Settings
  | .fixed => .fixed (Field.maxAttempts.valueIn env) (Field.delayMs.valueIn env)
  | .exponential => .exponential (Field.maxAttempts.valueIn env) (Field.baseDelayMs.valueIn env)
      (Field.multiplier.valueIn env) (Field.maxDelayMs.valueIn env) (Field.jitter.valueIn env)
  | .timeout => .timeout (Field.budgetMs.valueIn env) (Field.delayMs.valueIn env)

theorem eq_settingsIn_iff {c : Settings} {kind : Kind} : c = settingsIn env kind ↔
    c.kind = kind ∧ ∀ field ∈ kind.fields, c.get? field = some (field.valueIn env) := by
  have whole : (Draft.of fun field => some (field.valueIn env)).settings? kind =
      some (settingsIn env kind) := by
    cases kind <;> rfl
  have same : c = settingsIn env kind ↔
      (Draft.of fun field => some (field.valueIn env)).settings? kind = some c := by
    rw [whole, Option.some.injEq, eq_comm]
  rw [same, Draft.settings?_eq_some_iff]
  simp [Draft.get?_of]

theorem valueIn_maxDelayMs : Field.maxDelayMs.valueIn env =
    (env.text? Field.maxDelayMs.variableName).bind fun raw => word64? (Text.trim raw) := by
  unfold Field.valueIn
  cases env.text? Field.maxDelayMs.variableName with
  | none => rfl
  | some raw =>
    simp only [Option.bind_some, Field.parse?]
    cases word64? (Text.trim raw) <;> rfl

/-- What is read for a kind alone. -/
theorem asks_complete (env : Environment) (kind : Kind) :
    Asks env (kind.ownFields.map .readable)
      (complete env (Field.maxAttempts.valueIn env) (Field.delayMs.valueIn env) kind)
      (settingsIn env kind) := by
  cases kind with
  | fixed => exact Asks.nothing _
  | exponential =>
    unfold complete settingsIn
    rw [valueIn_maxDelayMs]
    apply Asks.bind (asks_numeric .multiplier Decimal.read? fun _ => rfl)
    apply Asks.bind (asks_numeric .maxDelayMs word64? fun _ => rfl)
    apply Asks.bind (asks_numeric .jitter Decimal.read? fun _ => rfl)
    exact Asks.nothing _
  | timeout =>
    unfold complete
    apply Asks.bind (asks_numeric .budgetMs word64? fun _ => rfl)
    exact Asks.nothing _

/-- Of the numbers that are not finite, only one is below one. -/
theorem outOfRange_iff (x : Binary64) : (x.isFinite = false ∨ x.lt 1 = true) ↔
    (x.isFinite && Binary64.le 1 x) = false := by
  cases x with
  | nan => simp [Binary64.isFinite]
  | infinite negative => simp [Binary64.isFinite]
  | finite negative m =>
    have order : Binary64.lt (.finite negative m) 1 = !Binary64.le 1 (.finite negative m) := by
      rw [Binary64.one_eq]
      apply Binary64.lt_eq_not_le <;> simp
    simp [Binary64.isFinite, order]

/-- A check of a number. -/
def require (holds : Bool) (fault : Fault) : Except Fault Unit :=
  if holds then .ok () else .error fault

theorem asks_require (demand : Demand) :
    Asks env [demand] (require (demand.met env) (demand.fault env)) () := by
  apply Asks.single
  · intro met
    exact if_pos met
  · intro missed
    exact if_neg (Bool.eq_false_iff.mp missed)

theorem require_bind {α : Type} (holds : Bool) (fault : Fault) (next : Unit → Except Fault α) :
    require holds fault >>= next = if holds then next () else .error fault := by
  cases holds <;> rfl

theorem validate_exponential (maxAttempts : UInt32) (baseDelayMs : UInt64) (multiplier : Binary64)
    (maxDelayMs : Option UInt64) (jitter : Binary64) :
    (exponential maxAttempts baseDelayMs multiplier maxDelayMs jitter).validate =
      require (multiplier.isFinite && Binary64.le 1 multiplier) (.multiplier multiplier) >>=
        fun _ => require (Binary64.le 0 jitter && Binary64.le jitter 1) (.jitter jitter) := by
  rw [require_bind, validate]
  simp only [outOfRange_iff]
  by_cases grows : (multiplier.isFinite && Binary64.le 1 multiplier) = true
  · rw [if_pos grows, if_neg (Bool.not_eq_false _ ▸ grows), require]
  · rw [if_neg grows, if_pos (Bool.eq_false_iff.mpr grows)]

/-- Numbers out of range are looked for in the settings, the multiplier before the jitter. -/
theorem asks_validate (env : Environment) (kind : Kind) :
    Asks env kind.ranges (settingsIn env kind).validate () := by
  cases kind with
  | fixed => exact Asks.nothing ()
  | timeout => exact Asks.nothing ()
  | exponential =>
    have checks := validate_exponential (Field.maxAttempts.valueIn env)
      (Field.baseDelayMs.valueIn env) (Field.multiplier.valueIn env) (Field.maxDelayMs.valueIn env)
      (Field.jitter.valueIn env)
    exact checks ▸ Asks.bind (asks_require .growing) (asks_require .fraction)

/-- The ranges are asked for last. -/
theorem asks_ofEnvironment {kind : Kind} {list : List Demand}
    (described : Asks env list (described? env) (settingsIn env kind)) :
    Asks env (list ++ kind.ranges) (ofEnvironment env) (settingsIn env kind) := by
  apply Asks.bind described
  rw [← List.append_nil kind.ranges]
  apply Asks.bind (asks_validate env kind)
  exact Asks.nothing _

theorem asks_of_selected {kind : Kind} (selects : selected? env = some kind) :
    Asks env (demands env) (ofEnvironment env) (settingsIn env kind) := by
  have described : Asks env
      ([.readable .maxAttempts] ++ ([.readable .delayMs] ++ kind.ownFields.map .readable))
      (described? env) (settingsIn env kind) := by
    rw [described?_of_selected selects]
    apply Asks.bind (asks_numeric .maxAttempts word32? fun _ => rfl)
    apply Asks.bind (asks_numeric .delayMs word64? fun _ => rfl)
    exact asks_complete env kind
  have whole := asks_ofEnvironment described
  rw [demands, selects]
  exact whole

theorem described?_of_unknown (unknown : selected? env = none) :
    described? env = (do
      let _ ← numeric env Field.maxAttempts.variableName word32?
      let _ ← numeric env Field.delayMs.variableName word64?
      .error (Demand.knownKind.fault env)) := by
  have other (kind : Kind) :
      ((env.text? "RELENTLESS_STRATEGY").map Text.trim).getD "exponential" ≠ kind.name := by
    intro same
    have found : selected? env = Kind.ofName? kind.name := congrArg Kind.ofName? same
    rw [unknown] at found
    cases kind <;> contradiction
  unfold described?
  split
  · next name => exact absurd name (other .exponential)
  · next name => exact absurd name (other .fixed)
  · next name => exact absurd name (other .timeout)
  · rfl

/-- An unknown kind is not passed by, so it makes no difference which settings stand here. -/
theorem asks_of_unknown (unknown : selected? env = none) :
    Asks env (demands env) (ofEnvironment env) (settingsIn env .fixed) := by
  have missed :
      Asks env [.knownKind] (.error (Demand.knownKind.fault env)) (settingsIn env .fixed) := by
    apply Asks.single
    · intro met
      simp [Demand.met, unknown] at met
    · intro _
      rfl
  have described : Asks env ([.readable .maxAttempts] ++ ([.readable .delayMs] ++ [.knownKind]))
      (described? env) (settingsIn env .fixed) := by
    rw [described?_of_unknown unknown]
    apply Asks.bind (asks_numeric .maxAttempts word32? fun _ => rfl)
    apply Asks.bind (asks_numeric .delayMs word64? fun _ => rfl)
    exact missed
  have whole := asks_ofEnvironment described
  rw [demands, unknown]
  exact whole

theorem validate_of_ofEnvironment {c : Settings} (accepted : ofEnvironment env = .ok c) :
    c.validate = .ok () := by
  unfold ofEnvironment at accepted
  cases described : described? env with
  | error fault =>
    rw [described] at accepted
    contradiction
  | ok settings =>
    rw [described] at accepted
    cases checked : settings.validate with
    | error fault =>
      simp only [bind, Except.bind, checked] at accepted
      contradiction
    | ok =>
      simp only [bind, Except.bind, checked, pure, Except.pure, Except.ok.injEq] at accepted
      rw [← accepted, checked]

/-- Settings are read exactly where an environment meets all demands on it. They hold what its
variables hold, or the defaults, and can be used: they give a strategy, and leave no error where an
executor is put together. Otherwise the first demand that is not met is named, whatever else is
wrong. -/
theorem ofEnvironment_meets_demands [Pattern.Compiler] (env : Environment) :
    (∀ c, ofEnvironment env = .ok c ↔ (∀ demand ∈ demands env, demand.met env = true) ∧
      ∃ kind, selected? env = some kind ∧ c.kind = kind ∧
        ∀ field ∈ kind.fields, c.get? field = some (field.valueIn env)) ∧
    (∀ c, ofEnvironment env = .ok c → c.validate = .ok () ∧ (∃ s, c.strategy = .ok s) ∧
      ∀ (T E : Type) (b : Blueprint T E), (b.choose (.settings c)).error = b.error) ∧
    (∀ fault, ofEnvironment env = .error fault ↔
      ∃ before demand after, demands env = before ++ demand :: after ∧
        (∀ earlier ∈ before, earlier.met env = true) ∧ demand.met env = false ∧
        fault = demand.fault env) ∧
    ∀ demand : Demand, (demand.fault env).error =
      .invalidParameter demand.parameter (demand.fault env).reason := by
  refine ⟨?_, ?_, ?_, Demand.error_fault env⟩
  · intro c
    cases selects : selected? env with
    | some kind =>
      rw [(asks_of_selected selects).eq_ok_iff, eq_settingsIn_iff]
      simp only [Option.some.injEq, exists_eq_left']
    | none =>
      have unmet : Demand.knownKind ∈ demands env ∧ Demand.knownKind.met env = false := by
        simp [demands, Demand.met, selects]
      rw [(asks_of_unknown selects).eq_ok_iff]
      constructor
      · rintro ⟨met, -⟩
        have known := met _ unmet.1
        rw [unmet.2] at known
        contradiction
      · rintro ⟨-, kind, found, -⟩
        contradiction
  · intro c accepted
    have valid := validate_of_ofEnvironment accepted
    refine ⟨valid, ⟨_, strategy_of_valid valid⟩, ?_⟩
    intro T E b
    have possible : (.settings c : Blueprint.Choice T E).error? = none := by
      simp only [Blueprint.Choice.error?, valid]
    rw [Blueprint.error_choose, possible, Option.or_none]
  · intro fault
    cases selects : selected? env with
    | some kind => exact (asks_of_selected selects).eq_error_iff
    | none => exact (asks_of_unknown selects).eq_error_iff

/-- Growing delays, all of their numbers given, and a variable of another kind that holds none. -/
def generous : Environment := .ofList
  [("RELENTLESS_MAX_ATTEMPTS", .text " 7"), ("RELENTLESS_DELAY_MS", .text "+50"),
    ("RELENTLESS_MULTIPLIER", .text "1.5 "), ("RELENTLESS_MAX_DELAY_MS", .text "5000"),
    ("RELENTLESS_JITTER", .text "5e-1"), ("RELENTLESS_BUDGET_MS", .text "lots")]

/-- A delay that is none, beside a kind that is none and a jitter out of range. -/
def hopeless : Environment := .ofList
  [("RELENTLESS_STRATEGY", .text "forever"), ("RELENTLESS_DELAY_MS", .text "soon"),
    ("RELENTLESS_JITTER", .text "2")]

theorem generous_and_hopeless_read :
    (∃ c s, ofEnvironment generous = .ok c ∧
      c = .exponential 7 50 (.ofRatio false 3 2) (some 5000) .half ∧ c.validate = .ok () ∧
      c.strategy = .ok s) ∧
    ofEnvironment hopeless = .error (.notNumeric "RELENTLESS_DELAY_MS" "soon") := by
  constructor
  · have met : ∀ demand ∈ demands generous, demand.met generous = true := by decide +kernel
    have selects : selected? generous = some .exponential := by decide +kernel
    have held : settingsIn generous .exponential =
        .exponential 7 50 (.ofRatio false 3 2) (some 5000) .half := by decide +kernel
    obtain ⟨reads, usable, -⟩ := ofEnvironment_meets_demands generous
    have accepted := (reads (settingsIn generous .exponential)).mpr
      ⟨met, .exponential, selects, eq_settingsIn_iff.mp rfl⟩
    obtain ⟨valid, ⟨s, strategy⟩, -⟩ := usable _ accepted
    exact ⟨_, s, accepted, held, valid, strategy⟩
  · obtain ⟨-, -, refused, -⟩ := ofEnvironment_meets_demands hopeless
    refine (refused _).mpr ⟨[.readable .maxAttempts], .readable .delayMs, [.knownKind], ?_⟩
    decide +kernel

end Retry.Settings
