import Retry.Executor
import Retry.Regex

/-! Putting an executor together. Every choice replaces an earlier one of the same
sort; the first choice that cannot be made is remembered, and it is reported when the
executor is built, whatever is chosen after it. Which texts are patterns is for the
compiler to say; where none is named it is that of `Retry.Regex`. -/
namespace Retry

structure Blueprint (T E : Type) where
  strategy : Option Strategy
  condition : Option (Condition T E)
  observer : Option Observer
  error : Option SetupError

namespace Blueprint

/-- The choices that can be made. `onPattern` is the only way to a condition that can
fail, and `settings` the only one to a strategy. -/
inductive Choice (T E : Type) where
  | fixed (maxAttempts : UInt32) (delay : Duration)
  | exponential (maxAttempts : UInt32) (baseDelay : Duration)
  | timeout (budget delay : Duration)
  | strategy (strategy : Strategy)
  | settings (settings : Settings)
  | observer (observer : Observer)
  | condition (condition : Condition T E)
  | onError (kind : String)
  | ifResult (type : String) (predicate : Predicate T)
  | onPattern (source : String) (retryOnMatch : Bool)

variable {T E : Type}

def empty : Blueprint T E := ⟨none, none, none, none⟩

/-- The first error stays. -/
def fail (b : Blueprint T E) (error : SetupError) : Blueprint T E :=
  { b with error := some (b.error.getD error) }

def withStrategy (b : Blueprint T E) (s : Strategy) : Blueprint T E := { b with strategy := some s }

def withCondition (b : Blueprint T E) (c : Condition T E) : Blueprint T E :=
  { b with condition := some c }

/-- A pattern that cannot be read leaves no condition; settings out of range leave the
strategy as it is. -/
def choose [Pattern.Compiler] (b : Blueprint T E) : Choice T E → Blueprint T E
  | .fixed maxAttempts delay => b.withStrategy (.fixed ⟨maxAttempts, delay⟩)
  | .exponential maxAttempts baseDelay => b.withStrategy (.growing (.doubling maxAttempts baseDelay))
  | .timeout budget delay => b.withStrategy (.limited ⟨budget, delay⟩)
  | .strategy s => b.withStrategy s
  | .settings s =>
    match s.strategy with
    | .ok strategy => b.withStrategy strategy
    | .error fault => b.fail fault.error
  | .observer o => { b with observer := some o }
  | .condition c => b.withCondition c
  | .onError kind => b.withCondition (.errorKinds (.of kind))
  | .ifResult type predicate => b.withCondition (.resultPredicate type predicate)
  | .onPattern source retryOnMatch =>
    match PatternRule.ofString source with
    | .ok rule => b.withCondition (.pattern (rule.onMatch retryOnMatch))
    | .error fault => { b with condition := none }.fail (.invalidPattern fault)

def ofChoices [Pattern.Compiler] (choices : List (Choice T E)) : Blueprint T E :=
  choices.foldl choose empty

/-- The executor, unless an error was remembered or a part is missing. -/
def build (b : Blueprint T E) : Except SetupError (Executor T E) :=
  match b.error, b.strategy, b.condition with
  | some error, _, _ => .error error
  | none, none, _ => .error .missingStrategy
  | none, some _, none => .error .missingCondition
  | none, some s, some c => .ok ⟨s, c, b.observer.getD .silent⟩

/-- What is logged of building. -/
def buildRecords (b : Blueprint T E) : List Record :=
  match b.build with
  | .ok x => [.built x.strategy]
  | .error _ => []

/-- All that building does. An operation is for executions only. -/
def buildActions (b : Blueprint T E) : List (Action T E) := b.buildRecords.map .write

instance : Inspect (Blueprint T E) where
  inspect b := Text.openRecord "RetryBuilder"
    [("strategy", inspect b.strategy), ("condition", inspect b.condition),
      ("error", inspect b.error)]

end Blueprint
end Retry
