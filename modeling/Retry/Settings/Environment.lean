import Retry.Settings.Basic
import Retry.Decimal.Reader
import Retry.Text.Blank

/-! Settings from environment variables. The strategy is chosen by name, exponential
when none is named; numbers may have blanks around them. The number of attempts and
the delay are read first and for every strategy, the other variables only for the
strategy that they apply to, and the first fault is the answer. -/
namespace Retry

/-- What a variable holds: text, or bytes that are no text. -/
inductive Variable where
  | text (s : String)
  | bytes
deriving DecidableEq

abbrev Environment := String → Option Variable

namespace Environment

/-- The text of a variable. One that holds no text counts as absent. -/
def text? (env : Environment) (name : String) : Option String :=
  match env name with
  | some (.text s) => some s
  | _ => none

/-- The variables that a list sets. -/
def ofList (vars : List (String × Variable)) : Environment := fun name => vars.lookup name

end Environment

namespace Settings

/-- The value of a variable, if it is set; the whole text stands in the fault. -/
def numeric {α : Type} (env : Environment) (name : String) (parse : String → Option α) :
    Except Fault (Option α) :=
  match env.text? name with
  | none => .ok none
  | some raw =>
    match parse (Text.trim raw) with
    | some a => .ok (some a)
    | none => .error (.notNumeric name raw)

def word32? (s : String) : Option UInt32 := (Decimal.whole? (2 ^ 32) s).map UInt32.ofNat

def word64? (s : String) : Option UInt64 := (Decimal.whole? (2 ^ 64) s).map UInt64.ofNat

/-- The settings that the environment describes, not yet validated. -/
def described? (env : Environment) : Except Fault Settings := do
  let maxAttempts := (← numeric env "RELENTLESS_MAX_ATTEMPTS" word32?).getD defaultMaxAttempts
  let delayMs := (← numeric env "RELENTLESS_DELAY_MS" word64?).getD defaultDelayMs
  match ((env.text? "RELENTLESS_STRATEGY").map Text.trim).getD "exponential" with
  | "exponential" =>
    let multiplier := (← numeric env "RELENTLESS_MULTIPLIER" Decimal.read?).getD defaultMultiplier
    let maxDelayMs ← numeric env "RELENTLESS_MAX_DELAY_MS" word64?
    let jitter := (← numeric env "RELENTLESS_JITTER" Decimal.read?).getD defaultJitter
    pure (.exponential maxAttempts delayMs multiplier maxDelayMs jitter)
  | "fixed" => pure (.fixed maxAttempts delayMs)
  | "timeout" =>
    let budgetMs := (← numeric env "RELENTLESS_BUDGET_MS" word64?).getD defaultBudgetMs
    pure (.timeout budgetMs delayMs)
  | other => .error (.unknownStrategy other)

/-- The valid settings that the environment describes. -/
def ofEnvironment (env : Environment) : Except Fault Settings := do
  let settings ← described? env
  settings.validate
  pure settings

end Settings
end Retry
