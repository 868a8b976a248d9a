import Retry.Strategy
import Retry.SetupError
import Retry.Json.Basic

/-! A built-in strategy described as data, with times in milliseconds. Settings may
hold numbers out of range; `validate` finds the first of them, and only valid
settings give a strategy. -/
namespace Retry

inductive Settings where
  | fixed (maxAttempts : UInt32) (delayMs : UInt64)
  | exponential (maxAttempts : UInt32) (baseDelayMs : UInt64) (multiplier : Binary64)
    (maxDelayMs : Option UInt64) (jitter : Binary64)
  | timeout (budgetMs delayMs : UInt64)
deriving DecidableEq

namespace Settings

def defaultMaxAttempts : UInt32 := 3
def defaultDelayMs : UInt64 := 100
def defaultMultiplier : Binary64 := 2
def defaultJitter : Binary64 := 0

/-- The budget of settings read from the environment; elsewhere it has no default. -/
def defaultBudgetMs : UInt64 := 30000

instance : Inhabited Settings where
  default := .exponential defaultMaxAttempts defaultDelayMs defaultMultiplier none defaultJitter

/-- What is wrong with settings, or with the variables they are read from. -/
inductive Fault where
  | multiplier (x : Binary64)
  | jitter (x : Binary64)
  | unknownStrategy (name : String)
  | notNumeric (name text : String)
deriving DecidableEq

namespace Fault

def parameter : Fault → String
  | .multiplier _ => "multiplier"
  | .jitter _ => "jitter"
  | .unknownStrategy _ => "RELENTLESS_STRATEGY"
  | .notNumeric name _ => name

def reason : Fault → String
  | .multiplier x => "must be a finite number of at least 1.0, got: " ++ Layout.message.render x
  | .jitter x => "must be between 0.0 and 1.0, got: " ++ Layout.message.render x
  | .unknownStrategy name => "expected fixed, exponential or timeout, got: '" ++ name ++ "'"
  | .notNumeric _ text => "must be a valid number, got: '" ++ text ++ "'"

def error (f : Fault) : SetupError := .invalidParameter f.parameter f.reason

end Fault

/-- The first number out of range. -/
def validate : Settings → Except Fault Unit
  | .exponential _ _ multiplier _ jitter =>
    if multiplier.isFinite = false ∨ multiplier.lt 1 then .error (.multiplier multiplier)
    else if Binary64.le 0 jitter && Binary64.le jitter 1 then .ok ()
    else .error (.jitter jitter)
  | _ => .ok ()

def backoff (maxAttempts : UInt32) (baseDelayMs : UInt64) (multiplier : Binary64)
    (maxDelayMs : Option UInt64) (jitter : Binary64) : Backoff :=
  .ofChoices
    ([.maxAttempts maxAttempts, .baseDelay (.ofMillis baseDelayMs.toNat), .multiplier multiplier,
      .jitter jitter] ++ (maxDelayMs.map fun ms => .maxDelay (.ofMillis ms.toNat)).toList)

/-- The strategy described, whatever its numbers. -/
def described : Settings → Strategy
  | .fixed maxAttempts delayMs => .fixed ⟨maxAttempts, .ofMillis delayMs.toNat⟩
  | .exponential maxAttempts baseDelayMs multiplier maxDelayMs jitter =>
    .growing (backoff maxAttempts baseDelayMs multiplier maxDelayMs jitter)
  | .timeout budgetMs delayMs => .limited ⟨.ofMillis budgetMs.toNat, .ofMillis delayMs.toNat⟩

/-- The strategy of valid settings, behind a shared reference. -/
def strategy (s : Settings) : Except Fault Strategy :=
  s.validate.map fun _ => .shared s.described

/-- Equality of settings, with the numbers compared by value. -/
def same : Settings → Settings → Bool
  | .fixed n d, .fixed n' d' => n == n' && d == d'
  | .exponential n b m c j, .exponential n' b' m' c' j' =>
    n == n' && b == b' && m.same m' && c == c' && j.same j'
  | .timeout b d, .timeout b' d' => b == b' && d == d'
  | _, _ => false

instance : Inspect Settings where
  inspect
    | .fixed maxAttempts delayMs => Text.record "Fixed"
      [("max_attempts", inspect maxAttempts), ("delay_ms", inspect delayMs)]
    | .exponential maxAttempts baseDelayMs multiplier maxDelayMs jitter =>
      Text.record "Exponential"
        [("max_attempts", inspect maxAttempts), ("base_delay_ms", inspect baseDelayMs),
          ("multiplier", inspect multiplier), ("max_delay_ms", inspect maxDelayMs),
          ("jitter", inspect jitter)]
    | .timeout budgetMs delayMs => Text.record "Timeout"
      [("budget_ms", inspect budgetMs), ("delay_ms", inspect delayMs)]

/-- The document of settings: an object that names its kind and leaves out an
absent cap. -/
def encode : Settings → Json
  | .fixed maxAttempts delayMs => .object
    [("kind", .string "fixed"), ("max_attempts", .integer maxAttempts.toNat),
      ("delay_ms", .integer delayMs.toNat)]
  | .exponential maxAttempts baseDelayMs multiplier maxDelayMs jitter => .object
    ([("kind", .string "exponential"), ("max_attempts", .integer maxAttempts.toNat),
      ("base_delay_ms", .integer baseDelayMs.toNat), ("multiplier", .float multiplier)] ++
      (maxDelayMs.map fun ms => ("max_delay_ms", Json.integer ms.toNat)).toList ++
      [("jitter", .float jitter)])
  | .timeout budgetMs delayMs => .object
    [("kind", .string "timeout"), ("budget_ms", .integer budgetMs.toNat),
      ("delay_ms", .integer delayMs.toNat)]

end Settings
end Retry
