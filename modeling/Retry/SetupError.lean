import Retry.Pattern

/-! The errors that a configuration can have. They arise before any attempt. -/
namespace Retry

inductive SetupError where
  | missingStrategy
  | missingCondition
  | invalidPattern (fault : Pattern.Fault)
  | invalidParameter (name reason : String)
deriving DecidableEq

namespace SetupError

def message : SetupError → String
  | .missingStrategy => "retry executor requires a strategy"
  | .missingCondition => "retry executor requires a condition"
  | .invalidPattern fault => "invalid retry pattern: " ++ fault.message
  | .invalidParameter name reason => "invalid value for `" ++ name ++ "`: " ++ reason

/-- Whether another error lies behind this one. -/
def hasSource : SetupError → Bool
  | .invalidPattern _ => true
  | _ => false

/-- The fault of a pattern is left out. -/
instance : Inspect SetupError where
  inspect
    | .missingStrategy => "MissingStrategy"
    | .missingCondition => "MissingCondition"
    | .invalidPattern _ => Text.variant "InvalidPattern" ".."
    | .invalidParameter name reason =>
      Text.record "InvalidParameter" [("name", inspect name), ("reason", inspect reason)]

end SetupError
end Retry
