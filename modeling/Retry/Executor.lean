import Retry.Execution.Run

/-! An executor holds a strategy, a condition and an observer, and nothing of the
executions it drives: each starts afresh. -/
namespace Retry

structure Executor (T E : Type) where
  strategy : Strategy
  condition : Condition T E
  observer : Observer

/-- How an execution is driven. Only a cancellable one watches its token between
attempts; a blocking one needs a runtime of its own. -/
inductive Mode where
  | plain
  | cancellable
  | blocking
deriving DecidableEq

def Mode.watches : Mode → Bool
  | .cancellable => true
  | _ => false

namespace Executor

variable {T E : Type}

def rules [TextCarrier T] [Chained E] (x : Executor T E) : Rules T E where
  judge := x.condition.verdict
  policy := x.strategy.policy
  text := Chained.message

/-- An execution that starts at `start`. -/
def start (x : Executor T E) (w : Scenario T E) (start : Duration) : Progress T E :=
  ⟨#[.write (.started x.strategy)], .paused (.first start w.token)⟩

/-- At most `limit` rounds of an execution that starts with the clock at zero. -/
def run [TextCarrier T] [Chained E] (x : Executor T E) (mode : Mode) (w : Scenario T E)
    (limit : Nat) : Progress T E :=
  (x.start w .zero).resume x.rules w mode.watches limit

/-- The same for an operation that is run for its effect: its values are discarded before
the condition sees them. -/
def runAction [Chained E] (x : Executor Unit E) (mode : Mode) (w : Scenario T E) (limit : Nat) :
    Progress Unit E :=
  x.run mode w.discard limit

instance : Inspect (Executor T E) where
  inspect x := Text.openRecord "RetryExecutor"
    [("strategy", inspect x.strategy), ("condition", inspect x.condition)]

end Executor
end Retry
