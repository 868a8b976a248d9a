import Retry.Carrier

/-! How an execution can fail. -/
namespace Retry

/-- The operation's own error is kept unchanged. -/
inductive RunError (E : Type) where
  | operation (error : E)
  | resultRejected (attempts : Attempt)
  | cancelled (attempts : Attempt)
  | runtime (reason : String)
deriving DecidableEq

namespace RunError

variable {E : Type}

def message [Chained E] : RunError E → String
  | .operation error => Chained.message error
  | .resultRejected n =>
    "result rejected by retry condition after " ++ inspect n ++ " attempt(s)"
  | .cancelled n => "retry cancelled after " ++ inspect n ++ " attempt(s)"
  | .runtime reason => "failed to start blocking retry runtime: " ++ reason

/-- The messages of the errors behind this one. The operation's error does not stand
behind it but in its place. -/
def sources [Chained E] : RunError E → List String
  | .operation error => (Chained.causes error).map Cause.message
  | .runtime reason => [reason]
  | _ => []

def attempts? : RunError E → Option Attempt
  | .resultRejected n | .cancelled n => some n
  | _ => none

def isCancelled : RunError E → Bool
  | .cancelled _ => true
  | _ => false

def isResultRejected : RunError E → Bool
  | .resultRejected _ => true
  | _ => false

def operation? : RunError E → Option E
  | .operation error => some error
  | _ => none

end RunError
end Retry
