import Retry.Pattern
import Retry.Regex.Reader
import Retry.Regex.Matching
import Retry.Regex.Size

/-! A compiler of patterns, for running: nothing that is said about executions depends
on it. -/
namespace Retry.Regex

/-- The expression that a text writes. -/
def compile (source : String) : Except Fault Expr :=
  match Tree.read source with
  | .error fault => .error fault
  | .ok tree =>
    match tree.expr {} with
    | .error fault => .error fault
    | .ok (expr, _) => if expr.isTooLarge then .error .tooLarge else .ok expr

instance : Pattern.Compiler where
  compile source :=
    match compile source with
    | .ok expr => .ok expr.isMatch
    | .error fault => .error ⟨fault.message⟩

end Retry.Regex
