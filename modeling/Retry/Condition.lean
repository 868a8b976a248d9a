import Retry.Carrier
import Retry.Pattern

/-! Conditions judge the outcome of an attempt: whether it asks for another one. A
condition is a tree of leaves; a choice between two conditions asks the right one only
when the left one does not ask for another attempt. The verdict lists the predicates
that were evaluated on the way. -/
namespace Retry

/-- What an attempt brought: a value or an error. -/
inductive Outcome (T E : Type) where
  | success (value : T)
  | failure (error : E)
deriving DecidableEq

namespace Outcome

variable {T U E : Type}

def map (f : T → U) : Outcome T E → Outcome U E
  | .success value => .success (f value)
  | .failure error => .failure error

/-- The outcome with its value forgotten. -/
def discard (o : Outcome T E) : Outcome Unit E := o.map fun _ => ()

end Outcome

/-- The answer of a condition, and the names of the predicates it evaluated. -/
structure Verdict where
  retry : Bool
  asked : List String
deriving DecidableEq

/-- A caller's own test. A named one is listed where it is evaluated. -/
structure Predicate (α : Type) where
  name : Option String
  holds : α → Bool

def Predicate.verdict {α : Type} (p : Predicate α) (a : α) : Verdict := ⟨p.holds a, p.name.toList⟩

/-- A pattern for texts, and whether a text asks for a retry by matching or by not
matching. -/
structure PatternRule where
  pattern : Pattern
  retryOnMatch : Bool

namespace PatternRule

/-- Retries texts that do not match. -/
def ofPattern (pattern : Pattern) : PatternRule := ⟨pattern, false⟩

def ofString [Pattern.Compiler] (source : String) : Except Pattern.Fault PatternRule :=
  (Pattern.ofString source).map ofPattern

def onMatch (r : PatternRule) (retryOnMatch : Bool) : PatternRule := { r with retryOnMatch := retryOnMatch }

/-- A value without text asks for nothing. -/
def holds {T : Type} [TextCarrier T] (r : PatternRule) (value : T) : Bool :=
  match TextCarrier.text? value with
  | some text => r.pattern.isMatch text == r.retryOnMatch
  | none => false

instance : Inspect PatternRule where
  inspect r := Text.record "PatternCondition"
    [("pattern", inspect r.pattern), ("should_match_to_retry", inspect r.retryOnMatch)]

end PatternRule

/-- A condition on values of type `T` and errors of type `E`. The predicates name the
type they judge, for display. -/
inductive Condition (T E : Type) where
  | errorKinds (kinds : ErrorKinds)
  | errorPredicate (type : String) (predicate : Predicate E)
  | resultPredicate (type : String) (predicate : Predicate T)
  | pattern (rule : PatternRule)
  | either (left right : Condition T E)
  | shared (inner : Condition T E)

namespace Condition

variable {T E : Type}

def verdict [TextCarrier T] [Chained E] : Condition T E → Outcome T E → Verdict
  | .errorKinds kinds, .failure error => ⟨kinds.holds error, []⟩
  | .errorPredicate _ predicate, .failure error => predicate.verdict error
  | .resultPredicate _ predicate, .success value => predicate.verdict value
  | .pattern rule, .success value => ⟨rule.holds value, []⟩
  | .either left right, outcome =>
    let first := left.verdict outcome
    if first.retry then first
    else
      let second := right.verdict outcome
      ⟨second.retry, first.asked ++ second.asked⟩
  | .shared inner, outcome => inner.verdict outcome
  | _, _ => ⟨false, []⟩

def display : Condition T E → String
  | .errorKinds kinds => inspect kinds
  | .errorPredicate type _ => Text.openRecord "ErrorPredicate" [("error", inspect type)]
  | .resultPredicate type _ => Text.openRecord "ResultPredicate" [("result", inspect type)]
  | .pattern rule => inspect rule
  | .either left right => Text.record "Or" [("left", left.display), ("right", right.display)]
  | .shared inner => inner.display

instance : Inspect (Condition T E) := ⟨display⟩

end Condition
end Retry
