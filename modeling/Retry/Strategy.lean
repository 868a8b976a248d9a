import Retry.Backoff

/-! The strategies an executor can be given: the three built-in policies, a policy
of the caller's own, and any of them behind a shared reference, which changes
nothing but hides the kind. -/
namespace Retry

inductive Strategy where
  | fixed (count : FixedCount)
  | limited (limit : TimeLimit)
  | growing (backoff : Backoff)
  | custom (display : String) (policy : Policy)
  | shared (inner : Strategy)

/-- A question that a strategy must not be asked. -/
inductive Misuse where
  | attemptZero
deriving DecidableEq

def Misuse.message : Misuse → String
  | .attemptZero => "attempt numbers start at 1"

namespace Strategy

def policy : Strategy → Policy
  | .fixed f => f.policy
  | .limited t => t.policy
  | .growing b => b.policy
  | .custom _ policy => policy
  | .shared inner => inner.policy

/-- Whether the strategy asserts that attempts are numbered from one. -/
def assertsAttempt : Strategy → Bool
  | .custom .. => false
  | .shared inner => inner.assertsAttempt
  | _ => true

/-- Whether another attempt may be made, with the assertion on attempt numbers. -/
def permits? (s : Strategy) (c : Context) : Except Misuse Bool :=
  if s.assertsAttempt ∧ c.attempt = 0 then .error .attemptZero else .ok (s.policy.permits c)

theorem permits?_of_attempt_ne_zero {s : Strategy} {c : Context} (h : c.attempt ≠ 0) :
    s.permits? c = .ok (s.policy.permits c) := by
  simp [permits?, h]

/-- Equality of two unshared strategies of the same built-in kind. -/
def same? : Strategy → Strategy → Option Bool
  | .fixed a, .fixed b => some (a == b)
  | .limited a, .limited b => some (a == b)
  | .growing a, .growing b => some (a.same b)
  | _, _ => none

def display : Strategy → String
  | .fixed f => inspect f
  | .limited t => inspect t
  | .growing b => inspect b
  | .custom text _ => text
  | .shared inner => inner.display

instance : Inspect Strategy := ⟨display⟩

/-- A caller's own strategy that answers from a timetable. -/
def scripted (t : Timetable) : Strategy :=
  .custom
    (Text.record "Scripted"
      [("rounds", Text.list (t.rounds.map fun (again, delay) =>
        "(" ++ inspect again ++ ", " ++ inspect delay ++ ")"))])
    t.policy

end Strategy
end Retry
