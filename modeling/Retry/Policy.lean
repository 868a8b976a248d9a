import Retry.Context

/-! A policy says, after a failed or rejected attempt, whether another may be made
and how long to wait for it. Both answers are functions of the context alone, so one
policy serves any number of executions; a delay may also use a random draw from the
half-open unit interval, which is an argument. -/
namespace Retry

structure Policy where
  permits : Context → Bool
  delay : Context → Binary64 → Duration

/-- Up to `maxAttempts` further attempts after the first, equally spaced. -/
structure FixedCount where
  maxAttempts : UInt32
  delay : Duration
deriving DecidableEq

namespace FixedCount

def policy (f : FixedCount) : Policy where
  permits c := c.attempt ≤ f.maxAttempts
  delay _ _ := f.delay

instance : Inspect FixedCount where
  inspect f := Text.record "FixedCount"
    [("max_attempts", inspect f.maxAttempts), ("delay", inspect f.delay)]

end FixedCount

/-- Attempts for as long as the execution is younger than `budget`. The age is taken
before each wait, so the last wait may end after the budget. -/
structure TimeLimit where
  budget : Duration
  delay : Duration
deriving DecidableEq

namespace TimeLimit

def policy (t : TimeLimit) : Policy where
  permits c := c.elapsed < t.budget
  delay _ _ := t.delay

instance : Inspect TimeLimit where
  inspect t := Text.record "TimeoutBound"
    [("budget", inspect t.budget), ("delay", inspect t.delay)]

end TimeLimit

/-- A prepared list of answers, one for each attempt, the last of which repeats. -/
structure Timetable where
  rounds : List (Bool × Duration)
deriving DecidableEq

namespace Timetable

def entry (t : Timetable) (attempt : Attempt) : Bool × Duration :=
  (t.rounds[min attempt.toNat t.rounds.length - 1]?).getD (false, .zero)

def policy (t : Timetable) : Policy where
  permits c := (t.entry c.attempt).1
  delay c _ := (t.entry c.attempt).2

end Timetable
end Retry
