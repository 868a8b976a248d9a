import Retry.Duration

/-! What is known of an execution while it runs: the number of its current
attempt, the clock, and the failure recorded last. Attempts count from one and stop
counting at 2^32 - 1. -/
namespace Retry

abbrev Attempt := UInt32

namespace Attempt

def last : Attempt := 4294967295

/-- The next attempt; the last number is its own successor. -/
def next (n : Attempt) : Attempt := if n = last then n else n + 1

theorem toNat_next (n : Attempt) : n.next.toNat = min (n.toNat + 1) (2 ^ 32 - 1) := by
  have bound := n.toNat_lt
  unfold next
  split
  · next h => subst h; rfl
  · next h =>
    have other : n.toNat ≠ 2 ^ 32 - 1 := fun e => h (UInt32.toNat_inj.mp e)
    simp only [UInt32.toNat_add, UInt32.toNat_one]
    omega

/-- The number under which the `k`-th attempt is known. -/
def ofCount (k : Nat) : Attempt := UInt32.ofNat (min k (2 ^ 32 - 1))

theorem toNat_ofCount (k : Nat) : (ofCount k).toNat = min k (2 ^ 32 - 1) := by
  rw [ofCount, UInt32.toNat_ofNat_of_lt']
  exact Nat.lt_of_le_of_lt (Nat.min_le_right ..) (by decide)

theorem next_ofCount (k : Nat) : (ofCount k).next = ofCount (k + 1) := by
  rw [← UInt32.toNat_inj, toNat_next, toNat_ofCount, toNat_ofCount]
  omega

end Attempt

/-- Why an attempt did not end an execution. -/
inductive Failure where
  | error (text : String)
  | resultRejected
deriving DecidableEq

namespace Failure

def message : Failure → String
  | .error text => text
  | .resultRejected => "result rejected by retry condition"

instance : Inspect Failure where
  inspect
    | .error text => Text.variant "Error" (inspect text)
    | .resultRejected => "ResultRejected"

end Failure

/-- A view of an execution at the moment `now`. -/
structure Context where
  attempt : Attempt
  start : Duration
  now : Duration
  lastFailure : Option Failure
deriving DecidableEq

namespace Context

/-- A fresh context on the given attempt. -/
def fresh (attempt : Attempt) (start : Duration) : Context := ⟨attempt, start, start, none⟩

def elapsed (c : Context) : Duration := c.now - c.start

/-- The context after a further attempt failed. -/
def record (c : Context) (now : Duration) (failure : Failure) : Context :=
  { c with now := now, lastFailure := some failure }

/-- The context of the next attempt. -/
def advance (c : Context) (now : Duration) : Context :=
  { c with attempt := c.attempt.next, now := now }

end Context
end Retry
