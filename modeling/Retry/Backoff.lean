import Retry.Policy
import Retry.Decimal.Layout

/-! Exponential backoff: the delay grows by `multiplier` with every attempt, varies
by a share `jitter` of itself when that is positive, and is cut at `maxDelay`. The
delay is computed in binary64 numbers of nanoseconds and rounded to a whole number
once, at the end. -/
namespace Retry

structure Backoff where
  maxAttempts : UInt32
  baseDelay : Duration
  multiplier : Binary64
  maxDelay : Option Duration
  jitter : Binary64
deriving DecidableEq

namespace Backoff

instance : Inhabited Backoff where
  default := ⟨3, .ofMillis 100, 2, none, 0⟩

/-- One setting of a backoff. -/
inductive Choice where
  | maxAttempts (n : UInt32)
  | baseDelay (d : Duration)
  | multiplier (x : Binary64)
  | maxDelay (d : Duration)
  | jitter (x : Binary64)
deriving DecidableEq

/-- A zero cap means none, and the jitter is moved into the unit interval. -/
def choose (b : Backoff) : Choice → Backoff
  | .maxAttempts n => { b with maxAttempts := n }
  | .baseDelay d => { b with baseDelay := d }
  | .multiplier x => { b with multiplier := x }
  | .maxDelay d => { b with maxDelay := if d = .zero then none else some d }
  | .jitter x => { b with jitter := x.clamp 0 1 }

/-- The backoff after a sequence of settings, each setting anew what it names. -/
def ofChoices (choices : List Choice) : Backoff := choices.foldl choose default

/-- Doubling from `baseDelay`, without cap and jitter. -/
def doubling (maxAttempts : UInt32) (baseDelay : Duration) : Backoff :=
  ofChoices [.maxAttempts maxAttempts, .baseDelay baseDelay]

/-- The power of the multiplier at an attempt, at most 2^31 - 1. -/
def exponent (attempt : Attempt) : Nat := min (attempt.toNat - 1) (2 ^ 31 - 1)

/-- Nanoseconds before jitter and cap. -/
def raw (b : Backoff) (attempt : Attempt) : Binary64 :=
  .ofNat b.baseDelay.nanos * b.multiplier.power (exponent attempt)

/-- `draw` moves the delay by up to the share `jitter` of it, either way. -/
def spread (b : Backoff) (base draw : Binary64) : Binary64 :=
  if Binary64.lt 0 b.jitter then base + base * b.jitter * (draw - Binary64.half) * 2 else base

def cut (cap : Option Duration) (d : Duration) : Duration :=
  match cap with
  | some cap => if cap < d then cap else d
  | none => d

def delay (b : Backoff) (attempt : Attempt) (draw : Binary64) : Duration :=
  cut b.maxDelay (.ofNanos (b.spread (b.raw attempt) draw))

def policy (b : Backoff) : Policy where
  permits c := c.attempt ≤ b.maxAttempts
  delay c draw := b.delay c.attempt draw

/-- Equality of settings, with the numbers compared by value. -/
def same (a b : Backoff) : Bool :=
  a.maxAttempts == b.maxAttempts && a.baseDelay == b.baseDelay &&
    a.multiplier.same b.multiplier && a.maxDelay == b.maxDelay && a.jitter.same b.jitter

instance : Inspect Backoff where
  inspect b := Text.record "ExponentialBackoff"
    [("max_attempts", inspect b.maxAttempts), ("base_delay", inspect b.baseDelay),
      ("multiplier", inspect b.multiplier), ("max_delay", inspect b.maxDelay),
      ("jitter", inspect b.jitter)]

end Backoff
end Retry
