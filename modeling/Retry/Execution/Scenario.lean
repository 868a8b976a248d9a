import Retry.Condition
import Retry.Policy

/-! What an execution does not decide: what its operation brings, the random draws, how
waits end, and when its token is cancelled. -/
namespace Retry

/-- One call of the operation. It may cancel the execution's token just before it
comes back. -/
structure Call (T E : Type) where
  outcome : Outcome T E
  takes : Duration
  cancels : Bool

/-- The call with its value forgotten. -/
def Call.discard {T E : Type} (c : Call T E) : Call Unit E :=
  ⟨c.outcome.discard, c.takes, c.cancels⟩

/-- A cancellation token: the moment from which it is cancelled, if it ever is. -/
structure Token where
  cancelledFrom : Option Duration
deriving DecidableEq

namespace Token

def never : Token := ⟨none⟩

def cancelledBy (t : Token) (now : Duration) : Bool :=
  t.cancelledFrom.any fun moment => decide (moment ≤ now)

/-- Cancelled at `now` at the latest. -/
def cancel (t : Token) (now : Duration) : Token :=
  if t.cancelledBy now then t else ⟨some now⟩

end Token

/-- When a sleep of a given length is over, by the moment at which it begins. -/
structure Timer where
  wake : Duration → Duration → Duration

namespace Timer

/-- Every sleep takes exactly its length. -/
def exact : Timer := ⟨(· + ·)⟩

/-- A sleep of 2^63 seconds or more has no end on the clock and is cut to 30 years. -/
def span (delay : Duration) : Duration :=
  if 2 ^ 63 * 1000000000 ≤ delay.nanos then ⟨30 * 365 * 86400 * 1000000000⟩ else delay

/-- Every sleep ends at the first whole millisecond at which it is over. -/
def millisecond : Timer :=
  ⟨fun now delay => .ofMillis (((now + span delay).nanos + 999999) / 1000000)⟩

end Timer

/-- The calls and the draws are numbered from zero. -/
structure Scenario (T E : Type) where
  call : Nat → Call T E
  draw : Nat → Binary64
  timer : Timer
  token : Token

/-- The scenario with the values of its operation forgotten. -/
def Scenario.discard {T E : Type} (w : Scenario T E) : Scenario Unit E :=
  { w with call := fun k => (w.call k).discard }

end Retry
