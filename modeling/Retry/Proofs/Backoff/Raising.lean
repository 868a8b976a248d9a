import Retry.Proofs.Backoff.Growth

/-! Raised settings. A longer base delay, a larger multiplier and a higher cap, together or one by
one, never make a delay shorter, whichever attempt it follows. The powers of the multipliers are
formed by the same steps, and each step keeps the order of what it is given; multipliers below one,
whose powers shrink to nothing, are no exception. Where a base delay of zero meets an infinite
power there is no number at all, and that stands for no time, which is what zero stands for. -/
namespace Retry

open Binary64 (le)

namespace Backoff

/-- The order of caps. No cap is the highest one. -/
inductive CapLe : Option Duration → Option Duration → Prop where
  | lifted (cap : Option Duration) : CapLe cap none
  | raised {cap cap' : Duration} (higher : cap ≤ cap') : CapLe (some cap) (some cap')

/-- No setting that a delay depends on is lower in `b'` than in `b`. No multiplier is negative or
no number. -/
structure RaisedTo (b b' : Backoff) : Prop where
  base : b.baseDelay ≤ b'.baseDelay
  nonneg : le 0 b.multiplier = true
  multiplier : le b.multiplier b'.multiplier = true
  cap : CapLe b.maxDelay b'.maxDelay

variable {b b' : Backoff} {attempt : Attempt}

theorem cut_le_self (cap : Option Duration) (d : Duration) : cut cap d ≤ d := by
  cases cap with
  | none => exact Nat.le_refl d.nanos
  | some cap =>
    rw [cut]
    split
    · next beyond => exact Nat.le_of_lt beyond
    · exact Nat.le_refl d.nanos

/-- A higher cap cuts less off. -/
theorem CapLe.cut_le_cut {cap cap' : Option Duration} (order : CapLe cap cap') (d : Duration) :
    cut cap d ≤ cut cap' d := by
  cases order with
  | lifted => exact cut_le_self cap d
  | @raised cap cap' higher =>
    by_cases beyond : cap' < d
    · have cutAgain : cut (some cap') d = cap' := if_pos beyond
      rw [cutAgain]
      exact Nat.le_trans (cut_le cap d) higher
    · have kept : cut (some cap') d = d := if_neg beyond
      rw [kept]
      exact cut_le_self (some cap) d

namespace RaisedTo

theorem ofNanos_raw_le (raised : b.RaisedTo b') (attempt : Attempt) :
    Duration.ofNanos (b.raw attempt) ≤ .ofNanos (b'.raw attempt) := by
  apply Duration.ofNanos_mul_le_ofNanos_mul
  · exact Binary64.zero_le_ofNat b.baseDelay.nanos
  · exact Binary64.ofNat_le_ofNat raised.base
  · exact Binary64.zero_le_power raised.nonneg _
  · exact Binary64.power_le_power_of_base raised.nonneg raised.multiplier _

end RaisedTo

/-- Raising the base delay, the multiplier or the cap of a backoff without jitter never shortens
one of its delays. -/
theorem delay_le_delay_of_raisedTo (b b' : Backoff) (steady : b.Steady) (steady' : b'.Steady)
    (raised : b.RaisedTo b') (attempt : Attempt) (draw draw' : Binary64) :
    b.delay attempt draw ≤ b'.delay attempt draw' := by
  rw [steady.delay_eq, steady'.delay_eq]
  have longer := cut_le_cut b.maxDelay (raised.ofNanos_raw_le attempt)
  have higher := raised.cap.cut_le_cut (.ofNanos (b'.raw attempt))
  exact Nat.le_trans longer higher

/-- Three nanoseconds, halved with every attempt. -/
def fading : Backoff :=
  .ofChoices [.baseDelay ⟨3⟩, .multiplier .half, .maxDelay ⟨2⟩]

/-- As long as can be from the second attempt on. -/
def boundless : Backoff :=
  .ofChoices [.baseDelay ⟨3⟩, .multiplier (.infinite false)]

theorem fading_delay_le_delay :
    fading.Steady ∧ boundless.Steady ∧ fading.RaisedTo boundless ∧
      fading.delay 1 0 ≤ boundless.delay 1 0 ∧ fading.delay 4 0 ≤ boundless.delay 4 0 := by
  have steady : fading.Steady := by decide +kernel
  have steady' : boundless.Steady := by decide +kernel
  have raised : fading.RaisedTo boundless := by
    constructor
    · decide +kernel
    · decide +kernel
    · decide +kernel
    · exact .lifted _
  have order := delay_le_delay_of_raisedTo fading boundless steady steady' raised
  exact ⟨steady, steady', raised, order 1 0 0, order 4 0 0⟩

end Backoff
end Retry
