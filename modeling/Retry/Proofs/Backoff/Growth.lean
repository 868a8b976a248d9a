import Retry.Proofs.Backoff.Cap
import Retry.Proofs.Binary64.Power

/-! Delays that never shrink. Without jitter the delay of a backoff is a power times the base
delay, rounded to nanoseconds and cut at the cap, and each of these steps keeps the order of its
argument. A multiplier of at least one so gives delays that grow from attempt to attempt, also
where they become infinite. Only a base delay of zero has products that are no number: they stand
for the same delay as zero. -/
namespace Retry

open Binary64 (le lt scale)

namespace Duration

variable {m : Magnitude} {x y : Binary64}

theorem round_le (small : m.units < 2 ^ 64 * scale) : m.round ≤ 2 ^ 64 := by
  have pos := Binary64.scale_pos
  rw [Magnitude.round, ← Nat.lt_succ_iff, Nat.div_lt_iff_lt_mul (by omega)]
  omega

theorem round_le_round {m' : Magnitude} (larger : m.units ≤ m'.units) : m.round ≤ m'.round :=
  Nat.div_le_div_right (by omega)

theorem round_zero (none : m.units = 0) : m.round = 0 := by
  have pos := Binary64.scale_pos
  rw [Magnitude.round, none]
  exact Nat.div_eq_of_lt (by omega)

theorem zero_le (d : Duration) : zero ≤ d := Nat.zero_le d.nanos

theorem le_antisymm {d d' : Duration} (shorter : d ≤ d') (longer : d' ≤ d) : d = d' :=
  congrArg mk (Nat.le_antisymm shorter longer)

theorem ofNanos_finite (m : Magnitude) :
    ofNanos (.finite false m) = if m.units < 2 ^ 64 * scale then ⟨m.round⟩ else max := by
  simp only [ofNanos, Bool.false_eq_true, false_or]
  by_cases none : m.units = 0
  · have small : m.units < 2 ^ 64 * scale := by
      rw [none]
      exact Nat.mul_pos (by decide) Binary64.scale_pos
    rw [if_pos none, if_pos small, round_zero none]
    rfl
  · rw [if_neg none]
    split <;> split <;> first | rfl | omega

theorem ofNanos_finite_le_max (m : Magnitude) : ofNanos (.finite false m) ≤ max := by
  rw [ofNanos_finite]
  split
  · next small => exact Nat.le_trans (round_le small) (by decide)
  · exact Nat.le_refl max.nanos

theorem ofNanos_finite_le_ofNanos_finite {m' : Magnitude} (larger : m.units ≤ m'.units) :
    ofNanos (.finite false m) ≤ ofNanos (.finite false m') := by
  rw [ofNanos_finite m']
  split
  · next small =>
    rw [ofNanos_finite m, if_pos (Nat.lt_of_le_of_lt larger small)]
    exact round_le_round larger
  · exact ofNanos_finite_le_max m

/-- Only positive numbers stand for some time. -/
theorem ofNanos_cases (x : Binary64) : ofNanos x = zero ∨ x = .infinite false ∨
    ∃ m, x = .finite false m ∧ 0 < m.units := by
  cases x with
  | nan => exact .inl rfl
  | infinite negative =>
    cases negative with
    | false => exact .inr (.inl rfl)
    | true => exact .inl rfl
  | finite negative m =>
    cases negative with
    | true => exact .inl rfl
    | false =>
      by_cases none : m.units = 0
      · exact .inl (by simp [ofNanos, none])
      · exact .inr (.inr ⟨m, rfl, by omega⟩)

theorem ofNanos_le_max (x : Binary64) : ofNanos x ≤ max := by
  obtain none | rfl | ⟨m, rfl, -⟩ := ofNanos_cases x
  · rw [none]
    exact zero_le max
  · exact Nat.le_refl max.nanos
  · exact ofNanos_finite_le_max m

theorem ofNanos_le_ofNanos (smaller : le x y = true) : ofNanos x ≤ ofNanos y := by
  obtain none | rfl | ⟨m, rfl, pos⟩ := ofNanos_cases x
  · rw [none]
    exact zero_le _
  · obtain rfl : y = .infinite false := Binary64.eq_infinite_of_le smaller
    exact Nat.le_refl max.nanos
  · obtain rfl | ⟨m', rfl, larger⟩ := (Binary64.le_finite_iff pos).mp smaller
    · exact ofNanos_finite_le_max m
    · exact ofNanos_finite_le_ofNanos_finite larger

/-- Zero times anything is a zero or no number. -/
theorem ofNanos_mul_of_le_zero (nonneg : le 0 x = true) (zero : le x 0 = true) (y : Binary64) :
    ofNanos (x * y) = .zero := by
  obtain rfl | ⟨a, m, rfl, sign⟩ := Binary64.zero_le_iff.mp nonneg
  · rw [Binary64.zero_eq] at zero
    cases zero
  · have nothing : m.units = 0 := (Binary64.finite_le_zero_iff sign).mp zero
    cases y with
    | nan => rfl
    | infinite negative =>
      rw [Binary64.mul_comm, Binary64.infinite_mul_zero _ _ nothing]
      rfl
    | finite negative n =>
      rw [Binary64.finite_mul_finite, nothing, Nat.zero_mul,
        Binary64.ofQuotient_zero _ Binary64.scale_pos]
      cases a != negative <;> rfl

/-- A product that is no number stands for the same time as zero, and so does every product of
smaller factors. -/
theorem ofNanos_mul_le_ofNanos_mul {x' y' : Binary64} (nonneg : le 0 x = true)
    (first : le x x' = true) (nonneg' : le 0 y = true) (second : le y y' = true) :
    ofNanos (x * y) ≤ ofNanos (x' * y') := by
  by_cases number' : x' * y' = .nan
  · have above := Binary64.le_trans nonneg first
    have above' := Binary64.le_trans nonneg' second
    have none : ofNanos (x * y) = .zero := by
      rcases Binary64.le_zero_of_mul_eq_nan above above' number' with zero | zero
      · exact ofNanos_mul_of_le_zero nonneg (Binary64.le_trans first zero) y
      · rw [Binary64.mul_comm]
        exact ofNanos_mul_of_le_zero nonneg' (Binary64.le_trans second zero) x
    rw [none]
    exact zero_le _
  · by_cases number : x * y = .nan
    · rw [number]
      exact zero_le _
    · exact ofNanos_le_ofNanos (Binary64.mul_le_mul nonneg first nonneg' second number number')

end Duration

namespace Backoff

/-- A backoff whose delays do not vary. -/
def Steady (b : Backoff) : Prop := Binary64.lt 0 b.jitter = false

instance (b : Backoff) : Decidable b.Steady := inferInstanceAs (Decidable (_ = _))

variable {b : Backoff} {attempt later : Attempt} {draw draw' : Binary64}

theorem Steady.delay_eq (steady : b.Steady) (attempt : Attempt) (draw : Binary64) :
    b.delay attempt draw = cut b.maxDelay (.ofNanos (b.raw attempt)) := by
  rw [delay, spread, steady, if_neg Bool.false_ne_true]

theorem exponent_le_exponent (after : attempt ≤ later) : exponent attempt ≤ exponent later := by
  have counts : attempt.toNat ≤ later.toNat := UInt32.le_iff_toNat_le.mp after
  unfold exponent
  omega

/-- Without a base delay there is nothing to multiply. -/
theorem ofNanos_raw_of_no_base (none : b.baseDelay.nanos = 0) (attempt : Attempt) :
    Duration.ofNanos (b.raw attempt) = .zero := by
  rw [raw, none]
  exact Duration.ofNanos_mul_of_le_zero (Binary64.zero_le_ofNat 0) (Binary64.zero_le_ofNat 0) _

theorem ofNanos_raw_le_ofNanos_raw (grows : le 1 b.multiplier = true) (after : attempt ≤ later) :
    Duration.ofNanos (b.raw attempt) ≤ .ofNanos (b.raw later) := by
  have base := Binary64.zero_le_ofNat b.baseDelay.nanos
  apply Duration.ofNanos_mul_le_ofNanos_mul base (Binary64.le_refl (Binary64.ne_nan_of_le base))
  · exact Binary64.zero_le_power (Binary64.zero_le_of_one_le grows) _
  · exact Binary64.power_le_power grows (exponent_le_exponent after)

theorem cut_none (d : Duration) : cut none d = d := rfl

theorem cut_le_cut (cap : Option Duration) {d d' : Duration} (shorter : d ≤ d') :
    cut cap d ≤ cut cap d' := by
  cases cap with
  | none => exact shorter
  | some cap =>
    simp only [cut]
    by_cases within : cap < d'
    · rw [if_pos within]
      exact cut_le cap d
    · have kept : ¬ cap < d := fun beyond => within (Nat.lt_of_lt_of_le beyond shorter)
      rw [if_neg within, if_neg kept]
      exact shorter

/-- Without jitter, and with a multiplier of at least one, no delay is shorter than an earlier
one, whatever the base delay and the cap are. -/
theorem delay_le_delay_of_later (b : Backoff) (steady : b.Steady)
    (grows : le 1 b.multiplier = true) {attempt later : Attempt} (after : attempt ≤ later)
    (draw draw' : Binary64) : b.delay attempt draw ≤ b.delay later draw' := by
  rw [steady.delay_eq, steady.delay_eq]
  exact cut_le_cut b.maxDelay (ofNanos_raw_le_ofNanos_raw grows after)

/-- Growth by the least possible factor, from a base delay that the numbers cannot hold. -/
def creeping : Backoff :=
  .ofChoices [.multiplier (.ofRatio false (2 ^ 52 + 1) (2 ^ 52)), .baseDelay .max]

/-- From the exponent seven, all ones, to eight. -/
theorem creeping_delay_le_delay :
    creeping.Steady ∧ le 1 creeping.multiplier = true ∧ (8 : Attempt) ≤ 9 ∧
      creeping.delay 8 0 ≤ creeping.delay 9 0 := by
  have steady : creeping.Steady := by decide +kernel
  have grows : le 1 creeping.multiplier = true := by decide +kernel
  have after : (8 : Attempt) ≤ 9 := by decide
  exact ⟨steady, grows, after, delay_le_delay_of_later creeping steady grows after 0 0⟩

end Backoff
end Retry
