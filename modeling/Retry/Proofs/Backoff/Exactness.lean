import Retry.Proofs.Backoff.Growth
import Retry.Proofs.Binary64.Exact

/-! Delays without rounding. A whole multiplier gives whole delays, and as long as they have 53
significant bits no step of their computation is rounded, unless there is no base delay: then the
power is formed all the same, and it may be rounded before it is lost. Doubling keeps the significant bits of
the base delay, so its delays are exact up to the longest one, and growth does the rest: once a
delay is the longest, so are all that follow, infinite ones included. -/
namespace Retry

open Binary64 (scale)

namespace Duration

variable {n : Nat}

theorem round_ofNat (whole : Representable n) : (Magnitude.ofNat n whole).round = n := by
  have pos := Binary64.scale_pos
  show (2 * (n * scale) + scale) / (2 * scale) = n
  have parts : 2 * (n * scale) + scale = scale + 2 * scale * n := by
    rw [Nat.add_comm, Nat.mul_assoc, Nat.mul_comm n]
  rw [parts, Nat.add_mul_div_left _ _ (by omega), Nat.div_eq_of_lt (by omega), Nat.zero_add]

theorem ofNanos_ofNat (whole : Representable n) :
    ofNanos (.ofNat n) = if n < 2 ^ 64 then ⟨n⟩ else max := by
  have units : (Magnitude.ofNat n whole).units < 2 ^ 64 * scale ↔ n < 2 ^ 64 :=
    Nat.mul_lt_mul_right Binary64.scale_pos
  rw [Binary64.ofNat_of_representable whole, ofNanos_finite, round_ofNat]
  simp only [units]

/-- A base delay doubled with every attempt after the first. -/
def doubled (base : Duration) (attempt : Attempt) : Duration :=
  if base.nanos * 2 ^ (attempt.toNat - 1) < 2 ^ 64 then ⟨base.nanos * 2 ^ (attempt.toNat - 1)⟩
  else max

end Duration

namespace Backoff

variable {b : Backoff} {attempt : Attempt} {m : Nat}

/-- The raw delay, as long as no product on the way is rounded. -/
def raw? (b : Backoff) (attempt : Attempt) : Option Binary64 :=
  (b.multiplier.power? (exponent attempt)).bind fun growth =>
    Binary64.mul? (.ofNat b.baseDelay.nanos) growth

theorem eq_raw_of_raw? {x : Binary64} (exactly : b.raw? attempt = some x) : x = b.raw attempt := by
  obtain ⟨growth, power, product⟩ := Option.bind_eq_some_iff.mp exactly
  rw [raw, ← Binary64.eq_power_of_power? power]
  exact Binary64.eq_mul_of_mul? product

/-- The exponent is not cut where the power is in range. -/
theorem pow_exponent (pos : 0 < m) (small : m ^ exponent attempt < 2 ^ 1024) :
    m ^ exponent attempt = m ^ (attempt.toNat - 1) := by
  rcases Nat.lt_or_eq_of_le pos with large | one
  · have least : 2 ^ exponent attempt ≤ m ^ exponent attempt := Nat.pow_le_pow_left large _
    have few : exponent attempt < 1024 :=
      (Nat.pow_lt_pow_iff_right Nat.one_lt_two).mp (Nat.lt_of_le_of_lt least small)
    have uncut : exponent attempt = attempt.toNat - 1 := by
      unfold exponent at few ⊢
      omega
    rw [uncut]
  · rw [← one, Nat.one_pow, Nat.one_pow]

theorem pow_exponent_lt (pos : 0 < m) (growth : Representable (m ^ (attempt.toNat - 1))) :
    m ^ exponent attempt < 2 ^ 1024 :=
  Nat.lt_of_le_of_lt (Nat.pow_le_pow_right pos (Nat.min_le_left ..)) growth.small

theorem raw?_of_whole (whole : b.multiplier = .ofNat m) (pos : 0 < m)
    (base : Representable b.baseDelay.nanos) (growth : Representable (m ^ (attempt.toNat - 1)))
    (product : Representable (b.baseDelay.nanos * m ^ (attempt.toNat - 1))) :
    b.raw? attempt = some (.ofNat (b.baseDelay.nanos * m ^ (attempt.toNat - 1))) := by
  have power := pow_exponent pos (pow_exponent_lt pos growth)
  rw [← power] at growth product ⊢
  rw [raw?, whole, Binary64.power?_ofNat (Nat.pow_pos pos) growth, Option.bind_some]
  exact Binary64.mul?_ofNat base growth product

/-- The power is formed first, so it has to be a number of the format by itself. -/
theorem representable_of_raw? (whole : b.multiplier = .ofNat m) (pos : 0 < m)
    (held : Representable m) {x : Binary64} (exactly : b.raw? attempt = some x) :
    Representable (m ^ (attempt.toNat - 1)) := by
  obtain ⟨growth, power, _⟩ := Option.bind_eq_some_iff.mp exactly
  rw [whole] at power
  have grown := Binary64.representable_of_power? held power
  rwa [pow_exponent pos grown.small] at grown

theorem nanos_cut (cap : Option Duration) (d : Duration) :
    (cut cap d).nanos = cap.elim d.nanos fun cap => min d.nanos cap.nanos := by
  cases cap with
  | none => rfl
  | some cap =>
    simp only [cut, Option.elim_some]
    by_cases beyond : cap < d
    · rw [if_pos beyond]
      exact (Nat.min_eq_right (Nat.le_of_lt beyond)).symm
    · rw [if_neg beyond]
      exact (Nat.min_eq_left (Nat.le_of_not_lt beyond)).symm

/-- A whole multiplier gives whole delays as long as they take at most 2^53 nanoseconds. Nothing is
rounded on the way to them, squares included, but for powers that no base delay is multiplied
with. -/
theorem delay_of_whole_multiplier (b : Backoff) (steady : b.Steady) {m : Nat}
    (whole : b.multiplier = .ofNat m) (pos : 1 ≤ m) (held : Representable m) (attempt : Attempt)
    (small : b.baseDelay.nanos * m ^ (attempt.toNat - 1) ≤ 2 ^ 53) (draw : Binary64) :
    (b.delay attempt draw).nanos =
        b.maxDelay.elim (b.baseDelay.nanos * m ^ (attempt.toNat - 1)) (fun cap =>
          min (b.baseDelay.nanos * m ^ (attempt.toNat - 1)) cap.nanos) ∧
      (b.raw? attempt = some (.ofNat (b.baseDelay.nanos * m ^ (attempt.toNat - 1))) ↔
        0 < b.baseDelay.nanos ∨ Representable (m ^ (attempt.toNat - 1))) := by
  have grown : 0 < m ^ (attempt.toNat - 1) := Nat.pow_pos pos
  have growth : 0 < b.baseDelay.nanos → Representable (m ^ (attempt.toNat - 1)) := by
    intro base
    exact .of_le (Nat.le_trans (Nat.le_mul_of_pos_left _ base) small)
  have exactly : Representable (m ^ (attempt.toNat - 1)) →
      b.raw? attempt = some (.ofNat (b.baseDelay.nanos * m ^ (attempt.toNat - 1))) := by
    intro power
    have base : b.baseDelay.nanos ≤ 2 ^ 53 := Nat.le_trans (Nat.le_mul_of_pos_right _ grown) small
    exact raw?_of_whole whole pos (.of_le base) power (.of_le small)
  refine ⟨?_, fun formed => Or.inr (representable_of_raw? whole pos held formed), ?_⟩
  · rw [steady.delay_eq, nanos_cut]
    by_cases base : 0 < b.baseDelay.nanos
    · rw [← eq_raw_of_raw? (exactly (growth base)), Duration.ofNanos_ofNat (.of_le small),
        if_pos (Nat.lt_of_le_of_lt small (by decide))]
    · have none : b.baseDelay.nanos = 0 := by omega
      rw [ofNanos_raw_of_no_base none, none, Nat.zero_mul]
      rfl
  · rintro (base | power)
    · exact exactly (growth base)
    · exact exactly power

/-- Seven nanoseconds, tripled with every attempt, up to a cap. -/
def tripling : Backoff :=
  .ofChoices [.baseDelay ⟨7⟩, .multiplier 3, .maxDelay ⟨10 ^ 15⟩]

theorem tripling_delay :
    tripling.Steady ∧ tripling.multiplier = .ofNat 3 ∧ 1 ≤ 3 ∧ Representable 3 ∧
      tripling.baseDelay.nanos * 3 ^ ((31 : Attempt).toNat - 1) ≤ 2 ^ 53 ∧
      (tripling.delay 31 0).nanos = 10 ^ 15 ∧ tripling.raw? 31 = some (.ofNat (7 * 3 ^ 30)) := by
  have steady : tripling.Steady := by decide +kernel
  have whole : tripling.multiplier = .ofNat 3 := by decide +kernel
  have held : Representable 3 := .of_le (by decide)
  have base : tripling.baseDelay.nanos = 7 := by decide +kernel
  have cap : tripling.maxDelay = some ⟨10 ^ 15⟩ := by decide +kernel
  have small : tripling.baseDelay.nanos * 3 ^ ((31 : Attempt).toNat - 1) ≤ 2 ^ 53 := by
    rw [base]
    decide
  obtain ⟨delay, exactly⟩ :=
    delay_of_whole_multiplier tripling steady whole (by decide) held 31 small 0
  rw [base, cap] at delay
  rw [base] at exactly
  exact ⟨steady, whole, by decide, held, small, delay.trans (by decide),
    exactly.mpr (.inl (by decide))⟩

/-- Nothing, tripled with every attempt. -/
def idle : Backoff := .ofChoices [.baseDelay .zero, .multiplier 3]

/-- The power that the missing base delay is multiplied with has 62 significant bits. It is rounded,
and only the zero hides it. -/
theorem idle_rounds :
    idle.Steady ∧ idle.maxDelay = none ∧ idle.multiplier = .ofNat 3 ∧
      idle.baseDelay.nanos * 3 ^ ((40 : Attempt).toNat - 1) ≤ 2 ^ 53 ∧ idle.raw? 40 = none ∧
      idle.multiplier.power (exponent 40) = .ofNat 4052555153018976256 ∧
      3 ^ ((40 : Attempt).toNat - 1) = 4052555153018976267 := by
  refine ⟨?_, rfl, ?_, ?_, ?_, ?_, ?_⟩ <;> decide +kernel

/-- A backoff that doubles a base delay which the numbers hold, without cap and jitter. -/
structure Doubles (b : Backoff) : Prop where
  steady : b.Steady
  multiplier : b.multiplier = .ofNat 2
  uncapped : b.maxDelay = none
  small : b.baseDelay.nanos ≤ 2 ^ 53

theorem doubles_doubling (maxAttempts : UInt32) {base : Duration} (small : base.nanos ≤ 2 ^ 53) :
    (doubling maxAttempts base).Doubles where
  steady := by
    show Binary64.lt 0 0 = false
    decide +kernel
  multiplier := by
    show (2 : Binary64) = .ofNat 2
    rfl
  uncapped := rfl
  small := small

theorem representable_doubled {n : Nat} (small : n ≤ 2 ^ 53) (early : attempt ≤ 65) :
    Representable (n * 2 ^ (attempt.toNat - 1)) where
  concise := ⟨n, attempt.toNat - 1, small, rfl⟩
  small := by
    have few : attempt.toNat ≤ 65 := UInt32.le_iff_toNat_le.mp early
    have grown : 2 ^ (attempt.toNat - 1) ≤ 2 ^ 64 := Nat.pow_le_pow_right Nat.two_pos (by omega)
    exact Nat.lt_of_le_of_lt (Nat.mul_le_mul small grown) (by decide +kernel)

theorem doubled_of_reached {base : Duration}
    (reached : 2 ^ 64 ≤ base.nanos * 2 ^ (attempt.toNat - 1)) : base.doubled attempt = .max := by
  rw [Duration.doubled, if_neg (Nat.not_lt.mpr reached)]

theorem Doubles.ofNanos_raw_of_early (doubles : b.Doubles) (early : attempt ≤ 65) :
    Duration.ofNanos (b.raw attempt) = b.baseDelay.doubled attempt := by
  have growth : Representable (2 ^ (attempt.toNat - 1)) := by
    have alone := representable_doubled (n := 1) (by decide) early
    rwa [Nat.one_mul] at alone
  have product := representable_doubled doubles.small early
  have exactly := raw?_of_whole doubles.multiplier Nat.two_pos (.of_le doubles.small) growth product
  rw [← eq_raw_of_raw? exactly, Duration.ofNanos_ofNat product, Duration.doubled]

/-- The 65th delay is exact and as long as can be, so later ones are neither shorter nor longer. -/
theorem Doubles.ofNanos_raw_of_late (doubles : b.Doubles) (positive : 0 < b.baseDelay.nanos)
    (late : 65 ≤ attempt) : Duration.ofNanos (b.raw attempt) = .max := by
  have grows : Binary64.le 1 b.multiplier = true := by
    rw [doubles.multiplier]
    exact Binary64.ofNat_le_ofNat (by decide)
  have order := ofNanos_raw_le_ofNanos_raw grows late
  have reached : 2 ^ 64 ≤ b.baseDelay.nanos * 2 ^ ((65 : Attempt).toNat - 1) :=
    Nat.le_mul_of_pos_left _ positive
  rw [doubles.ofNanos_raw_of_early (UInt32.le_refl 65), doubled_of_reached reached] at order
  exact Duration.le_antisymm (Duration.ofNanos_le_max _) order

theorem Doubles.delay_eq (doubles : b.Doubles) (attempt : Attempt) (draw : Binary64) :
    b.delay attempt draw = b.baseDelay.doubled attempt := by
  rw [doubles.steady.delay_eq, doubles.uncapped, cut_none]
  by_cases none : b.baseDelay.nanos = 0
  · rw [ofNanos_raw_of_no_base none, Duration.doubled, none, Nat.zero_mul]
    rfl
  by_cases early : attempt ≤ 65
  · exact doubles.ofNanos_raw_of_early early
  · have few : ¬ attempt.toNat ≤ 65 := fun few => early (UInt32.le_iff_toNat_le.mpr few)
    have late : 65 ≤ attempt := UInt32.le_iff_toNat_le.mpr (Nat.le_of_not_le few)
    have reached : 2 ^ 64 ≤ b.baseDelay.nanos * 2 ^ (attempt.toNat - 1) :=
      calc 2 ^ 64 ≤ 2 ^ (attempt.toNat - 1) := Nat.pow_le_pow_right Nat.two_pos (by omega)
        _ ≤ b.baseDelay.nanos * 2 ^ (attempt.toNat - 1) := Nat.le_mul_of_pos_left _ (by omega)
    rw [doubles.ofNanos_raw_of_late (by omega) late, doubled_of_reached reached]

theorem doubled_pos {base : Duration} (positive : 0 < base.nanos) (attempt : Attempt) :
    0 < (base.doubled attempt).nanos := by
  rw [Duration.doubled]
  split
  · exact Nat.mul_pos positive (Nat.two_pow_pos _)
  · decide

theorem doubled_of_later {base : Duration} {later : Attempt}
    (reached : 2 ^ 64 ≤ base.nanos * 2 ^ (attempt.toNat - 1)) (after : attempt ≤ later) :
    base.doubled later = .max := by
  have counts : attempt.toNat ≤ later.toNat := UInt32.le_iff_toNat_le.mp after
  have grown : 2 ^ (attempt.toNat - 1) ≤ 2 ^ (later.toNat - 1) :=
    Nat.pow_le_pow_right Nat.two_pos (by omega)
  exact doubled_of_reached (Nat.le_trans reached (Nat.mul_le_mul_left _ grown))

theorem delay_growing (b : Backoff) (c : Context) (draw : Binary64) :
    (Strategy.growing b).policy.delay c draw = b.delay c.attempt draw := rfl

/-- Doubling, made directly or by a blueprint, is exact until a delay would take 2^64 nanoseconds,
and from then on it waits as long as can be. Where there is a base delay, no wait is left out. -/
theorem doubling_waits [Pattern.Compiler] (maxAttempts : UInt32) (base : Duration)
    (small : base.nanos ≤ 2 ^ 53) :
    (∀ attempt draw, (doubling maxAttempts base).delay attempt draw =
      if base.nanos * 2 ^ (attempt.toNat - 1) < 2 ^ 64 then
        ⟨base.nanos * 2 ^ (attempt.toNat - 1)⟩ else .max) ∧
    (∀ {attempt later : Attempt} draw, 2 ^ 64 ≤ base.nanos * 2 ^ (attempt.toNat - 1) →
      attempt ≤ later → (doubling maxAttempts base).delay later draw = .max) ∧
    (∀ attempt draw, 0 < base.nanos →
      0 < ((doubling maxAttempts base).delay attempt draw).nanos) ∧
    ∀ {T E : Type} (p : Blueprint T E),
      ∃ s, (p.choose (.exponential maxAttempts base)).strategy = some s ∧
        ∀ c draw, s.policy.delay c draw = (doubling maxAttempts base).delay c.attempt draw := by
  have doubles := doubles_doubling maxAttempts small
  refine ⟨doubles.delay_eq, ?_, ?_, ?_⟩
  · intro attempt later draw reached after
    rw [doubles.delay_eq]
    exact doubled_of_later reached after
  · intro attempt draw positive
    rw [doubles.delay_eq]
    exact doubled_pos positive attempt
  · intro T E p
    exact ⟨.growing (doubling maxAttempts base), rfl, delay_growing _⟩

/-- The longest base delay that is sure to be held. -/
theorem doubling_waits_longest :
    (⟨2 ^ 53⟩ : Duration).nanos ≤ 2 ^ 53 ∧
      (doubling 3 ⟨2 ^ 53⟩).delay 11 0 = ⟨2 ^ 63⟩ ∧ (doubling 3 ⟨2 ^ 53⟩).delay 12 0 = .max ∧
      (doubling 3 ⟨2 ^ 53⟩).delay 4294967295 0 = .max := by
  have small : (⟨2 ^ 53⟩ : Duration).nanos ≤ 2 ^ 53 := Nat.le_refl _
  obtain ⟨exactly, later, -⟩ := doubling_waits 3 ⟨2 ^ 53⟩ small
  have reached : 2 ^ 64 ≤ 2 ^ 53 * 2 ^ ((12 : Attempt).toNat - 1) := by decide
  have after : (12 : Attempt) ≤ 4294967295 := by decide
  exact ⟨small, (exactly 11 0).trans (by decide), (exactly 12 0).trans (by decide),
    later 0 reached after⟩

end Backoff
end Retry
