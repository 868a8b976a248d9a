import Retry.Backoff
import Retry.Proofs.Binary64.Order

/-! The least wait of a backoff. Half the base delay, or the whole cap where that is smaller,
is a lower bound of every delay whose jitter is at most one half, rounding included. The one
exception is a raw delay that has become infinite: moving infinity down by a share of itself
gives no number, and the delay is zero. -/
namespace Retry

open Binary64 (le lt half scale)

namespace Binary64

theorem eq_finite_of_unit {draw : Binary64} (nonneg : le 0 draw = true)
    (below : lt draw 1 = true) :
    ∃ a d, draw = finite a d ∧ 0 ≤ signed a d ∧ signed a d < 2 * Magnitude.half.units := by
  rw [zero_eq] at nonneg
  rw [one_eq] at below
  cases draw with
  | nan => contradiction
  | infinite negative => cases negative <;> contradiction
  | finite a d =>
    have least : 0 ≤ signed a d := by
      simpa [le, signed, Magnitude.whole] using nonneg
    have bound : signed a d < (Magnitude.one.units : Int) := of_decide_eq_true below
    have halves := Magnitude.two_mul_half
    rw [Magnitude.one_units] at bound
    exact ⟨a, d, rfl, least, by omega⟩

/-- A draw from the unit interval, less one half: a number of at most one half, whose sign
says on which side of the middle the draw was. -/
theorem sub_half {draw : Binary64} (nonneg : le 0 draw = true) (below : lt draw 1 = true) :
    ∃ s m, draw - half = finite s m ∧ m.units ≤ Magnitude.half.units ∧
      (le draw half = true ↔ s = true ∨ m.units = 0) := by
  obtain ⟨a, d, rfl, least, most⟩ := eq_finite_of_unit nonneg below
  have difference : finite a d - half = finite a d + finite true .half := by
    rw [half_eq]
    rfl
  have order : le (finite a d) half = true ↔ signed a d ≤ Magnitude.half.units := by
    rw [half_eq]
    exact decide_eq_true_iff
  have lower : signed true .half = -(Magnitude.half.units : Int) := rfl
  rw [difference, order, finite_add_finite, lower]
  by_cases middle : signed a d + -(Magnitude.half.units : Int) = 0
  · rw [if_pos middle]
    exact ⟨_, _, rfl, Nat.zero_le _, fun _ => .inr rfl, fun _ => by omega⟩
  · rw [if_neg middle]
    have size : (signed a d + -(Magnitude.half.units : Int)).natAbs ≤ Magnitude.half.units := by
      omega
    obtain ⟨m, rounded, pos, bound⟩ := ofQuotient_one_eq_finite
      (decide (signed a d + -(Magnitude.half.units : Int) < 0)) (Int.natAbs_pos.mpr middle) size
    refine ⟨_, m, rounded, bound, ?_⟩
    rw [decide_eq_true_eq]
    omega

/-- A share `j` of at most one half, moved by at most one half and doubled, is at most half
of the whole: every step of the product has a bound that is a number of the format. -/
theorem share_eq_finite {m h j u : Magnitude} (s : Bool) (large : 2 ^ 53 ≤ h.units)
    (halved : m.units = 2 * h.units) (share : j.units ≤ Magnitude.half.units)
    (moved : u.units ≤ Magnitude.half.units) :
    ∃ t, finite false m * finite false j * finite s u * 2 = finite s t ∧ t.units ≤ h.units := by
  obtain ⟨q, quartered⟩ := Magnitude.exists_half large
  have one := Magnitude.two_mul_half
  have first : m.units * j.units ≤ h.units * scale := by
    calc m.units * j.units ≤ 2 * h.units * Magnitude.half.units := Nat.mul_le_mul (by omega) share
      _ = h.units * scale := by rw [← one, Nat.mul_comm 2 h.units, Nat.mul_assoc]
  obtain ⟨varied, product, bound⟩ := mul_eq_finite false false first
  have second : varied.units * u.units ≤ q.units * scale := by
    calc varied.units * u.units ≤ 2 * q.units * Magnitude.half.units :=
          Nat.mul_le_mul (by omega) moved
      _ = q.units * scale := by rw [← one, Nat.mul_comm 2 q.units, Nat.mul_assoc]
  obtain ⟨signed, product', bound'⟩ := mul_eq_finite false s second
  have third : signed.units * (2 * scale) ≤ h.units * scale := by
    calc signed.units * (2 * scale) ≤ q.units * (2 * scale) := Nat.mul_le_mul_right _ bound'
      _ = h.units * scale := by rw [quartered, Nat.mul_comm 2 q.units, Nat.mul_assoc]
  obtain ⟨doubled, product'', bound''⟩ := mul_eq_finite (n := .whole 2 (by decide)) s false third
  refine ⟨doubled, ?_, bound''⟩
  rw [two_eq, product, bne_self_eq_false, product',
    Bool.false_bne, product'', Bool.bne_false]

end Binary64

namespace Duration

/-- Rounding to whole nanoseconds keeps a bound of a whole number of half nanoseconds. -/
theorem le_two_mul_ofNanos {n : Nat} {h : Magnitude} {x : Binary64} (small : n ≤ 2 ^ 53)
    (units : n * scale = 2 * h.units) (pos : 0 < h.units) (reached : le (.finite false h) x = true) :
    n ≤ 2 * (ofNanos x).nanos := by
  have longest : n ≤ 2 * max.nanos := Nat.le_trans small (by decide)
  rw [Binary64.le_finite_iff pos] at reached
  obtain rfl | ⟨m, rfl, above⟩ := reached
  · exact longest
  -- a half is rounded up, so that an odd bound is kept as well
  have half_up : (n + 1) / 2 ≤ m.round := by
    rw [Magnitude.round, Nat.le_div_iff_mul_le (Nat.mul_pos Nat.two_pos Binary64.scale_pos)]
    calc (n + 1) / 2 * (2 * scale) = (n + 1) / 2 * 2 * scale := (Nat.mul_assoc _ _ _).symm
      _ ≤ (n + 1) * scale := Nat.mul_le_mul_right _ (Nat.div_mul_le_self _ _)
      _ = n * scale + scale := Nat.succ_mul _ _
      _ ≤ 2 * m.units + scale := by omega
  have positive : m.units ≠ 0 := by omega
  simp only [ofNanos, Bool.false_eq_true, false_or, if_neg positive]
  split
  · exact longest
  · show n ≤ 2 * m.round
    omega

end Duration

namespace Backoff

/-- Settings of a backoff that waits at all and varies a delay by at most half of it. -/
structure Moderate (b : Backoff) : Prop where
  base_pos : 1 ≤ b.baseDelay.nanos
  base_small : b.baseDelay.nanos ≤ 2 ^ 53
  grows : le 1 b.multiplier = true
  jitter_nonneg : le 0 b.jitter = true
  jitter_le_half : le b.jitter half = true
  cap_pos : ∀ cap, b.maxDelay = some cap → cap ≠ .zero

/-- A number that a draw from the unit interval can give. -/
def Draw (x : Binary64) : Prop := le 0 x = true ∧ lt x 1 = true

instance (x : Binary64) : Decidable (Draw x) := inferInstanceAs (Decidable (_ ∧ _))

/-- Twice the least wait in nanoseconds. -/
def floor (b : Backoff) : Nat :=
  match b.maxDelay with
  | some cap => min b.baseDelay.nanos (2 * cap.nanos)
  | none => b.baseDelay.nanos

/-- The raw delay is infinite and the jitter moves it by nothing or downwards. -/
def Collapses (b : Backoff) (attempt : Attempt) (draw : Binary64) : Prop :=
  b.raw attempt = .infinite false ∧ lt 0 b.jitter = true ∧ le draw half = true

variable {b : Backoff} {attempt : Attempt} {draw : Binary64}

/-- Growth never takes a raw delay below the base delay. -/
theorem Moderate.raw_eq (moderate : b.Moderate) (attempt : Attempt) :
    b.raw attempt = .infinite false ∨
      ∃ m, b.raw attempt = .finite false m ∧ b.baseDelay.nanos * scale ≤ m.units := by
  have pos := Magnitude.whole_pos moderate.base_small moderate.base_pos
  rw [← Magnitude.whole_units moderate.base_small, ← Binary64.le_finite_iff pos, raw,
    Binary64.ofNat_eq moderate.base_small]
  exact Binary64.le_mul_of_one_le pos (Binary64.le_self pos) (Binary64.one_le_power moderate.grows _)

/-- Half the base delay is a number of the format, and far from the least one. -/
theorem Moderate.exists_half_base (moderate : b.Moderate) :
    ∃ h : Magnitude, b.baseDelay.nanos * scale = 2 * h.units ∧ 2 ^ 53 ≤ h.units := by
  have wide : 2 * 2 ^ 53 ≤ b.baseDelay.nanos * scale := by
    calc 2 * 2 ^ 53 ≤ scale := by decide +kernel
      _ ≤ b.baseDelay.nanos * scale := Nat.le_mul_of_pos_left _ moderate.base_pos
  rw [← Magnitude.whole_units moderate.base_small] at wide ⊢
  obtain ⟨h, halved⟩ := Magnitude.exists_half (Nat.le_trans (by decide) wide)
  exact ⟨h, halved, by omega⟩

theorem Moderate.jitter_eq (moderate : b.Moderate) (jittered : lt 0 b.jitter = true) :
    ∃ j, b.jitter = .finite false j ∧ j.units ≠ 0 ∧ j.units ≤ Magnitude.half.units := by
  have bound := moderate.jitter_le_half
  rw [Binary64.half_eq] at bound
  exact Binary64.eq_finite_of_pos jittered bound

/-- Moving infinity down gives no number, and so does not moving it. -/
theorem Moderate.spread_of_infinite (moderate : b.Moderate) (drawn : Draw draw)
    (infinite : b.raw attempt = .infinite false) (jittered : lt 0 b.jitter = true) :
    b.spread (b.raw attempt) draw = if le draw half then .nan else .infinite false := by
  obtain ⟨j, jitter, positive, -⟩ := moderate.jitter_eq jittered
  obtain ⟨s, u, moved, -, side⟩ := Binary64.sub_half drawn.1 drawn.2
  rw [spread, if_pos jittered, infinite, jitter, moved, Binary64.infinite_mul_finite _ _ positive]
  by_cases still : u.units = 0
  · rw [Binary64.infinite_mul_zero _ _ still, if_pos (side.mpr (.inr still))]
    rfl
  · have two := Magnitude.whole_pos (by decide) Nat.two_pos
    rw [Binary64.infinite_mul_finite _ _ still, Binary64.two_eq,
      Binary64.infinite_mul_finite _ _ (by omega)]
    cases s with
    | true =>
      rw [if_pos (side.mpr (.inl rfl))]
      rfl
    | false =>
      have up : ¬ le draw half = true := by simp [side, still]
      rw [if_neg up]
      rfl

/-- Where the raw delay is finite, the jitter takes at most half of it away; an infinite one
that is not moved down stays infinite. -/
theorem Moderate.le_spread (moderate : b.Moderate) (drawn : Draw draw) {h : Magnitude}
    (halved : b.baseDelay.nanos * scale = 2 * h.units) (large : 2 ^ 53 ≤ h.units)
    (kept : ¬ b.Collapses attempt draw) :
    le (.finite false h) (b.spread (b.raw attempt) draw) = true := by
  have pos : 0 < h.units := by omega
  have reached := moderate.raw_eq attempt
  rw [halved] at reached
  by_cases jittered : lt 0 b.jitter = true
  · obtain infinite | ⟨m, finite, above⟩ := reached
    · have up : ¬ le draw half = true := fun low => kept ⟨infinite, jittered, low⟩
      rw [moderate.spread_of_infinite drawn infinite jittered, if_neg up]
      rfl
    · obtain ⟨j, jitter, -, share⟩ := moderate.jitter_eq jittered
      obtain ⟨s, u, moved, size, -⟩ := Binary64.sub_half drawn.1 drawn.2
      obtain ⟨k, halved⟩ := Magnitude.exists_half (m := m) (by omega)
      obtain ⟨t, taken, bound⟩ := Binary64.share_eq_finite s (by omega) halved share size
      rw [spread, if_pos jittered, finite, jitter, moved, taken]
      exact Binary64.le_finite_add s pos (by omega)
  · rw [spread, if_neg jittered, Binary64.le_finite_iff pos]
    exact reached.imp_right fun ⟨m, finite, above⟩ => ⟨m, finite, by omega⟩

theorem le_two_mul_cut {d : Duration} (reached : b.baseDelay.nanos ≤ 2 * d.nanos) :
    b.floor ≤ 2 * (cut b.maxDelay d).nanos := by
  unfold floor cut
  cases b.maxDelay with
  | none => exact reached
  | some cap =>
    simp only
    split
    · exact Nat.min_le_right _ _
    · exact Nat.le_trans (Nat.min_le_left _ _) reached

theorem Moderate.floor_pos (moderate : b.Moderate) : 0 < b.floor := by
  have base := moderate.base_pos
  unfold floor
  cases cap : b.maxDelay with
  | none => exact base
  | some cap' =>
    have nonzero : cap'.nanos ≠ 0 := fun none => moderate.cap_pos cap' cap (congrArg Duration.mk none)
    simp only
    omega

theorem cut_zero (cap : Option Duration) : cut cap .zero = .zero := by
  cases cap with
  | none => rfl
  | some cap =>
    simp only [cut]
    exact if_neg (Nat.not_lt_zero _)

theorem Moderate.delay_eq_zero (moderate : b.Moderate) (drawn : Draw draw)
    (collapses : b.Collapses attempt draw) : b.delay attempt draw = .zero := by
  obtain ⟨infinite, jittered, low⟩ := collapses
  rw [delay, moderate.spread_of_infinite drawn infinite jittered, if_pos low]
  exact cut_zero b.maxDelay

theorem Moderate.floor_le (moderate : b.Moderate) (drawn : Draw draw)
    (kept : ¬ b.Collapses attempt draw) : b.floor ≤ 2 * (b.delay attempt draw).nanos := by
  obtain ⟨h, halved, large⟩ := moderate.exists_half_base
  have reached := moderate.le_spread drawn halved large kept
  apply le_two_mul_cut
  exact Duration.le_two_mul_ofNanos moderate.base_small halved (by omega) reached

/-- A backoff keeps its floor exactly where it does not collapse, and where it does it does
not wait at all. -/
theorem floor_le_two_mul_delay (b : Backoff) (attempt : Attempt) (draw : Binary64)
    (moderate : b.Moderate) (drawn : Draw draw) :
    (b.floor ≤ 2 * (b.delay attempt draw).nanos ↔ ¬ b.Collapses attempt draw) ∧
      (b.Collapses attempt draw → b.delay attempt draw = .zero) := by
  refine ⟨⟨?_, moderate.floor_le drawn⟩, moderate.delay_eq_zero drawn⟩
  intro kept collapses
  rw [moderate.delay_eq_zero drawn collapses] at kept
  exact absurd kept (Nat.not_le.mpr moderate.floor_pos)

/-- Its thousandth delay is two seconds doubled beyond the numbers of the format. -/
def runaway : Backoff :=
  .ofChoices [.maxAttempts 1000, .baseDelay ⟨2000000000⟩, .maxDelay ⟨1000000000⟩, .jitter half]

theorem runaway_moderate : runaway.Moderate where
  base_pos := by decide +kernel
  base_small := by decide +kernel
  grows := by decide +kernel
  jitter_nonneg := by decide +kernel
  jitter_le_half := by decide +kernel
  cap_pos := by
    rintro cap same rfl
    contradiction

theorem draw_zero : Draw 0 := by decide +kernel

theorem runaway_floor_le_two_mul_first_delay :
    runaway.Moderate ∧ Draw 0 ∧ runaway.floor ≤ 2 * (runaway.delay 1 0).nanos := by
  have finite : runaway.raw 1 ≠ .infinite false := by decide +kernel
  have kept : ¬ runaway.Collapses 1 0 := fun collapses => finite collapses.1
  exact ⟨runaway_moderate, draw_zero,
    (floor_le_two_mul_delay runaway 1 0 runaway_moderate draw_zero).1.mpr kept⟩

theorem runaway_not_floor_le_two_mul_delay :
    runaway.Moderate ∧ Draw 0 ∧ ¬ runaway.floor ≤ 2 * (runaway.delay 1000 0).nanos := by
  have collapses : runaway.Collapses 1000 0 := by
    refine ⟨?_, ?_, ?_⟩ <;> decide +kernel
  refine ⟨runaway_moderate, draw_zero, ?_⟩
  rw [runaway_moderate.delay_eq_zero draw_zero collapses]
  exact Nat.not_le.mpr runaway_moderate.floor_pos

end Backoff
end Retry
