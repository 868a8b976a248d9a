import Retry.Proofs.Backoff.Exactness

/-! The first delay. No power of the multiplier has an effect on it, not even one of a multiplier
that is no number: it is the base delay, made a number and read as nanoseconds again. A base delay
below 2^64 nanoseconds and with at most 53 significant bits comes back as it was. Any other one is
rounded (`Duration.rounded`), so that it comes back only if it is the longest of all spans, or if
it is rounded up and a cap of its own length takes it down again. -/
namespace Retry

open Binary64 (nearest OnGrid)

namespace Duration

/-- What a span becomes as a number of nanoseconds: the nearest one with 53 significant bits, and
the longest of all from 2^64 nanoseconds on. -/
def rounded (d : Duration) : Duration :=
  if nearest d.nanos 1 < 2 ^ 64 then ⟨nearest d.nanos 1⟩ else max

theorem ofNanos_ofNat_nanos (d : Duration) : ofNanos (.ofNat d.nanos) = d.rounded := by
  by_cases small : nearest d.nanos 1 < 2 ^ 1024
  · rw [← Binary64.ofNat_nearest, ofNanos_ofNat (Binary64.representable_nearest small), rounded]
  · have long : ¬ nearest d.nanos 1 < 2 ^ 64 := by
      intro short
      exact small (Nat.lt_trans short (by decide +kernel))
    rw [Binary64.ofNat_of_large (Nat.le_of_not_lt small), rounded, if_neg long]
    rfl

/-- The longest span has too many significant bits, but it is what all long spans become. -/
theorem rounded_max : rounded max = max := by
  have grid : OnGrid (2 ^ 64) := by
    simpa using Binary64.onGrid_mul_two_pow (m := 1) (s := 64) (by decide)
  have long : 2 ^ 64 ≤ nearest max.nanos 1 := Binary64.le_nearest grid (by decide) Nat.one_pos
  exact if_neg (Nat.not_lt.mpr long)

theorem rounded_of_representable {d : Duration} (whole : Representable d.nanos)
    (short : d.nanos < 2 ^ 64) : d.rounded = d := by
  have kept : nearest d.nanos 1 = d.nanos :=
    (Binary64.nearest_one_eq_self_iff _).mpr (Representable.iff_onGrid.mp whole).1
  rw [rounded, kept, if_pos short]

theorem rounded_eq_self_iff (d : Duration) :
    d.rounded = d ↔ (Representable d.nanos ∧ d.nanos < 2 ^ 64) ∨ d = max := by
  constructor
  · intro same
    unfold rounded at same
    split at same
    · next short =>
      have kept : nearest d.nanos 1 = d.nanos := congrArg nanos same
      rw [kept] at short
      have whole : Representable d.nanos := by
        rw [Representable.iff_onGrid]
        exact ⟨(Binary64.nearest_one_eq_self_iff _).mp kept,
          Nat.lt_trans short (by decide +kernel)⟩
      exact .inl ⟨whole, short⟩
    · exact .inr same.symm
  · rintro (⟨whole, short⟩ | rfl)
    · exact rounded_of_representable whole short
    · exact rounded_max

end Duration

namespace Backoff

variable {b : Backoff}

theorem raw_one (b : Backoff) : b.raw 1 = .ofNat b.baseDelay.nanos := by
  have first : exponent 1 = 0 := rfl
  rw [raw, first, Binary64.power_eq_powerFrom, Binary64.powerFrom_zero, Binary64.mul_comm,
    Binary64.one_mul]

theorem Steady.delay_one_eq (steady : b.Steady) (draw : Binary64) :
    b.delay 1 draw = cut b.maxDelay b.baseDelay.rounded := by
  rw [steady.delay_eq, raw_one, Duration.ofNanos_ofNat_nanos]

/-- A cap that leaves room for `d` makes `d` of nothing else but of what exceeds the cap. -/
theorem cut_eq_iff {cap : Option Duration} {d e : Duration}
    (room : ∀ c, cap = some c → d ≤ c) : cut cap e = d ↔ e = d ∨ (cap = some d ∧ d < e) := by
  cases cap with
  | none => simp [cut]
  | some c =>
    have fits : d.nanos ≤ c.nanos := room c rfl
    rw [cut, Option.some.injEq]
    constructor
    · intro same
      split at same
      · next beyond =>
        subst same
        exact .inr ⟨rfl, beyond⟩
      · exact .inl same
    · rintro (rfl | ⟨rfl, beyond⟩)
      · exact if_neg (Nat.not_lt.mpr fits)
      · exact if_pos beyond

/-- The first delay of a backoff without jitter, whose cap is not below the base delay, is the base
delay itself exactly if the base delay is short enough and has few enough significant bits, or is
the longest span, or is rounded up and cut to itself. In any case it is the base delay rounded. -/
theorem first_delay_eq_base_iff (b : Backoff) (steady : b.Steady)
    (room : ∀ cap, b.maxDelay = some cap → b.baseDelay ≤ cap) (draw : Binary64) :
    (b.delay 1 draw = b.baseDelay ↔
      (Representable b.baseDelay.nanos ∧ b.baseDelay.nanos < 2 ^ 64) ∨ b.baseDelay = .max ∨
        (b.maxDelay = some b.baseDelay ∧ b.baseDelay < b.baseDelay.rounded)) ∧
    b.delay 1 draw = cut b.maxDelay b.baseDelay.rounded := by
  refine ⟨?_, steady.delay_one_eq draw⟩
  rw [steady.delay_one_eq, cut_eq_iff room, Duration.rounded_eq_self_iff, or_assoc]

/-- Nearly fourteen months, eight nanoseconds past a power of two, as a base delay and as a cap. The
multiplier is no number. -/
def erratic : Backoff :=
  .ofChoices [.multiplier .nan, .baseDelay ⟨2 ^ 55 + 8⟩, .maxDelay ⟨2 ^ 55 + 8⟩]

theorem erratic_first_delay :
    erratic.Steady ∧ (∀ cap, erratic.maxDelay = some cap → erratic.baseDelay ≤ cap) ∧
      erratic.delay 1 0 = ⟨2 ^ 55 + 8⟩ := by
  have steady : erratic.Steady := by decide +kernel
  have base : erratic.baseDelay = ⟨2 ^ 55 + 8⟩ := by decide +kernel
  have capped : erratic.maxDelay = some erratic.baseDelay := by decide +kernel
  have room : ∀ cap, erratic.maxDelay = some cap → erratic.baseDelay ≤ cap := by
    intro cap same
    rw [capped] at same
    exact Nat.le_of_eq (congrArg Duration.nanos (Option.some.inj same))
  have whole : Representable (2 ^ 55 + 8) :=
    ⟨⟨2 ^ 52 + 1, 3, by decide, by decide⟩, by decide +kernel⟩
  obtain ⟨exactly, -⟩ := first_delay_eq_base_iff erratic steady room 0
  rw [base] at exactly
  exact ⟨steady, room, exactly.mpr (.inl ⟨whole, by decide⟩)⟩

/-- The shortest base delay that has more significant bits than a number. -/
def unwieldy : Backoff := .doubling 3 ⟨2 ^ 53 + 1⟩

theorem unwieldy_first_delay_ne_base :
    unwieldy.Steady ∧ unwieldy.maxDelay = none ∧ unwieldy.baseDelay = ⟨2 ^ 53 + 1⟩ ∧
      unwieldy.delay 1 0 = ⟨2 ^ 53⟩ ∧ unwieldy.delay 1 0 ≠ unwieldy.baseDelay := by
  refine ⟨?_, ?_, ?_, ?_, ?_⟩ <;> decide +kernel

end Backoff
end Retry
