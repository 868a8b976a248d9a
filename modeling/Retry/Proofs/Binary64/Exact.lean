import Mathlib.Data.Nat.BinaryRec
import Mathlib.Data.Nat.Prime.Basic
import Retry.Proofs.Binary64.Power

/-! Computations without rounding. A whole number with 53 significant bits is a number of the
format, and so are its divisors. Whatever a power of whole numbers multiplies on its way divides
the power, so that a power which is a number of the format is computed exactly, squares included,
and no other power is. Exactness is not read off the result: products are formed by a multiplication
that gives nothing where it would have to round. Any other whole number becomes one of the format by
a single rounding, in which its unit does not matter. -/
namespace Retry

open Binary64 (scale spacing overflow OnGrid)

theorem Binary64.two_pow_mul_scale : 2 ^ 1024 * scale = overflow := by decide +kernel

/-- A whole number of the format: at most 53 significant bits, and below 2^1024. -/
structure Representable (n : Nat) : Prop where
  concise : ∃ c s, c ≤ 2 ^ 53 ∧ n = c * 2 ^ s
  small : n < 2 ^ 1024

namespace Representable

variable {d n : Nat}

theorem of_le (small : n ≤ 2 ^ 53) : Representable n where
  concise := ⟨n, 0, small, by rw [Nat.pow_zero, Nat.mul_one]⟩
  small := Nat.lt_of_le_of_lt small (by decide +kernel)

/-- A divisor takes its factors of two from those of the number. -/
theorem of_dvd (whole : Representable n) (pos : 0 < n) (divides : d ∣ n) : Representable d where
  concise := by
    obtain ⟨c, s, bits, rfl⟩ := whole.concise
    obtain ⟨c', t, part, power, rfl⟩ := (Nat.dvd_mul).mp divides
    obtain ⟨s', -, rfl⟩ := (Nat.dvd_prime_pow Nat.prime_two).mp power
    have positive : 0 < c := Nat.pos_of_mul_pos_right pos
    exact ⟨c', s', Nat.le_trans (Nat.le_of_dvd positive part) bits, rfl⟩
  small := Nat.lt_of_le_of_lt (Nat.le_of_dvd pos divides) whole.small

/-- Having few significant bits is being a point of the grid. -/
theorem iff_onGrid : Representable n ↔ OnGrid n ∧ n < 2 ^ 1024 := by
  constructor
  · intro whole
    obtain ⟨c, s, bits, rfl⟩ := whole.concise
    exact ⟨Binary64.onGrid_mul_two_pow bits, whole.small⟩
  · rintro ⟨⟨c, steps⟩, small⟩
    have bits : c < 2 ^ 53 := by
      have bound : spacing n * c < spacing n * 2 ^ 53 := by
        rw [← steps, Nat.mul_comm]
        exact Binary64.lt_spacing_mul n
      exact Nat.lt_of_mul_lt_mul_left bound
    exact ⟨⟨c, n.log2 - 52, Nat.le_of_lt bits, steps.trans (Nat.mul_comm _ _)⟩, small⟩

theorem onGrid (whole : Representable n) : OnGrid (n * scale) := by
  obtain ⟨c, s, bits, rfl⟩ := whole.concise
  have shifted : c * 2 ^ s * scale = c * 2 ^ (s + 1074) := by
    rw [Nat.pow_add, ← Nat.mul_assoc, scale]
  rw [shifted]
  exact Binary64.onGrid_mul_two_pow bits

theorem lt_overflow (whole : Representable n) : n * scale < overflow :=
  Nat.lt_of_lt_of_eq (Nat.mul_lt_mul_of_pos_right whole.small Binary64.scale_pos)
    Binary64.two_pow_mul_scale

end Representable

def Magnitude.ofNat (n : Nat) (whole : Representable n) : Magnitude :=
  ⟨n * scale, whole.lt_overflow, whole.onGrid⟩

namespace Binary64

variable {acc base x y z : Binary64} {bits e m n : Nat}

theorem ofNat_of_representable (whole : Representable n) :
    ofNat n = finite false (.ofNat n whole) := by
  have exactly := ofQuotient_exact false (.ofNat n whole) Nat.one_pos
  rwa [Nat.mul_one] at exactly

theorem nearest_mul_scale (n : Nat) : nearest (n * scale) 1 = nearest n 1 * scale := by
  rw [scale]
  exact nearest_mul_two_pow n 1074

/-- Making a number of a whole one rounds it on its own grid. -/
theorem ofNat_nearest (n : Nat) : ofNat (nearest n 1) = ofNat n := by
  have same : nearest (nearest n 1 * scale) 1 = nearest (n * scale) 1 := by
    rw [nearest_mul_scale, nearest_mul_scale, (nearest_one_eq_self_iff _).mpr (nearest_onGrid n 1)]
  simp only [ofNat, ofRatio, ofQuotient, same]

theorem representable_nearest (small : nearest n 1 < 2 ^ 1024) : Representable (nearest n 1) :=
  Representable.iff_onGrid.mpr ⟨nearest_onGrid n 1, small⟩

theorem ofNat_of_large (large : 2 ^ 1024 ≤ nearest n 1) : ofNat n = infinite false := by
  have reached := Nat.mul_le_mul_right scale large
  rw [two_pow_mul_scale, ← nearest_mul_scale] at reached
  rw [ofNat, ofRatio, ofQuotient, dif_neg (Nat.not_lt.mpr reached)]

/-- The exact product is a number of the format. -/
def Exact : Binary64 → Binary64 → Prop
  | .finite _ l, .finite _ r => ∃ p : Magnitude, p.units * scale = l.units * r.units
  | _, _ => False

theorem exists_units_iff (num : Nat) : (∃ p : Magnitude, p.units * scale = num) ↔
    nearest num scale * scale = num ∧ nearest num scale < overflow := by
  constructor
  · rintro ⟨p, rfl⟩
    rw [nearest_of_onGrid p.onGrid scale_pos]
    exact ⟨rfl, p.lt_overflow⟩
  · rintro ⟨whole, fits⟩
    exact ⟨⟨nearest num scale, fits, nearest_onGrid num scale⟩, whole⟩

theorem representable_of_units {p : Magnitude} (units : p.units = n * scale) : Representable n := by
  have fits := p.lt_overflow
  have exactly := (nearest_one_eq_self_iff _).mpr p.onGrid
  rw [units, ← two_pow_mul_scale] at fits
  rw [units, nearest_mul_scale] at exactly
  have self : nearest n 1 = n := Nat.eq_of_mul_eq_mul_right scale_pos exactly
  exact Representable.iff_onGrid.mpr
    ⟨(nearest_one_eq_self_iff n).mp self, Nat.lt_of_mul_lt_mul_right (a := scale) fits⟩

instance (x y : Binary64) : Decidable (Exact x y) :=
  match x, y with
  | .finite _ l, .finite _ r => decidable_of_iff _ (exists_units_iff (l.units * r.units)).symm
  | .finite .., .nan | .finite .., .infinite _ | .nan, _ | .infinite _, _ => .isFalse id

/-- The product, where it need not be rounded. -/
def mul? (x y : Binary64) : Option Binary64 := if Exact x y then some (x * y) else none

/-- `acc`, multiplied by `base` where the exponent has a one. -/
def digit? (acc base : Binary64) (e : Nat) : Option Binary64 :=
  if e % 2 = 1 then mul? acc base else some acc

/-- The loop that forms powers, as long as nothing is rounded. -/
def powerLoop? : Nat → Binary64 → Binary64 → Nat → Option Binary64
  | 0, acc, base, e => digit? acc base e
  | bits + 1, acc, base, e => do
    let acc ← digit? acc base e
    let base ← mul? base base
    powerLoop? bits acc base (e / 2)

/-- A power that is formed without rounding. -/
def power? (base : Binary64) (e : Nat) : Option Binary64 := powerLoop? e.log2 1 base e

theorem eq_mul_of_mul? (exactly : mul? x y = some z) : z = x * y := by
  unfold mul? at exactly
  split at exactly
  · exact (Option.some.inj exactly).symm
  · cases exactly

theorem eq_digit_of_digit? (exactly : digit? acc base e = some z) :
    z = if e % 2 = 1 then acc * base else acc := by
  unfold digit? at exactly
  split at exactly
  · next odd =>
    rw [if_pos odd]
    exact eq_mul_of_mul? exactly
  · next even =>
    rw [if_neg even]
    exact (Option.some.inj exactly).symm

/-- Where nothing is rounded the loop has done the same. -/
theorem eq_powerLoop_of_powerLoop? (exactly : powerLoop? bits acc base e = some z) :
    z = powerLoop bits acc base e := by
  induction bits generalizing acc base e with
  | zero => exact eq_digit_of_digit? exactly
  | succ bits ih =>
    rw [powerLoop?, Option.bind_eq_bind, Option.bind_eq_some_iff] at exactly
    obtain ⟨acc', first, rest⟩ := exactly
    obtain ⟨square, second, last⟩ := Option.bind_eq_some_iff.mp rest
    rw [powerLoop, ← eq_digit_of_digit? first, ← eq_mul_of_mul? second]
    exact ih last

theorem eq_power_of_power? (exactly : power? base e = some z) : z = base.power e :=
  eq_powerLoop_of_powerLoop? exactly

theorem mul?_ofNat (whole : Representable m) (whole' : Representable n)
    (product : Representable (m * n)) : mul? (ofNat m) (ofNat n) = some (ofNat (m * n)) := by
  have units : (Magnitude.ofNat (m * n) product).units * scale =
      (Magnitude.ofNat m whole).units * (Magnitude.ofNat n whole').units := by
    calc m * n * scale * scale = m * (n * scale) * scale := by rw [Nat.mul_assoc m n]
      _ = m * scale * (n * scale) := Nat.mul_right_comm _ _ _
  rw [ofNat_of_representable whole, ofNat_of_representable whole',
    ofNat_of_representable product]
  have exactly : Exact (finite false (.ofNat m whole)) (finite false (.ofNat n whole')) :=
    ⟨_, units⟩
  rw [mul?, if_pos exactly, finite_mul_finite, ← units, ofQuotient_exact _ _ scale_pos]
  rfl

theorem mul?_ofNat_of_pos (pos : 0 < m * n) (product : Representable (m * n)) :
    mul? (ofNat m) (ofNat n) = some (ofNat (m * n)) :=
  mul?_ofNat (product.of_dvd pos (Nat.dvd_mul_right m n)) (product.of_dvd pos (Nat.dvd_mul_left n m))
    product

/-- Where a product need not be rounded it is a number of the format. -/
theorem representable_of_mul? (whole : Representable m) (whole' : Representable n)
    (exactly : mul? (ofNat m) (ofNat n) = some z) :
    Representable (m * n) ∧ z = ofNat (m * n) := by
  have unrounded : Exact (finite false (.ofNat m whole)) (finite false (.ofNat n whole')) := by
    rw [ofNat_of_representable whole, ofNat_of_representable whole', mul?] at exactly
    by_contra rounded
    rw [if_neg rounded] at exactly
    contradiction
  obtain ⟨p, product⟩ := unrounded
  have units : p.units = m * n * scale := by
    apply Nat.eq_of_mul_eq_mul_right scale_pos
    calc p.units * scale = m * scale * (n * scale) := product
      _ = m * n * scale * scale := by rw [Nat.mul_mul_mul_comm, Nat.mul_assoc (m * n)]
  have held := representable_of_units units
  rw [mul?_ofNat whole whole' held] at exactly
  exact ⟨held, (Option.some.inj exactly).symm⟩

/-- As `powerFrom`, without rounding. -/
def powerFrom? (acc base : Binary64) (e : Nat) : Option Binary64 := powerLoop? e.log2 acc base e

theorem powerFrom?_zero (acc base : Binary64) : powerFrom? acc base 0 = some acc := rfl

theorem powerFrom?_one (acc base : Binary64) : powerFrom? acc base 1 = mul? acc base := rfl

theorem powerFrom?_of_two_le (acc base : Binary64) (large : 2 ≤ e) :
    powerFrom? acc base e = (digit? acc base e).bind fun acc =>
      (mul? base base).bind fun base => powerFrom? acc base (e / 2) := by
  rw [powerFrom?, Nat.log2_def, if_pos large, powerLoop?]
  rfl

theorem powerFrom?_double (acc base : Binary64) (nonzero : e ≠ 0) :
    powerFrom? acc base (2 * e) = (mul? base base).bind fun base => powerFrom? acc base e := by
  have even : 2 * e % 2 ≠ 1 := by omega
  have rest : 2 * e / 2 = e := by omega
  rw [powerFrom?_of_two_le acc base (by omega), digit?, if_neg even, rest]
  rfl

theorem powerFrom?_double_succ (acc base : Binary64) (nonzero : e ≠ 0) :
    powerFrom? acc base (2 * e + 1) = (mul? acc base).bind fun acc =>
      (mul? base base).bind fun base => powerFrom? acc base e := by
  have odd : (2 * e + 1) % 2 = 1 := by omega
  have rest : (2 * e + 1) / 2 = e := by omega
  rw [powerFrom?_of_two_le acc base (by omega), digit?, if_pos odd, rest]

theorem mul_pow_bit_false (m n e : Nat) : m * n ^ Nat.bit false e = m * (n * n) ^ e := by
  rw [Nat.bit_false_apply, Nat.pow_mul, Nat.pow_two]

theorem mul_pow_bit_true (m n e : Nat) : m * n ^ Nat.bit true e = m * n * (n * n) ^ e := by
  rw [Nat.bit_true_apply, Nat.pow_succ, Nat.pow_mul, Nat.pow_two, Nat.mul_comm _ n, Nat.mul_assoc]

/-- The loop multiplies nothing but divisors of the power, the last square included. -/
theorem powerFrom?_ofNat (pos : 0 < m * n ^ e) (whole : Representable (m * n ^ e)) :
    powerFrom? (ofNat m) (ofNat n) e = some (ofNat (m * n ^ e)) := by
  induction e using Nat.binaryRecFromOne generalizing m n with
  | zero => rw [powerFrom?_zero, Nat.pow_zero, Nat.mul_one]
  | one =>
    rw [Nat.pow_one] at pos whole ⊢
    rw [powerFrom?_one]
    exact mul?_ofNat_of_pos pos whole
  | bit odd e nonzero ih =>
    have square_dvd (k : Nat) : n * n ∣ k * (n * n) ^ e :=
      Nat.dvd_mul_left_of_dvd (Nat.dvd_of_pow_dvd (Nat.pos_of_ne_zero nonzero) (Nat.dvd_refl _)) k
    cases odd with
    | false =>
      rw [mul_pow_bit_false] at pos whole ⊢
      have square := whole.of_dvd pos (square_dvd m)
      have positive : 0 < n * n := Nat.pos_of_dvd_of_pos (square_dvd m) pos
      rw [Nat.bit_false_apply, powerFrom?_double _ _ nonzero, mul?_ofNat_of_pos positive square]
      exact ih pos whole
    | true =>
      rw [mul_pow_bit_true] at pos whole ⊢
      have square := whole.of_dvd pos (square_dvd (m * n))
      have positive : 0 < n * n := Nat.pos_of_dvd_of_pos (square_dvd (m * n)) pos
      have first := whole.of_dvd pos (Nat.dvd_mul_right (m * n) _)
      have positive' : 0 < m * n := Nat.pos_of_mul_pos_right pos
      rw [Nat.bit_true_apply, powerFrom?_double_succ _ _ nonzero,
        mul?_ofNat_of_pos positive' first, mul?_ofNat_of_pos positive square]
      exact ih pos whole

/-- The loop gets to its end only if the power is a number of the format. -/
theorem representable_of_powerFrom? (whole : Representable m) (whole' : Representable n)
    (exactly : powerFrom? (ofNat m) (ofNat n) e = some z) : Representable (m * n ^ e) := by
  induction e using Nat.binaryRecFromOne generalizing m n with
  | zero => rwa [Nat.pow_zero, Nat.mul_one]
  | one =>
    rw [powerFrom?_one] at exactly
    rw [Nat.pow_one]
    exact (representable_of_mul? whole whole' exactly).1
  | bit odd e nonzero ih =>
    cases odd with
    | false =>
      rw [Nat.bit_false_apply, powerFrom?_double _ _ nonzero, Option.bind_eq_some_iff] at exactly
      obtain ⟨square, squared, rest⟩ := exactly
      obtain ⟨held, same⟩ := representable_of_mul? whole' whole' squared
      rw [same] at rest
      rw [mul_pow_bit_false]
      exact ih whole held rest
    | true =>
      rw [Nat.bit_true_apply, powerFrom?_double_succ _ _ nonzero, Option.bind_eq_some_iff]
        at exactly
      obtain ⟨product, multiplied, last⟩ := exactly
      obtain ⟨square, squared, rest⟩ := Option.bind_eq_some_iff.mp last
      obtain ⟨held', same'⟩ := representable_of_mul? whole whole' multiplied
      obtain ⟨held, same⟩ := representable_of_mul? whole' whole' squared
      rw [same, same'] at rest
      rw [mul_pow_bit_true]
      exact ih held' held rest

theorem power?_ofNat (pos : 0 < n ^ e) (whole : Representable (n ^ e)) :
    power? (ofNat n) e = some (ofNat (n ^ e)) := by
  rw [← Nat.one_mul (n ^ e)] at pos whole ⊢
  exact powerFrom?_ofNat pos whole

theorem representable_of_power? (whole : Representable n)
    (exactly : power? (ofNat n) e = some z) : Representable (n ^ e) := by
  have one : Representable 1 := .of_le Nat.one_le_two_pow
  rw [← Nat.one_mul (n ^ e)]
  exact representable_of_powerFrom? one whole exactly

end Binary64
end Retry
