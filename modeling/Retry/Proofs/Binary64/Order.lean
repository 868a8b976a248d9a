import Retry.Binary64.Arithmetic
import Retry.Proofs.Binary64.Nearest

/-! Bounds on computed numbers. A positive number of the format that is a lower bound of an
exact result is a lower bound of the rounded one, which may be infinite; an upper bound
keeps the rounded result finite. Multiplying by numbers of at least one, and so raising
them to powers, loses nothing. -/
namespace Retry

namespace Binary64

theorem scale_pos : 0 < scale := by
  rw [scale]
  exact Nat.two_pow_pos 1074

theorem mul_scale_lt_overflow {n : Nat} (small : n ≤ 2 ^ 53) : n * scale < overflow := by
  have wide : 2 ^ 53 * scale < overflow := by decide +kernel
  exact Nat.lt_of_le_of_lt (Nat.mul_le_mul_right _ small) wide

theorem onGrid_mul_scale {n : Nat} (small : n ≤ 2 ^ 53) : OnGrid (n * scale) := by
  rw [scale]
  exact onGrid_mul_two_pow (s := 1074) small

end Binary64

namespace Magnitude

/-- A whole number with at most 53 bits. -/
def whole (n : Nat) (small : n ≤ 2 ^ 53) : Magnitude :=
  ⟨n * Binary64.scale, Binary64.mul_scale_lt_overflow small, Binary64.onGrid_mul_scale small⟩

theorem whole_units {n : Nat} (small : n ≤ 2 ^ 53) : (whole n small).units = n * Binary64.scale := rfl

theorem whole_pos {n : Nat} (small : n ≤ 2 ^ 53) (pos : 0 < n) : 0 < (whole n small).units :=
  Nat.mul_pos pos Binary64.scale_pos

def one : Magnitude := whole 1 (by decide)

theorem one_units : one.units = Binary64.scale := Nat.one_mul _

theorem one_pos : 0 < one.units := whole_pos _ Nat.one_pos

def half : Magnitude := ⟨2 ^ 1073, by decide +kernel, by decide +kernel⟩

theorem two_mul_half : 2 * half.units = Binary64.scale := by decide +kernel

/-- A magnitude with a full significand can be halved: its spacing is not the least one. -/
theorem exists_half {m : Magnitude} (large : 2 ^ 53 ≤ m.units) :
    ∃ h : Magnitude, m.units = 2 * h.units := by
  obtain ⟨k, units⟩ := m.onGrid
  have bits : k < 2 ^ 53 := by
    have bound : Binary64.spacing m.units * k < Binary64.spacing m.units * 2 ^ 53 := by
      rw [← units, Nat.mul_comm]
      exact Binary64.lt_spacing_mul m.units
    exact Nat.lt_of_mul_lt_mul_left bound
  have size : 53 ≤ m.units.log2 := (Nat.le_log2 (by omega)).mpr large
  obtain ⟨s, shift⟩ : ∃ s, m.units.log2 - 52 = s + 1 := ⟨m.units.log2 - 53, by omega⟩
  have twice : m.units = 2 * (k * 2 ^ s) := by
    rw [units, Binary64.spacing, shift, Nat.pow_succ]
    ac_rfl
  have bound := m.lt_overflow
  exact ⟨⟨k * 2 ^ s, by omega, Binary64.onGrid_mul_two_pow (Nat.le_of_lt bits)⟩, twice⟩

end Magnitude

namespace Binary64

variable {g : Magnitude} {x y : Binary64}

theorem le_finite_iff (pos : 0 < g.units) :
    le (.finite false g) x = true ↔
      x = .infinite false ∨ ∃ m, x = .finite false m ∧ g.units ≤ m.units := by
  cases x with
  | nan => simp [le]
  | infinite negative => cases negative <;> simp [le]
  | finite negative m =>
    cases negative with
    | false => simp [le, signed]
    | true =>
      simp [le, signed]
      omega

theorem le_self (pos : 0 < g.units) : le (.finite false g) (.finite false g) = true :=
  (le_finite_iff pos).mpr (.inr ⟨_, rfl, Nat.le_refl _⟩)

/-- A number of the format that an exact quotient reaches is reached by the rounded one. -/
theorem le_ofQuotient {num den : Nat} (reached : g.units * den ≤ num) (pos : 0 < den) :
    le (.finite false g) (ofQuotient false num den) = true := by
  unfold ofQuotient
  split
  · have := le_nearest g.onGrid reached pos
    simpa [le, signed] using this
  · rfl

/-- A rounded quotient is finite below a number of the format, and no larger. -/
theorem ofQuotient_eq_finite {num den : Nat} (negative : Bool) (kept : num ≤ g.units * den)
    (pos : 0 < den) : ∃ m, ofQuotient negative num den = .finite negative m ∧
      m.units = nearest num den ∧ m.units ≤ g.units := by
  have bound := nearest_le g.onGrid kept pos
  unfold ofQuotient
  rw [dif_pos (Nat.lt_of_le_of_lt bound g.lt_overflow)]
  exact ⟨_, rfl, rfl, bound⟩

/-- Rounding a positive number of units neither loses nor gains the sign. -/
theorem ofQuotient_one_eq_finite {n : Nat} (negative : Bool) (pos : 0 < n) (kept : n ≤ g.units) :
    ∃ m, ofQuotient negative n 1 = .finite negative m ∧ 0 < m.units ∧ m.units ≤ g.units := by
  have whole : n ≤ g.units * 1 := by omega
  obtain ⟨m, rounded, units, bound⟩ := ofQuotient_eq_finite negative whole Nat.one_pos
  have lower : 1 ≤ nearest n 1 := le_nearest (onGrid_of_lt (by decide)) (by omega) Nat.one_pos
  exact ⟨m, rounded, by omega, bound⟩

/-- An exact quotient that is a number of the format is the result. -/
theorem ofQuotient_exact (negative : Bool) (g : Magnitude) {den : Nat} (pos : 0 < den) :
    ofQuotient negative (g.units * den) den = .finite negative g := by
  have same := nearest_of_onGrid g.onGrid pos
  have fits : nearest (g.units * den) den < overflow := by
    rw [same]
    exact g.lt_overflow
  unfold ofQuotient
  rw [dif_pos fits]
  congr

theorem ofNat_eq {n : Nat} (small : n ≤ 2 ^ 53) : ofNat n = .finite false (.whole n small) := by
  have exactly := ofQuotient_exact false (.whole n small) Nat.one_pos
  rwa [Nat.mul_one] at exactly

theorem zero_eq : (0 : Binary64) = .finite false (.whole 0 (by decide)) := ofNat_eq (by decide)

theorem one_eq : (1 : Binary64) = .finite false .one := ofNat_eq (by decide)

theorem two_eq : (2 : Binary64) = .finite false (.whole 2 (by decide)) := ofNat_eq (by decide)

/-- A positive number that some number of the format bounds is finite. -/
theorem eq_finite_of_pos (pos : lt 0 x = true) (bound : le x (.finite false g) = true) :
    ∃ m, x = .finite false m ∧ m.units ≠ 0 ∧ m.units ≤ g.units := by
  rw [zero_eq] at pos
  cases x with
  | nan => contradiction
  | infinite negative => cases negative <;> contradiction
  | finite negative m =>
    cases negative with
    | false =>
      have positive : 0 < m.units := by
        simpa [lt, signed, Magnitude.whole] using pos
      exact ⟨m, rfl, by omega, Int.ofNat_le.mp (of_decide_eq_true bound)⟩
    | true =>
      simp [lt, signed, Magnitude.whole] at pos
      omega

theorem half_eq : half = .finite false .half := by
  have exactly := ofQuotient_exact false .half Nat.two_pos
  rw [Nat.mul_comm, Magnitude.two_mul_half, ← Nat.one_mul scale] at exactly
  exact exactly

theorem finite_mul_finite (a b : Bool) (m n : Magnitude) :
    (finite a m * finite b n : Binary64) = ofQuotient (a != b) (m.units * n.units) scale := by
  show mul (finite a m) (finite b n) = _
  rw [mul]

theorem infinite_mul_finite (a b : Bool) {n : Magnitude} (pos : n.units ≠ 0) :
    (infinite a * finite b n : Binary64) = infinite (a != b) := by
  show mul (infinite a) (finite b n) = _
  rw [mul, if_neg pos]

theorem infinite_mul_zero (a b : Bool) {n : Magnitude} (none : n.units = 0) :
    (infinite a * finite b n : Binary64) = nan := by
  show mul (infinite a) (finite b n) = _
  rw [mul, if_pos none]

theorem finite_mul_infinite (a b : Bool) {m : Magnitude} (pos : m.units ≠ 0) :
    (finite a m * infinite b : Binary64) = infinite (a != b) := by
  show mul (finite a m) (infinite b) = _
  rw [mul, if_neg pos]

/-- A product is finite below a number of the format, and no larger. -/
theorem mul_eq_finite (a b : Bool) {m n : Magnitude} (kept : m.units * n.units ≤ g.units * scale) :
    ∃ p, (finite a m * finite b n : Binary64) = finite (a != b) p ∧ p.units ≤ g.units := by
  rw [finite_mul_finite]
  obtain ⟨p, rounded, -, bound⟩ := ofQuotient_eq_finite _ kept scale_pos
  exact ⟨p, rounded, bound⟩

/-- Multiplying by a number of at least one loses nothing. -/
theorem le_mul_of_one_le (pos : 0 < g.units) (below : le (.finite false g) x = true)
    (least : le 1 y = true) : le (.finite false g) (x * y) = true := by
  rw [one_eq, le_finite_iff Magnitude.one_pos, Magnitude.one_units] at least
  rw [le_finite_iff pos] at below
  obtain rfl | ⟨m, rfl, large⟩ := below <;> obtain rfl | ⟨n, rfl, grows⟩ := least
  · rfl
  · have positive : n.units ≠ 0 := by
      have := scale_pos
      omega
    rw [infinite_mul_finite _ _ positive]
    rfl
  · rw [finite_mul_infinite _ _ (by omega)]
    rfl
  · rw [finite_mul_finite]
    exact le_ofQuotient (Nat.mul_le_mul large grows) scale_pos

theorem finite_add_finite (a b : Bool) (m n : Magnitude) :
    (finite a m + finite b n : Binary64) = if signed a m + signed b n = 0 then zero (a && b)
      else ofQuotient (signed a m + signed b n < 0) (signed a m + signed b n).natAbs 1 := by
  show add (finite a m) (finite b n) = _
  rw [add]

/-- A sum with a number of either sign stays at a bound that leaves room for its size. -/
theorem le_finite_add {m n : Magnitude} (s : Bool) (pos : 0 < g.units)
    (room : g.units + n.units ≤ m.units) :
    le (finite false g) (finite false m + finite s n) = true := by
  have sum : (g.units : Int) ≤ signed false m + signed s n := by
    cases s <;> simp [signed] <;> omega
  have positive : ¬ signed false m + signed s n < 0 := by omega
  rw [finite_add_finite, if_neg (by omega), decide_eq_false positive]
  exact le_ofQuotient (by omega) Nat.one_pos

theorem one_le_mul (first : le 1 x = true) (second : le 1 y = true) : le 1 (x * y) = true := by
  rw [one_eq] at first ⊢
  exact le_mul_of_one_le Magnitude.one_pos first second

theorem one_le_powerLoop (bits : Nat) {acc base : Binary64} (e : Nat) (start : le 1 acc = true)
    (grows : le 1 base = true) : le 1 (powerLoop bits acc base e) = true := by
  induction bits generalizing acc base e with
  | zero =>
    rw [powerLoop]
    split
    · exact one_le_mul start grows
    · exact start
  | succ bits ih =>
    rw [powerLoop]
    apply ih
    · split
      · exact one_le_mul start grows
      · exact start
    · exact one_le_mul grows grows

theorem one_le_power {base : Binary64} (grows : le 1 base = true) (e : Nat) :
    le 1 (base.power e) = true := by
  have start : le 1 1 = true := by
    rw [one_eq]
    exact le_self Magnitude.one_pos
  exact one_le_powerLoop e.log2 e start grows

end Binary64
end Retry
