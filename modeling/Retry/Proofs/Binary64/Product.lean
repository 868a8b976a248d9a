import Retry.Proofs.Binary64.Order

/-! The order of products. Rounding keeps the order of quotients, so a product of numbers that
are not below zero grows with each of its factors, through overflow as well. The one exception
is a product that is no number, of zero and infinity. It does not arise among numbers on the same
side of one (`SameSide`), and their products stay there. -/
namespace Retry.Binary64

variable {x x' y y' z : Binary64} {a a' : Bool} {m m' : Magnitude}

theorem le_trans (first : le x y = true) (second : le y z = true) : le x z = true := by
  cases x <;> cases y <;> cases z <;> grind [le]

theorem ne_nan_of_le (below : le x y = true) : y ≠ nan := by
  rintro rfl
  cases x <;> contradiction

theorem le_refl (number : x ≠ nan) : le x x = true := by
  cases x with
  | nan => contradiction
  | infinite negative => cases negative <;> rfl
  | finite => simp [le]

theorem le_total (number : x ≠ nan) (number' : y ≠ nan) : le x y = true ∨ le y x = true := by
  cases x <;> cases y <;> grind [le]

theorem lt_nan (x : Binary64) : lt x nan = false := by
  cases x <;> rfl

theorem lt_eq_not_le (number : x ≠ nan) (number' : y ≠ nan) : lt x y = !le y x := by
  cases x <;> cases y <;> grind [le, lt]

/-- A number is moved between the bounds, and what is no number is not. -/
theorem le_clamp_and_clamp_le {lo hi : Binary64} (order : le lo hi = true) (number : x ≠ nan) :
    le lo (x.clamp lo hi) = true ∧ le (x.clamp lo hi) hi = true := by
  have bound' : hi ≠ nan := ne_nan_of_le order
  have bound : lo ≠ nan := by
    rintro rfl
    contradiction
  unfold clamp
  split
  · exact ⟨le_refl bound, order⟩
  · next above =>
    split
    · exact ⟨order, le_refl bound'⟩
    · next below =>
      rw [lt_eq_not_le number bound] at above
      rw [lt_eq_not_le bound' number] at below
      exact ⟨by simpa using above, by simpa using below⟩

theorem nan_clamp (lo hi : Binary64) : clamp nan lo hi = nan := by
  rw [clamp, lt_nan]
  rfl

theorem le_infinite (number : x ≠ nan) : le x (infinite false) = true := by
  cases x with
  | nan => contradiction
  | infinite negative => cases negative <;> rfl
  | finite => rfl

theorem eq_infinite_of_le (above : le (infinite false) x = true) : x = infinite false := by
  cases x with
  | nan => contradiction
  | infinite negative =>
    cases negative with
    | false => rfl
    | true => contradiction
  | finite => contradiction

/-- Of the numbers that are not below zero, only a zero can have the negative sign. -/
theorem zero_le_iff : le 0 x = true ↔
    x = infinite false ∨ ∃ a m, x = finite a m ∧ (a = true → m.units = 0) := by
  rw [zero_eq]
  cases x with
  | nan => simp [le]
  | infinite negative => cases negative <;> simp [le]
  | finite negative m => cases negative <;> simp [le, signed, Magnitude.whole]

theorem finite_le_finite_iff (sign : a = true → m.units = 0) (sign' : a' = true → m'.units = 0) :
    le (finite a m) (finite a' m') = true ↔ m.units ≤ m'.units := by
  cases a <;> cases a' <;> simp_all [le, signed]

theorem finite_le_zero_iff (sign : a = true → m.units = 0) :
    le (finite a m) 0 = true ↔ m.units = 0 := by
  rw [zero_eq, finite_le_finite_iff sign (fun _ => Nat.zero_mul _), Magnitude.whole_units,
    Nat.zero_mul, Nat.le_zero]

theorem nearest_zero {den : Nat} (pos : 0 < den) : nearest 0 den = 0 := by
  have point := nearest_of_onGrid (g := 0) (onGrid_of_lt (by decide)) pos
  rwa [Nat.zero_mul] at point

theorem ofQuotient_zero (a : Bool) {den : Nat} (pos : 0 < den) : ofQuotient a 0 den = zero a := by
  have exactly := ofQuotient_exact a ⟨0, overflow_pos, onGrid_of_lt (by decide)⟩ pos
  rwa [Nat.zero_mul] at exactly

/-- Rounding keeps the order of quotients, whatever the sign of zero. -/
theorem ofQuotient_le_ofQuotient {num num' den : Nat} (pos : 0 < den)
    (sign : a = true → num = 0) (sign' : a' = true → num' = 0) (smaller : num ≤ num') :
    le (ofQuotient a num den) (ofQuotient a' num' den) = true := by
  have order := nearest_mono smaller pos
  have least {s : Bool} {n : Nat} (none : s = true → n = 0) (negative : s = true) :
      nearest n den = 0 := by
    rw [none negative, nearest_zero pos]
  unfold ofQuotient
  by_cases fits : nearest num' den < overflow
  · rw [dif_pos fits, dif_pos (Nat.lt_of_le_of_lt order fits)]
    exact (finite_le_finite_iff (least sign) (least sign')).mpr order
  · have positive : a' = false := by
      cases a' with
      | false => rfl
      | true =>
        rw [least sign' rfl] at fits
        exact absurd overflow_pos fits
    rw [dif_neg fits, positive]
    apply le_infinite
    split <;> simp

theorem ofQuotient_ne_nan (a : Bool) (num den : Nat) : ofQuotient a num den ≠ nan := by
  unfold ofQuotient
  split <;> simp

theorem ofNat_le_ofNat {n n' : Nat} (smaller : n ≤ n') : le (ofNat n) (ofNat n') = true := by
  have scaled := Nat.mul_le_mul_right scale smaller
  rw [ofNat, ofNat, ofRatio, ofRatio]
  exact ofQuotient_le_ofQuotient Nat.one_pos nofun nofun scaled

theorem zero_le_ofNat (n : Nat) : le 0 (ofNat n) = true := ofNat_le_ofNat (Nat.zero_le n)

theorem product_sign {a b : Bool} {m n : Magnitude} (sign : a = true → m.units = 0)
    (sign' : b = true → n.units = 0) (negative : (a != b) = true) : m.units * n.units = 0 := by
  cases a with
  | true => rw [sign rfl, Nat.zero_mul]
  | false =>
    rw [Bool.false_bne] at negative
    rw [sign' negative, Nat.mul_zero]

theorem infinite_mul (nonneg : le 0 y = true) (number : infinite false * y ≠ nan) :
    infinite false * y = infinite false := by
  obtain rfl | ⟨b, n, rfl, sign⟩ := zero_le_iff.mp nonneg
  · rfl
  · by_cases none : n.units = 0
    · exact absurd (infinite_mul_zero false b none) number
    · have positive : b = false := by
        cases b with
        | false => rfl
        | true => exact absurd (sign rfl) none
      rw [infinite_mul_finite false b none, positive]
      rfl

theorem mul_comm (x y : Binary64) : x * y = y * x := by
  show mul x y = mul y x
  cases x <;> cases y <;> simp only [mul, Bool.xor_comm, Nat.mul_comm]

/-- A product that is a number grows with its factors. -/
theorem mul_le_mul (nonneg : le 0 x = true) (first : le x x' = true) (nonneg' : le 0 y = true)
    (second : le y y' = true) (number : x * y ≠ nan) (number' : x' * y' ≠ nan) :
    le (x * y) (x' * y') = true := by
  have above := le_trans nonneg first
  have above' := le_trans nonneg' second
  obtain rfl | ⟨c, p, rfl, sign⟩ := zero_le_iff.mp above
  · rw [infinite_mul above' number']
    exact le_infinite number
  obtain rfl | ⟨d, q, rfl, sign'⟩ := zero_le_iff.mp above'
  · rw [mul_comm] at number'
    rw [mul_comm (finite c p), infinite_mul above number']
    exact le_infinite number
  obtain rfl | ⟨a, m, rfl, start⟩ := zero_le_iff.mp nonneg
  · simp [le] at first
  obtain rfl | ⟨b, n, rfl, start'⟩ := zero_le_iff.mp nonneg'
  · simp [le] at second
  rw [finite_le_finite_iff start sign] at first
  rw [finite_le_finite_iff start' sign'] at second
  rw [finite_mul_finite, finite_mul_finite]
  refine ofQuotient_le_ofQuotient scale_pos ?_ ?_ (Nat.mul_le_mul first second)
  · exact product_sign start start'
  · exact product_sign sign sign'

/-- A product of numbers that are not below zero is no number only if one of them is zero. -/
theorem le_zero_of_mul_eq_nan (nonneg : le 0 x = true) (nonneg' : le 0 y = true)
    (none : x * y = nan) : le x 0 = true ∨ le y 0 = true := by
  have nothing {a : Bool} {m : Magnitude} (zero : m.units = 0) : le (finite a m) 0 = true :=
    (finite_le_zero_iff fun _ => zero).mpr zero
  obtain rfl | ⟨a, m, rfl, -⟩ := zero_le_iff.mp nonneg <;>
    obtain rfl | ⟨b, n, rfl, -⟩ := zero_le_iff.mp nonneg'
  · cases none
  · by_cases zero : n.units = 0
    · exact .inr (nothing zero)
    · rw [infinite_mul_finite _ _ zero] at none
      cases none
  · by_cases zero : m.units = 0
    · exact .inl (nothing zero)
    · rw [finite_mul_infinite _ _ zero] at none
      cases none
  · rw [finite_mul_finite] at none
    exact absurd none (ofQuotient_ne_nan _ _ _)

theorem zero_le_of_one_le (least : le 1 x = true) : le 0 x = true :=
  le_trans (by decide +kernel) least

/-- Numbers of at least one have a product that is a number. -/
theorem mul_le_mul_of_one_le (least : le 1 x = true) (first : le x x' = true)
    (least' : le 1 y = true) (second : le y y' = true) : le (x * y) (x' * y') = true := by
  have number := ne_nan_of_le (one_le_mul least least')
  have number' := ne_nan_of_le (one_le_mul (le_trans least first) (le_trans least' second))
  exact mul_le_mul (zero_le_of_one_le least) first (zero_le_of_one_le least') second number number'

theorem one_mul (x : Binary64) : 1 * x = x := by
  rw [one_eq]
  cases x with
  | nan => rfl
  | infinite negative =>
    have positive : Magnitude.one.units ≠ 0 := Nat.ne_of_gt Magnitude.one_pos
    rw [finite_mul_infinite _ _ positive, Bool.false_bne]
  | finite negative m =>
    rw [finite_mul_finite, Magnitude.one_units, Nat.mul_comm, ofQuotient_exact _ _ scale_pos,
      Bool.false_bne]

/-- A number from zero to one. -/
structure Fraction (x : Binary64) : Prop where
  nonneg : le 0 x = true
  le_one : le x 1 = true

theorem fraction_zero : Fraction 0 := ⟨by decide +kernel, by decide +kernel⟩

theorem fraction_one : Fraction 1 := ⟨by decide +kernel, by decide +kernel⟩

theorem fraction_clamp_iff : Fraction (x.clamp 0 1) ↔ x ≠ nan := by
  constructor
  · rintro ⟨nonneg, -⟩ rfl
    rw [nan_clamp] at nonneg
    exact ne_nan_of_le nonneg rfl
  · intro number
    obtain ⟨nonneg, small⟩ := le_clamp_and_clamp_le fraction_one.nonneg number
    exact ⟨nonneg, small⟩

theorem Fraction.eq_finite (fraction : Fraction x) : ∃ a m, x = finite a m := by
  obtain rfl | ⟨a, m, rfl, -⟩ := zero_le_iff.mp fraction.nonneg
  · have large := eq_infinite_of_le fraction.le_one
    rw [one_eq] at large
    contradiction
  · exact ⟨a, m, rfl⟩

theorem Fraction.mul_ne_nan (first : Fraction x) (second : Fraction y) : x * y ≠ nan := by
  obtain ⟨a, m, rfl⟩ := first.eq_finite
  obtain ⟨b, n, rfl⟩ := second.eq_finite
  rw [finite_mul_finite]
  exact ofQuotient_ne_nan _ _ _

theorem zero_le_mul (nonneg : le 0 x = true) (nonneg' : le 0 y = true) (number : x * y ≠ nan) :
    le 0 (x * y) = true := by
  have zero : (0 : Binary64) * 0 = 0 := by decide +kernel
  have start : le 0 0 = true := by decide +kernel
  rw [← zero]
  exact mul_le_mul start nonneg start nonneg' (by decide +kernel) number

theorem Fraction.mul (first : Fraction x) (second : Fraction y) : Fraction (x * y) := by
  have number := first.mul_ne_nan second
  constructor
  · exact zero_le_mul first.nonneg second.nonneg number
  · rw [← one_mul 1]
    exact mul_le_mul first.nonneg first.le_one second.nonneg second.le_one number
      (fraction_one.mul_ne_nan fraction_one)

/-- Two numbers on the same side of one, and not below zero. Products of such numbers are numbers,
and on the same side again. -/
inductive SameSide (x y : Binary64) : Prop where
  | within (first : Fraction x) (second : Fraction y)
  | beyond (first : le 1 x = true) (second : le 1 y = true)

theorem sameSide_one (nonneg : le 0 x = true) : SameSide 1 x := by
  rcases le_total (x := x) (y := 1) (ne_nan_of_le nonneg) (by decide +kernel) with small | large
  · exact .within fraction_one ⟨nonneg, small⟩
  · exact .beyond (by decide +kernel) large

namespace SameSide

theorem nonneg (side : SameSide x y) : le 0 x = true ∧ le 0 y = true := by
  cases side with
  | within first second => exact ⟨first.nonneg, second.nonneg⟩
  | beyond first second => exact ⟨zero_le_of_one_le first, zero_le_of_one_le second⟩

theorem mul_ne_nan (side : SameSide x y) : x * y ≠ nan := by
  cases side with
  | within first second => exact first.mul_ne_nan second
  | beyond first second => exact ne_nan_of_le (one_le_mul first second)

theorem self (side : SameSide x y) : SameSide y y := by
  cases side with
  | within _ second => exact .within second second
  | beyond _ second => exact .beyond second second

theorem square (side : SameSide x y) : SameSide x (y * y) := by
  cases side with
  | within first second => exact .within first (second.mul second)
  | beyond first second => exact .beyond first (one_le_mul second second)

theorem product (side : SameSide x y) : SameSide (x * y) (y * y) := by
  cases side with
  | within first second => exact .within (first.mul second) (second.mul second)
  | beyond first second => exact .beyond (one_le_mul first second) (one_le_mul second second)

theorem mul_le_mul (side : SameSide x y) (side' : SameSide x' y') (first : le x x' = true)
    (second : le y y' = true) : le (x * y) (x' * y') = true :=
  Binary64.mul_le_mul side.nonneg.1 first side.nonneg.2 second side.mul_ne_nan side'.mul_ne_nan

end SameSide

end Retry.Binary64
