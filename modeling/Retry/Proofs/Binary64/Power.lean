import Mathlib.Data.Nat.EvenOddRec
import Retry.Proofs.Binary64.Product

/-! Powers grow with their bases and with their exponents. Of two bases with the same exponent the
loop forms the same products, so it is enough that products grow; no zero meets infinity on the
way, because all that is multiplied stays on one side of one. The products of neighbouring
exponents are formed in different orders and rounded differently, so these powers are compared
along the binary digits of the exponent: adding one turns a run of ones at its end into zeros and
the zero before it into a one, and what the ones have multiplied is never more than the square that
takes their place. -/
namespace Retry.Binary64

variable {acc acc' base base' : Binary64} {e e' : Nat}

/-- `acc` times `base` to the power `e`, by the loop that forms powers. -/
def powerFrom (acc base : Binary64) (e : Nat) : Binary64 := powerLoop e.log2 acc base e

theorem power_eq_powerFrom (base : Binary64) (e : Nat) : base.power e = powerFrom 1 base e := rfl

theorem powerFrom_zero (acc base : Binary64) : powerFrom acc base 0 = acc := rfl

theorem powerFrom_one (acc base : Binary64) : powerFrom acc base 1 = acc * base := rfl

theorem powerFrom_of_two_le (acc base : Binary64) (large : 2 ≤ e) :
    powerFrom acc base e =
      powerFrom (if e % 2 = 1 then acc * base else acc) (base * base) (e / 2) := by
  rw [powerFrom, Nat.log2_def, if_pos large, powerLoop]
  rfl

theorem powerFrom_double (acc base : Binary64) (e : Nat) :
    powerFrom acc base (2 * e) = powerFrom acc (base * base) e := by
  by_cases none : e = 0
  · rw [none, Nat.mul_zero, powerFrom_zero, powerFrom_zero]
  · have even : 2 * e % 2 ≠ 1 := by omega
    have rest : 2 * e / 2 = e := by omega
    rw [powerFrom_of_two_le acc base (by omega), if_neg even, rest]

theorem powerFrom_double_succ (acc base : Binary64) (e : Nat) :
    powerFrom acc base (2 * e + 1) = powerFrom (acc * base) (base * base) e := by
  by_cases none : e = 0
  · rw [none, Nat.mul_zero, Nat.zero_add, powerFrom_one, powerFrom_zero]
  · have odd : (2 * e + 1) % 2 = 1 := by omega
    have rest : (2 * e + 1) / 2 = e := by omega
    rw [powerFrom_of_two_le acc base (by omega), if_pos odd, rest]

/-- A loop that starts on one side of one stays there, and one that starts with more ends with
more. -/
theorem powerFrom_le_powerFrom (side : SameSide acc base) (side' : SameSide acc' base')
    (start : le acc acc' = true) (more : le base base' = true) (e : Nat) :
    le (powerFrom acc base e) (powerFrom acc' base' e) = true := by
  induction e using Nat.evenOddRec generalizing acc acc' base base' with
  | h0 => exact start
  | h_even e ih =>
    rw [powerFrom_double, powerFrom_double]
    exact ih side.square side'.square start (side.self.mul_le_mul side'.self more more)
  | h_odd e ih =>
    rw [powerFrom_double_succ, powerFrom_double_succ]
    exact ih side.product side'.product (side.mul_le_mul side' start more)
      (side.self.mul_le_mul side'.self more more)

theorem zero_le_powerFrom (side : SameSide acc base) (e : Nat) :
    le 0 (powerFrom acc base e) = true := by
  induction e using Nat.evenOddRec generalizing acc base with
  | h0 => exact side.nonneg.1
  | h_even e ih =>
    rw [powerFrom_double]
    exact ih side.square
  | h_odd e ih =>
    rw [powerFrom_double_succ]
    exact ih side.product

/-- What has been multiplied so far is at most the square that is due, so it is at most what the
next exponent starts with when the carry arrives. -/
theorem powerFrom_le_powerFrom_succ (least : le 1 acc = true) (due : le acc base = true) (e : Nat) :
    le (powerFrom acc base e) (powerFrom 1 base (e + 1)) = true := by
  induction e using Nat.evenOddRec generalizing acc base with
  | h0 =>
    rw [powerFrom_zero, Nat.zero_add, powerFrom_one, one_mul]
    exact due
  | h_even e ih =>
    rw [powerFrom_double, powerFrom_double_succ, one_mul]
    have grows := le_trans least due
    have square := one_le_mul grows grows
    exact powerFrom_le_powerFrom (.beyond least square) (.beyond grows square) due
      (le_refl (ne_nan_of_le square)) e
  | h_odd e ih =>
    have carried : 2 * e + 1 + 1 = 2 * (e + 1) := by omega
    have grows := le_trans least due
    rw [carried, powerFrom_double_succ, powerFrom_double]
    exact ih (one_le_mul least grows)
      (mul_le_mul_of_one_le least due grows (le_refl (ne_nan_of_le grows)))

theorem power_le_power_succ (grows : le 1 base = true) (e : Nat) :
    le (base.power e) (base.power (e + 1)) = true := by
  rw [power_eq_powerFrom, power_eq_powerFrom]
  exact powerFrom_le_powerFrom_succ (by decide +kernel) grows e

theorem power_le_power (grows : le 1 base = true) (more : e ≤ e') :
    le (base.power e) (base.power e') = true := by
  induction e', more using Nat.le_induction with
  | base => exact le_refl (ne_nan_of_le (one_le_power grows e))
  | succ e' _ ih => exact le_trans ih (power_le_power_succ grows e')

theorem zero_le_power (nonneg : le 0 base = true) (e : Nat) : le 0 (base.power e) = true :=
  zero_le_powerFrom (sameSide_one nonneg) e

/-- Powers of numbers that are not below zero grow with their bases, through underflow, overflow
and infinity. -/
theorem power_le_power_of_base (nonneg : le 0 base = true) (more : le base base' = true) (e : Nat) :
    le (base.power e) (base'.power e) = true := by
  have one : le 1 1 = true := by decide +kernel
  have above := le_trans nonneg more
  exact powerFrom_le_powerFrom (sameSide_one nonneg) (sameSide_one above) one more e

end Retry.Binary64
