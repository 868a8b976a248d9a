/-! Binary64 numbers as exact integers. A finite number is a sign and a count of
units of 2^-1074, the least positive number of the format, so every finite value
is an integer and no arithmetic here is approximate. The one rounding is
`nearest`: it sends a quotient of naturals to the closest point of the grid at
its own size, a tie to the even point, and `nearest_onGrid` shows that the result
is always a point of the format. NaN payloads are not kept. -/
namespace Retry

-- a power of naturals means that of the core library also where other powers are in scope
attribute [instance (20000), default_instance (20000)] instPowNat

namespace Binary64

/-- The distance between neighbouring magnitudes near `units`: 53 significant bits. -/
def spacing (units : Nat) : Nat := 2 ^ (units.log2 - 52)

/-- Magnitudes from here on are infinite: 2^1024, counted in units. -/
def overflow : Nat := 2 ^ 2098

/-- One, counted in units. -/
def scale : Nat := 2 ^ 1074

def OnGrid (units : Nat) : Prop := spacing units ∣ units

instance (units : Nat) : Decidable (OnGrid units) := inferInstanceAs (Decidable (_ ∣ _))

/-- The grid point closest to `num / den`, a tie going to the even multiple. -/
def nearest (num den : Nat) : Nat :=
  let step := spacing (num / den)
  let below := num / (den * step)
  let rest := num % (den * step)
  let above := decide (den * step < 2 * rest) || decide (2 * rest = den * step) && below % 2 == 1
  (if above then below + 1 else below) * step

theorem spacing_pos (units : Nat) : 0 < spacing units := Nat.two_pow_pos _

theorem overflow_pos : 0 < overflow := by
  rw [overflow]
  exact Nat.two_pow_pos 2098

theorem lt_spacing_mul (units : Nat) : units < 2 ^ 53 * spacing units := by
  rw [spacing, ← Nat.pow_add]
  exact Nat.lt_of_lt_of_le Nat.lt_log2_self (Nat.pow_le_pow_right (by decide) (by omega))

theorem onGrid_mul_two_pow {m s : Nat} (h : m ≤ 2 ^ 53) : OnGrid (m * 2 ^ s) := by
  by_cases zero : m * 2 ^ s = 0
  · simp [OnGrid, zero]
  rcases Nat.lt_or_eq_of_le h with low | rfl
  · have size : (m * 2 ^ s).log2 < 53 + s := by
      rw [Nat.log2_lt zero, Nat.pow_add]
      exact Nat.mul_lt_mul_of_pos_right low (Nat.two_pow_pos s)
    exact Nat.dvd_trans (Nat.pow_dvd_pow 2 (by omega)) (Nat.dvd_mul_left _ _)
  · rw [OnGrid, spacing, ← Nat.pow_add, Nat.log2_two_pow]
    exact Nat.pow_dvd_pow 2 (by omega)

theorem onGrid_of_lt {units : Nat} (h : units ≤ 2 ^ 53) : OnGrid units := by
  simpa using onGrid_mul_two_pow (s := 0) h

theorem nearest_below_le (num den : Nat) : num / (den * spacing (num / den)) < 2 ^ 53 := by
  rw [← Nat.div_div_eq_div_mul, Nat.div_lt_iff_lt_mul (spacing_pos _)]
  exact lt_spacing_mul _

theorem nearest_onGrid (num den : Nat) : OnGrid (nearest num den) := by
  have bound := nearest_below_le num den
  unfold nearest
  apply onGrid_mul_two_pow
  split <;> omega

end Binary64

/-- A magnitude of the format. -/
structure Magnitude where
  units : Nat
  lt_overflow : units < Binary64.overflow
  onGrid : Binary64.OnGrid units
deriving DecidableEq

/-- A binary64 number: either sign of zero, subnormals, both infinities, one NaN. -/
inductive Binary64 where
  | nan
  | infinite (negative : Bool)
  | finite (negative : Bool) (magnitude : Magnitude)
deriving DecidableEq

namespace Binary64

/-- The number closest to `± num / den`, counted in units. -/
def ofQuotient (negative : Bool) (num den : Nat) : Binary64 :=
  if h : nearest num den < overflow then .finite negative ⟨nearest num den, h, nearest_onGrid num den⟩
  else .infinite negative

def zero (negative : Bool) : Binary64 := .finite negative ⟨0, overflow_pos, onGrid_of_lt (by decide)⟩

instance : Inhabited Binary64 := ⟨zero false⟩

/-- The number closest to `± num / den`. -/
def ofRatio (negative : Bool) (num den : Nat) : Binary64 := ofQuotient negative (num * scale) den

def ofNat (n : Nat) : Binary64 := ofRatio false n 1

def ofInt (i : Int) : Binary64 := ofRatio (i < 0) i.natAbs 1

instance (n : Nat) : OfNat Binary64 n := ⟨ofNat n⟩

def isFinite : Binary64 → Bool
  | .finite .. => true
  | _ => false

/-- The value of a finite number, counted in units; the sign of zero is lost. -/
def signed (negative : Bool) (m : Magnitude) : Int := if negative then -m.units else m.units

/-- The order of the values: no NaN is below anything, and the zeros are equal. -/
def lt : Binary64 → Binary64 → Bool
  | .nan, _ | _, .nan => false
  | .infinite a, .infinite b => a && !b
  | .infinite a, .finite .. => a
  | .finite .., .infinite b => !b
  | .finite a x, .finite b y => signed a x < signed b y

def le : Binary64 → Binary64 → Bool
  | .nan, _ | _, .nan => false
  | .infinite a, .infinite b => a || !b
  | .infinite a, .finite .. => a
  | .finite .., .infinite b => !b
  | .finite a x, .finite b y => signed a x ≤ signed b y

/-- Equality of values: NaN differs from itself, and the zeros are equal. -/
def same (x y : Binary64) : Bool := le x y && le y x

/-- The nearest end of `lo` to `hi` for a number outside it; NaN stays. -/
def clamp (x lo hi : Binary64) : Binary64 :=
  if lt x lo then lo else if lt hi x then hi else x

end Binary64
end Retry
