import Retry.Binary64.Basic

/-! Rounding against the grid. A quotient is never rounded past a point of the grid: what is
at least a point rounds to at least that point, and likewise from above. Both follow from
what the step of the quotient divides, and together they say that points of the grid are
kept. Nothing else is needed to bound a computation whose bounds are themselves numbers of
the format. Where two quotients are compared with one another, not with a point, they are
rounded by the same steps or on both sides of a power of two, so rounding keeps their order. -/
namespace Retry.Binary64

variable {g m n num num' den : Nat}

theorem log2_mono (le : m ≤ n) : m.log2 ≤ n.log2 := by
  by_cases zero : m = 0
  · subst zero
    exact Nat.zero_le _
  · rw [Nat.le_log2 (by omega)]
    exact Nat.le_trans (Nat.log2_self_le zero) le

theorem spacing_dvd_spacing (le : m ≤ n) : spacing m ∣ spacing n :=
  Nat.pow_dvd_pow 2 (Nat.sub_le_sub_right (log2_mono le) 52)

/-- Between a point of the grid and a number above it there is a multiple of the spacing of
the number: the point itself, or the power of two at which the spacing changed. -/
theorem exists_multiple_of_onGrid (grid : OnGrid g) (le : g ≤ n) :
    ∃ c, g ≤ c * spacing n ∧ c * spacing n ≤ n := by
  by_cases zero : g = 0
  · exact ⟨0, by omega, by omega⟩
  rcases Nat.lt_or_eq_of_le (log2_mono le) with smaller | same
  · obtain ⟨c, power⟩ : spacing n ∣ 2 ^ n.log2 := Nat.pow_dvd_pow 2 (Nat.sub_le _ _)
    have low : g ≤ 2 ^ n.log2 := Nat.le_of_lt ((Nat.log2_lt zero).mp smaller)
    have high : 2 ^ n.log2 ≤ n := Nat.log2_self_le (by omega)
    exact ⟨c, by rwa [Nat.mul_comm, ← power], by rwa [Nat.mul_comm, ← power]⟩
  · have step : spacing n ∣ g := by
      rw [spacing, ← same]
      exact grid
    obtain ⟨c, rfl⟩ := step
    exact ⟨c, Nat.le_of_eq (Nat.mul_comm _ _), by rwa [Nat.mul_comm]⟩

/-- A quotient that reaches a point of the grid is not rounded below it. -/
theorem le_nearest (grid : OnGrid g) (le : g * den ≤ num) (pos : 0 < den) :
    g ≤ nearest num den := by
  obtain ⟨c, low, high⟩ := exists_multiple_of_onGrid grid ((Nat.le_div_iff_mul_le pos).mpr le)
  have below : c ≤ num / (den * spacing (num / den)) := by
    rw [← Nat.div_div_eq_div_mul]
    exact (Nat.le_div_iff_mul_le (spacing_pos _)).mpr high
  have floor : g ≤ num / (den * spacing (num / den)) * spacing (num / den) :=
    Nat.le_trans low (Nat.mul_le_mul_right _ below)
  unfold nearest
  simp only
  split
  · exact Nat.le_trans floor (Nat.mul_le_mul_right _ (Nat.le_succ _))
  · exact floor

/-- A quotient that does not exceed a point of the grid is not rounded above it. -/
theorem nearest_le (grid : OnGrid g) (le : num ≤ g * den) (pos : 0 < den) :
    nearest num den ≤ g := by
  have bound : num / den ≤ g := Nat.div_le_of_le_mul (by rwa [Nat.mul_comm])
  obtain ⟨c, rfl⟩ : spacing (num / den) ∣ g := Nat.dvd_trans (spacing_dvd_spacing bound) grid
  have whole : 0 < den * spacing (num / den) := Nat.mul_pos pos (spacing_pos _)
  unfold nearest
  simp only
  split
  · next up =>
    -- a quotient that is rounded up was not a multiple of the spacing
    have rest : num % (den * spacing (num / den)) ≠ 0 := by
      intro none
      simp only [none, Bool.or_eq_true, Bool.and_eq_true, decide_eq_true_eq] at up
      omega
    have parts := Nat.div_add_mod num (den * spacing (num / den))
    have room : num / (den * spacing (num / den)) < c := by
      rw [Nat.div_lt_iff_lt_mul whole]
      refine Nat.lt_of_le_of_ne (by rwa [← Nat.mul_assoc, Nat.mul_right_comm, Nat.mul_comm c]) ?_
      intro exactly
      exact rest (Nat.mod_eq_zero_of_dvd ⟨c, exactly.trans (Nat.mul_comm _ _)⟩)
    rw [Nat.mul_comm]
    exact Nat.mul_le_mul_left _ room
  · rw [← Nat.div_div_eq_div_mul]
    exact Nat.le_trans (Nat.div_mul_le_self _ _) bound

/-- A point of the grid rounds to itself. -/
theorem nearest_of_onGrid (grid : OnGrid g) (pos : 0 < den) : nearest (g * den) den = g :=
  Nat.le_antisymm (nearest_le grid (Nat.le_refl _) pos) (le_nearest grid (Nat.le_refl _) pos)

/-- The count of `whole` closest to `num`, a tie going to the even count. -/
def closestCount (num whole : Nat) : Nat :=
  if whole < 2 * (num % whole) ∨ 2 * (num % whole) = whole ∧ num / whole % 2 = 1 then
    num / whole + 1
  else num / whole

theorem nearest_eq (num den : Nat) :
    nearest num den = closestCount num (den * spacing (num / den)) * spacing (num / den) := by
  simp only [nearest, closestCount, Bool.or_eq_true, Bool.and_eq_true, decide_eq_true_eq, beq_iff_eq]

theorem closestCount_mono {whole : Nat} (le : num ≤ num') :
    closestCount num whole ≤ closestCount num' whole := by
  unfold closestCount
  rcases Nat.lt_or_eq_of_le (Nat.div_le_div_right (c := whole) le) with less | same
  · split <;> split <;> omega
  · -- between the same two counts the remainders decide, and ties go the same way
    have parts := Nat.div_add_mod num whole
    have parts' := Nat.div_add_mod num' whole
    rw [← same] at parts' ⊢
    split <;> split <;> omega

theorem nearest_mono (le : num ≤ num') (pos : 0 < den) : nearest num den ≤ nearest num' den := by
  have quotients : num / den ≤ num' / den := Nat.div_le_div_right le
  rcases Nat.lt_or_eq_of_le (log2_mono quotients) with smaller | same
  · -- a power of two, which is a point of the grid, lies between the two quotients
    have grid : OnGrid (2 ^ (num' / den).log2) := by
      simpa using onGrid_mul_two_pow (s := (num' / den).log2) (m := 1) (by decide)
    have positive : num' / den ≠ 0 := by
      intro none
      rw [none] at smaller
      exact Nat.not_lt_zero _ smaller
    have above : num / den < 2 ^ (num' / den).log2 := by
      by_cases zero : num / den = 0
      · rw [zero]
        exact Nat.two_pow_pos _
      · exact (Nat.log2_lt zero).mp smaller
    have low : num ≤ 2 ^ (num' / den).log2 * den :=
      Nat.le_of_lt ((Nat.div_lt_iff_lt_mul pos).mp above)
    have high : 2 ^ (num' / den).log2 * den ≤ num' :=
      (Nat.le_div_iff_mul_le pos).mp (Nat.log2_self_le positive)
    exact Nat.le_trans (nearest_le grid low pos) (le_nearest grid high pos)
  · have step : spacing (num / den) = spacing (num' / den) := by
      rw [spacing, spacing, same]
    rw [nearest_eq, nearest_eq, step]
    exact Nat.mul_le_mul_right _ (closestCount_mono le)

/-- A number that stands still when it is rounded is a point of the grid, and only such a one. -/
theorem nearest_one_eq_self_iff (n : Nat) : nearest n 1 = n ↔ OnGrid n := by
  constructor
  · intro kept
    rw [← kept]
    exact nearest_onGrid n 1
  · intro grid
    simpa using nearest_of_onGrid grid Nat.one_pos

theorem closestCount_mul_right (num whole : Nat) {c : Nat} (pos : 0 < c) :
    closestCount (num * c) (whole * c) = closestCount num whole := by
  have quotient := Nat.mul_div_mul_right num whole pos
  simp only [closestCount, Nat.mul_mod_mul_right, quotient, ← Nat.mul_assoc,
    Nat.mul_lt_mul_right pos, Nat.mul_right_cancel_iff pos]

theorem spacing_mul_two_pow (large : 2 ^ 52 ≤ n) (k : Nat) :
    spacing (n * 2 ^ k) = spacing n * 2 ^ k := by
  have positive : n ≠ 0 := by omega
  have bits : 52 ≤ n.log2 := (Nat.le_log2 positive).mpr large
  have product : n * 2 ^ k ≠ 0 := Nat.mul_ne_zero positive (Nat.ne_of_gt (Nat.two_pow_pos k))
  have shifted : (n * 2 ^ k).log2 = n.log2 + k := by
    rw [Nat.log2_eq_iff product, Nat.add_right_comm, Nat.pow_add, Nat.pow_add 2 (n.log2 + 1)]
    exact ⟨Nat.mul_le_mul_right _ (Nat.log2_self_le positive),
      Nat.mul_lt_mul_of_pos_right Nat.lt_log2_self (Nat.two_pow_pos k)⟩
  rw [spacing, spacing, shifted, ← Nat.pow_add, Nat.sub_add_comm bits]

/-- Whole numbers are rounded alike in every unit that is a power of two. -/
theorem nearest_mul_two_pow (n k : Nat) : nearest (n * 2 ^ k) 1 = nearest n 1 * 2 ^ k := by
  by_cases small : n ≤ 2 ^ 53
  · rw [(nearest_one_eq_self_iff _).mpr (onGrid_mul_two_pow small),
      (nearest_one_eq_self_iff n).mpr (onGrid_of_lt small)]
  · have large : 2 ^ 52 ≤ n := by omega
    rw [nearest_eq, nearest_eq, Nat.div_one, Nat.div_one, Nat.one_mul, Nat.one_mul,
      spacing_mul_two_pow large, closestCount_mul_right _ _ (Nat.two_pow_pos k), Nat.mul_assoc]

end Retry.Binary64
