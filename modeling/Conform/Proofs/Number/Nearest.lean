import Conform.Proofs.Number.Value

/-!
# The nearest double

The double nearest to a rational number, of two equally near ones that with an even significand.
Its value is unique.  A double nearest to a number lies on the same side of every double as the
number, so that rounding keeps the order, and it is exact where some double is.
-/

namespace Conform.Double

variable {x y : Double} {q t : ℚ}

/-- A double as near to a number as any.  Where another value is as near, the significand is
even. -/
structure IsNearest (x : Double) (q : ℚ) : Prop where
  least : ∀ y : Double, |x.value - q| ≤ |y.value - q|
  even : ∀ y : Double, y.value ≠ x.value → |y.value - q| = |x.value - q| →
    x.significand % 2 = 0

theorem abs_value_sub (x : Double) (t : ℚ) :
    |x.value - t / unitsPerOne| = |x.scaled - t| / unitsPerOne := by
  rw [value, div_sub_div_same, abs_div, abs_of_pos unitsPerOne_pos']

/-- Distances may be compared in units. -/
theorem isNearest_div_iff :
    x.IsNearest (t / unitsPerOne) ↔
      (∀ y : Double, |x.scaled - t| ≤ |y.scaled - t|) ∧
        ∀ y : Double, y.scaled ≠ x.scaled → |y.scaled - t| = |x.scaled - t| →
          x.significand % 2 = 0 := by
  have hle (y : Double) : |x.value - t / unitsPerOne| ≤ |y.value - t / unitsPerOne| ↔
      |x.scaled - t| ≤ |y.scaled - t| := by
    rw [abs_value_sub, abs_value_sub, div_le_div_iff_of_pos_right unitsPerOne_pos']
  have heq (y : Double) : |y.value - t / unitsPerOne| = |x.value - t / unitsPerOne| ↔
      |y.scaled - t| = |x.scaled - t| := by
    rw [abs_value_sub, abs_value_sub, div_left_inj' unitsPerOne_pos'.ne']
  constructor
  · intro h
    exact ⟨fun y => (hle y).mp (h.least y), fun y hne hdist =>
      h.even y (mt value_eq_value_iff.mp hne) ((heq y).mpr hdist)⟩
  · rintro ⟨hleast, heven⟩
    exact ⟨fun y => (hle y).mpr (hleast y), fun y hne hdist =>
      heven y (mt value_eq_value_iff.mpr hne) ((heq y).mp hdist)⟩

/-- A double is the nearest one to its value. -/
theorem isNearest_value (x : Double) : x.IsNearest x.value := by
  constructor
  · intro y
    rw [sub_self, abs_zero]
    exact abs_nonneg _
  · intro y hne hy
    rw [sub_self, abs_zero, abs_eq_zero, sub_eq_zero] at hy
    exact (hne hy).elim

namespace IsNearest

theorem neg (h : x.IsNearest q) : x.opposite.IsNearest (-q) := by
  have hdist (y : Double) : |y.value - -q| = |y.opposite.value - q| := by
    rw [value_opposite, ← abs_neg]
    ring_nf
  constructor
  · intro y
    rw [hdist, hdist, opposite_opposite]
    exact h.least y.opposite
  · intro y hne hy
    rw [hdist, hdist, opposite_opposite] at hy
    refine h.even y.opposite ?_ hy
    intro heq
    exact hne (by simpa using congrArg (-·) heq)

theorem congr (h : x.IsNearest q) (hvalue : y.value = x.value) : y.IsNearest q := by
  refine ⟨fun z => hvalue ▸ h.least z, fun z hne hz => ?_⟩
  rw [significand_eq_of_value_eq hvalue]
  rw [hvalue] at hne hz
  exact h.even z hne hz

/-! ### Order -/

/-- A double that is not above the number is not above the double nearest to it. -/
theorem le_of_le (h : x.IsNearest q) (hy : y.value ≤ q) : y.value ≤ x.value := by
  by_contra hlt
  have hleast := h.least y
  rw [abs_of_nonpos (by linarith), abs_of_nonpos (by linarith)] at hleast
  linarith

theorem ge_of_ge (h : x.IsNearest q) (hy : q ≤ y.value) : x.value ≤ y.value := by
  by_contra hlt
  have hleast := h.least y
  rw [abs_of_nonneg (by linarith), abs_of_nonneg (by linarith)] at hleast
  linarith

/-- A number that some double denotes is denoted by every double nearest to it. -/
theorem value_eq (h : x.IsNearest q) (hy : y.value = q) : x.value = q :=
  le_antisymm (hy ▸ h.ge_of_ge hy.ge) (hy ▸ h.le_of_le hy.le)

/-- Where some double denotes a number, the doubles nearest to it are those that denote it. -/
theorem iff_of_value_eq (hy : y.value = q) : x.IsNearest q ↔ x.value = q :=
  ⟨fun h => h.value_eq hy, fun h => h ▸ isNearest_value x⟩

end IsNearest

/-- A number of too many bits is not rounded to one of fewer bits. -/
theorem IsNearest.two_pow_le_abs {k : Nat} (h : x.IsNearest q) (hk : k ≤ 971)
    (hq : 2 ^ k ≤ |q|) : 2 ^ k ≤ |x.value| := by
  obtain ⟨y, hy⟩ := exists_value_eq_mul_two_pow (s := 1) (by decide) hk
  rw [Nat.cast_one, one_mul] at hy
  rw [le_abs'] at hq ⊢
  rcases hq with hq | hq
  · left
    have hle := h.ge_of_ge (y := y.opposite) (by rwa [value_opposite, hy])
    rwa [value_opposite, hy] at hle
  · right
    exact hy ▸ h.le_of_le (hy ▸ hq)

theorem IsNearest.two_pow_le_natAbs {k : Nat} {n : Int} (h : x.IsNearest q) (hn : x.value = n)
    (hk : k ≤ 971) (hq : 2 ^ k ≤ |q|) : 2 ^ k ≤ n.natAbs := by
  have hle := h.two_pow_le_abs hk hq
  rw [hn, abs_intCast] at hle
  exact_mod_cast hle

/-! ### Uniqueness -/

/-- The next double away from zero, when the significand has room. -/
def next (x : Double) (h : x.significand + 1 < Nat.pow 2 53) : Double where
  negative := false
  significand := x.significand + 1
  exponent := x.exponent
  significand_lt := h
  normal := x.normal.imp_left Nat.le_succ_of_le
  exponent_le := x.exponent_le

theorem scaled_next (x : Double) (h : x.significand + 1 < Nat.pow 2 53) :
    (x.next h).scaled = (x.magnitude + x.step : Nat) := by
  change (((x.significand + 1) * x.step : Nat) : Int) = _
  rw [Nat.succ_mul]
  rfl

/-- Between two doubles with even significands that are not negative lies another one. -/
theorem exists_between_of_nonneg (hx : 0 ≤ x.scaled) (hxy : x.scaled < y.scaled)
    (hxeven : x.significand % 2 = 0) (hyeven : y.significand % 2 = 0) :
    ∃ z : Double, x.scaled < z.scaled ∧ z.scaled < y.scaled := by
  have hroom : x.significand + 1 < Nat.pow 2 53 := by
    have hlt := x.significand_lt
    have heven : Nat.pow 2 53 % 2 = 0 := by decide
    omega
  rw [scaled_eq_of_nonneg hx, scaled_eq_of_nonneg (hx.trans hxy.le)] at *
  have hstep := x.step_pos
  have hle := magnitude_add_step_le (Int.ofNat_lt.mp hxy)
  refine ⟨x.next hroom, ?_, ?_⟩
  · rw [scaled_next]
    omega
  · rw [scaled_next]
    -- The next double has an odd significand, so that it is not the larger one.
    have hne : x.magnitude + x.step ≠ y.magnitude := by
      intro heq
      have hmagnitude : (x.next hroom).magnitude = y.magnitude := by
        rw [← heq, ← natAbs_scaled, scaled_next, Int.natAbs_natCast]
      have hsignificand := significand_eq_of_magnitude_eq hmagnitude
      change x.significand + 1 = y.significand at hsignificand
      omega
    omega

theorem exists_between (hxy : x.value < y.value) (hxeven : x.significand % 2 = 0)
    (hyeven : y.significand % 2 = 0) : ∃ z : Double, x.value < z.value ∧ z.value < y.value := by
  simp only [value_lt_value_iff] at hxy ⊢
  rcases le_or_gt 0 x.scaled with hx | hx
  · exact exists_between_of_nonneg hx hxy hxeven hyeven
  rcases le_or_gt y.scaled 0 with hy | hy
  · obtain ⟨z, hyz, hzx⟩ := exists_between_of_nonneg (x := y.opposite) (y := x.opposite)
      (by simpa using hy) (by simpa using hxy) hyeven hxeven
    rw [scaled_opposite] at hyz hzx
    exact ⟨z.opposite, by rw [scaled_opposite]; omega, by rw [scaled_opposite]; omega⟩
  · exact ⟨zero false, hx, hy⟩

namespace IsNearest

private theorem not_lt_of_nearest (hx : x.IsNearest q) (hy : y.IsNearest q) :
    ¬x.value < y.value := by
  intro hlt
  have hdist : |x.value - q| = |y.value - q| := le_antisymm (hx.least y) (hy.least x)
  obtain ⟨z, hxz, hzy⟩ := exists_between hlt (hx.even y hlt.ne' hdist.symm)
    (hy.even x hlt.ne hdist)
  -- The number is halfway between the two, and what lies between them is nearer.
  have hhalfway : x.value - q = -(y.value - q) :=
    (abs_eq_abs.mp hdist).resolve_left fun heq => hlt.ne (by linarith)
  have hz : |z.value - q| < |x.value - q| := by
    rw [abs_of_neg (by linarith : x.value - q < 0), abs_lt]
    exact ⟨by linarith, by linarith⟩
  exact absurd hz (not_lt.mpr (hx.least z))

/-- Doubles nearest to one number have one value. -/
theorem unique (hx : x.IsNearest q) (hy : y.IsNearest q) : x.value = y.value :=
  le_antisymm (not_lt.mp (hy.not_lt_of_nearest hx)) (not_lt.mp (hx.not_lt_of_nearest hy))

theorem iff_value_eq (hx : x.IsNearest q) : y.IsNearest q ↔ y.value = x.value :=
  ⟨fun hy => hy.unique hx, hx.congr⟩

/-- A double is not above the one nearest to a number exactly when it is not above the number, or
is nearest to it itself. -/
theorem le_iff (hx : x.IsNearest q) : y.value ≤ x.value ↔ y.value ≤ q ∨ y.IsNearest q := by
  constructor
  · intro hle
    rcases le_or_gt y.value q with hq | hq
    · exact Or.inl hq
    · have hleast := hx.least y
      rw [abs_of_nonneg (by linarith), abs_of_nonneg (by linarith)] at hleast
      exact Or.inr (hx.congr (by linarith))
  · rintro (hq | hy)
    · exact hx.le_of_le hq
    · exact (hy.unique hx).le

theorem ge_iff (hx : x.IsNearest q) : x.value ≤ y.value ↔ q ≤ y.value ∨ y.IsNearest q := by
  have hneg := hx.neg.le_iff (y := y.opposite)
  have hnearest : y.opposite.IsNearest (-q) ↔ y.IsNearest q := by
    rw [hx.neg.iff_value_eq, hx.iff_value_eq, value_opposite, value_opposite, neg_inj]
  rwa [value_opposite, value_opposite, neg_le_neg_iff, neg_le_neg_iff, hnearest] at hneg

/-- Rounding keeps the order of numbers. -/
theorem mono (hx : x.IsNearest q) (hy : y.IsNearest t) (h : q ≤ t) : x.value ≤ y.value := by
  rcases le_or_gt x.value t with hxt | hxt
  · exact hy.le_of_le hxt
  rcases le_or_gt q y.value with hqy | hqy
  · exact hx.ge_of_ge hqy
  -- Both numbers lie between the two doubles, in the middle, and are one number.
  have hleast_x := hx.least y
  have hleast_y := hy.least x
  rw [abs_of_pos (by linarith), abs_of_neg (by linarith)] at hleast_x
  rw [abs_of_neg (by linarith), abs_of_pos (by linarith)] at hleast_y
  obtain rfl : q = t := by linarith
  exact (hx.unique hy).le

end IsNearest

end Conform.Double
