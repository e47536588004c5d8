import Conform.Number.Basic
import Mathlib.Algebra.Order.Field.Basic
import Mathlib.Algebra.Order.Field.Rat
import Mathlib.Tactic.FieldSimp
import Mathlib.Tactic.Linarith
import Mathlib.Tactic.NormNum
import Mathlib.Tactic.Positivity
import Mathlib.Tactic.Ring

/-!
# The values of numbers

A double denotes a rational number, and so does a number of a JSON value.  Doubles are compared by
these values, doubles of one value have one significand and one exponent, and the whole number of a
double is its value.  A double has a signed 64-bit whole number exactly when it is whole and its
absolute value is below `2 ^ 63`, and the conversion that saturates is exact there.
-/

namespace Conform

namespace Double

variable {x y : Double}

/-- The rational number that a double denotes. -/
def value (x : Double) : ℚ :=
  x.scaled / unitsPerOne

theorem unitsPerOne_pos : 0 < unitsPerOne := by
  decide +kernel

theorem unitsPerOne_pos' : (0 : ℚ) < unitsPerOne :=
  Nat.cast_pos.mpr unitsPerOne_pos

/-! ### Comparing values -/

theorem value_lt_value_iff : x.value < y.value ↔ x.scaled < y.scaled := by
  rw [value, value, div_lt_div_iff_of_pos_right unitsPerOne_pos', Int.cast_lt]

theorem value_eq_value_iff : x.value = y.value ↔ x.scaled = y.scaled := by
  rw [value, value, div_left_inj' unitsPerOne_pos'.ne', Int.cast_inj]

theorem less_iff : x.less y = true ↔ x.value < y.value := by
  rw [less, decide_eq_true_iff, value_lt_value_iff]

theorem same_iff : x.same y = true ↔ x.value = y.value := by
  rw [same, beq_iff_eq, value_eq_value_iff]

theorem scaled_zero (negative : Bool) : (zero negative).scaled = 0 := by
  cases negative <;> rfl

@[simp] theorem value_zero (negative : Bool) : (zero negative).value = 0 := by
  rw [value, scaled_zero, Int.cast_zero, zero_div]

/-! ### The opposite sign -/

/-- The double of the same absolute value and the opposite sign. -/
def opposite (x : Double) : Double :=
  { x with negative := !x.negative }

@[simp] theorem opposite_opposite (x : Double) : x.opposite.opposite = x := by
  simp [opposite]

@[simp] theorem scaled_opposite (x : Double) : x.opposite.scaled = -x.scaled := by
  cases h : x.negative <;> simp [scaled, opposite, magnitude, h]

@[simp] theorem value_opposite (x : Double) : x.opposite.value = -x.value := by
  rw [value, value, scaled_opposite, Int.cast_neg, neg_div]

/-! ### Significand and exponent -/

/-- The distance from a double to the next one away from zero, in units. -/
def step (x : Double) : Nat :=
  Nat.pow 2 x.exponent

theorem step_pos (x : Double) : 0 < x.step :=
  Nat.pow_pos (by decide)

theorem magnitude_eq (x : Double) : x.magnitude = x.significand * x.step := rfl

/-- A double of a smaller exponent is nearer to zero than those of 53 bits. -/
theorem magnitude_lt_of_exponent_lt {e : Nat} (h : x.exponent < e) :
    x.magnitude < 2 ^ (52 + e) := by
  have hlt : x.significand * x.step < 2 ^ 53 * 2 ^ x.exponent :=
    Nat.mul_lt_mul_of_pos_right x.significand_lt x.step_pos
  calc x.magnitude < 2 ^ (53 + x.exponent) := by rwa [Nat.pow_add]
    _ ≤ 2 ^ (52 + e) := Nat.pow_le_pow_right (by decide) (by omega)

theorem le_magnitude_of_exponent_ne (h : y.exponent ≠ 0) :
    2 ^ (52 + y.exponent) ≤ y.magnitude := by
  rw [Nat.pow_add]
  exact Nat.mul_le_mul_right _ (y.normal.resolve_right h)

theorem exponent_le_of_magnitude_le (h : x.magnitude ≤ y.magnitude) :
    x.exponent ≤ y.exponent := by
  by_contra hlt
  have hlt' : y.exponent < x.exponent := Nat.lt_of_not_le hlt
  have hx := le_magnitude_of_exponent_ne (Nat.ne_of_gt (Nat.zero_lt_of_lt hlt'))
  have hy := magnitude_lt_of_exponent_lt hlt'
  omega

/-- The absolute value of a double determines the significand. -/
theorem significand_eq_of_magnitude_eq (h : x.magnitude = y.magnitude) :
    x.significand = y.significand := by
  have hexponent : x.exponent = y.exponent :=
    Nat.le_antisymm (exponent_le_of_magnitude_le h.le) (exponent_le_of_magnitude_le h.ge)
  rw [magnitude_eq, magnitude_eq, step, step, hexponent] at h
  exact Nat.eq_of_mul_eq_mul_right (Nat.pow_pos (by decide)) h

theorem natAbs_scaled (x : Double) : x.scaled.natAbs = x.magnitude := by
  rw [scaled]
  split <;> simp

theorem scaled_eq_of_nonneg (h : 0 ≤ x.scaled) : x.scaled = x.magnitude := by
  have hnatAbs := x.natAbs_scaled
  omega

/-- Doubles of one value have one significand. -/
theorem significand_eq_of_value_eq (h : x.value = y.value) : x.significand = y.significand := by
  apply significand_eq_of_magnitude_eq
  rw [← natAbs_scaled, ← natAbs_scaled, value_eq_value_iff.mp h]

/-- Between a double and a larger one, which are not negative, lies at least one step. -/
theorem magnitude_add_step_le (h : x.magnitude < y.magnitude) :
    x.magnitude + x.step ≤ y.magnitude := by
  obtain ⟨k, hk⟩ := Nat.exists_eq_add_of_le (exponent_le_of_magnitude_le h.le)
  have hy : y.magnitude = y.significand * 2 ^ k * x.step := by
    rw [magnitude_eq, step, step, hk]
    simp only [Nat.pow_eq, Nat.pow_add]
    ring
  rw [hy, magnitude_eq] at h ⊢
  have hlt := Nat.lt_of_mul_lt_mul_right h
  calc x.significand * x.step + x.step = (x.significand + 1) * x.step := by ring
    _ ≤ y.significand * 2 ^ k * x.step := Nat.mul_le_mul_right _ hlt

/-! ### Whole numbers -/

theorem abs_intCast (i : Int) : |(i : ℚ)| = i.natAbs := by
  rw [Nat.cast_natAbs, Int.cast_abs]

/-- A whole number of at most 53 bits, times or divided by a power of two that stays in the format,
is the value of a double. -/
theorem exists_value_mul_two_pow_eq {s j k : Nat} (hs : s < 2 ^ 53) (hj : j ≤ 1022)
    (hk : k ≤ 971) : ∃ y : Double, y.value * 2 ^ j = s * 2 ^ k := by
  by_cases hzero : s = 0
  · exact ⟨zero false, by simp [hzero]⟩
  have hlog : s.log2 < 53 := (Nat.log2_lt hzero).mpr hs
  have hlow : 2 ^ s.log2 ≤ s := Nat.log2_self_le hzero
  have hhigh : s < 2 ^ (s.log2 + 1) := Nat.lt_log2_self
  -- The significand is shifted to 53 bits.
  let y : Double :=
    { negative := false
      significand := s * 2 ^ (52 - s.log2)
      exponent := 1022 - j + s.log2 + k
      significand_lt := by
        calc s * 2 ^ (52 - s.log2) < 2 ^ (s.log2 + 1) * 2 ^ (52 - s.log2) :=
              Nat.mul_lt_mul_of_pos_right hhigh (Nat.two_pow_pos _)
          _ = Nat.pow 2 53 := by
              rw [← Nat.pow_add]
              congr 1
              omega
      normal := by
        left
        calc Nat.pow 2 52 = 2 ^ s.log2 * 2 ^ (52 - s.log2) := by
              rw [← Nat.pow_add]
              congr 1
              omega
          _ ≤ s * 2 ^ (52 - s.log2) := Nat.mul_le_mul_right _ hlow
      exponent_le := by omega }
  obtain ⟨u, hexponent, hunits⟩ : ∃ u, 52 - s.log2 + (1022 - j + s.log2 + k + j) = k + u ∧
      unitsPerOne = 2 ^ u := ⟨1074, by omega, by decide +kernel⟩
  have hscaled : y.scaled * (2 ^ j : Nat) = (s * 2 ^ k * unitsPerOne : Nat) := by
    change ((s * 2 ^ (52 - s.log2) * 2 ^ (1022 - j + s.log2 + k) : Nat) : Int) * (2 ^ j : Nat) = _
    rw [← Nat.cast_mul, hunits, Nat.mul_assoc, Nat.mul_assoc, Nat.mul_assoc, ← Nat.pow_add,
      ← Nat.pow_add, ← Nat.pow_add, hexponent]
  refine ⟨y, ?_⟩
  rw [value, div_mul_eq_mul_div, div_eq_iff unitsPerOne_pos'.ne']
  exact_mod_cast hscaled

theorem exists_value_eq_mul_two_pow {s k : Nat} (hs : s < 2 ^ 53) (hk : k ≤ 971) :
    ∃ y : Double, y.value = s * 2 ^ k := by
  simpa using exists_value_mul_two_pow_eq hs (Nat.zero_le _) hk

/-- A whole number is the value of a double if its absolute value is 53 bits and zeros after
them. -/
theorem exists_value_eq_of_natAbs {i : Int} {s k : Nat} (hi : i.natAbs = s * 2 ^ k)
    (hs : s < 2 ^ 53) (hk : k ≤ 971) : ∃ y : Double, y.value = i := by
  obtain ⟨y, hy⟩ := exists_value_eq_mul_two_pow hs hk
  have hnatAbs : y.value = (i.natAbs : ℚ) := by
    rw [hy, hi]
    exact_mod_cast rfl
  rcases Int.natAbs_eq i with hsign | hsign
  · exact ⟨y, by rw [hnatAbs, hsign]; simp⟩
  · exact ⟨y.opposite, by rw [value_opposite, hnatAbs, hsign]; simp⟩

/-- A whole number of at most 53 bits is the value of a double, and so is the next one. -/
theorem exists_value_eq_intCast {i : Int} (h : i.natAbs ≤ 2 ^ 53) : ∃ y : Double, y.value = i := by
  rcases h.lt_or_eq with hlt | heq
  · exact exists_value_eq_of_natAbs (k := 0) (by rw [pow_zero, mul_one]) hlt (by decide)
  · exact exists_value_eq_of_natAbs (s := 1) (by rw [heq, one_mul]) (by decide) (by decide)

/-- Whole values may be compared in units. -/
theorem value_eq_intCast_iff {i : Int} : x.value = i ↔ x.scaled = i * unitsPerOne := by
  rw [value, div_eq_iff unitsPerOne_pos'.ne']
  exact_mod_cast Iff.rfl

theorem dvd_scaled_iff : (unitsPerOne : Int) ∣ x.scaled ↔ x.magnitude % unitsPerOne = 0 := by
  rw [← Int.natAbs_dvd_natAbs, natAbs_scaled, Int.natAbs_natCast, Nat.dvd_iff_mod_eq_zero]

/-- A double is read as the whole number that is its value, if there is one of at most 63 bits. -/
theorem toInt?_eq_some_iff {i : Int} :
    x.toInt? = some i ↔ x.value = i ∧ i.natAbs < 9223372036854775808 := by
  have hpos : (unitsPerOne : Int) ≠ 0 := Int.natCast_ne_zero.mpr unitsPerOne_pos.ne'
  rw [value_eq_intCast_iff, toInt?]
  constructor
  · intro h
    split at h
    · rename_i hwhole
      obtain ⟨hdvd, hlt⟩ := hwhole
      have hscaled := dvd_scaled_iff.mpr hdvd
      obtain rfl := Option.some.inj h
      refine ⟨(Int.ediv_mul_cancel hscaled).symm, ?_⟩
      rw [Int.natAbs_ediv_of_dvd hscaled, natAbs_scaled, Int.natAbs_natCast]
      exact hlt
    · cases h
  · rintro ⟨hscaled, hlt⟩
    have hmagnitude : x.magnitude = i.natAbs * unitsPerOne := by
      rw [← natAbs_scaled, hscaled, Int.natAbs_mul, Int.natAbs_natCast]
    rw [if_pos, hscaled, Int.mul_ediv_cancel _ hpos]
    rw [hmagnitude]
    exact ⟨Nat.mul_mod_left _ _, (Nat.mul_div_cancel _ unitsPerOne_pos).trans_lt hlt⟩

theorem bounds_of_toInt? {i : Int} (h : x.toInt? = some i) :
    -9223372036854775808 ≤ i ∧ i < 9223372036854775808 := by
  have habs := (toInt?_eq_some_iff.mp h).2
  omega

/-- The doubles that are read as whole numbers are whole, and lie strictly between `-2 ^ 63` and
`2 ^ 63`. -/
theorem exists_toInt?_iff :
    (∃ i, x.toInt? = some i) ↔ (∃ i : Int, x.value = i) ∧ |x.value| < 2 ^ 63 := by
  have hbound (i : Int) : |(i : ℚ)| < 2 ^ 63 ↔ i.natAbs < 9223372036854775808 := by
    rw [abs_intCast]
    exact_mod_cast Iff.rfl
  constructor
  · rintro ⟨i, hi⟩
    obtain ⟨hvalue, hlt⟩ := toInt?_eq_some_iff.mp hi
    exact ⟨⟨i, hvalue⟩, by rwa [hvalue, hbound]⟩
  · rintro ⟨⟨i, hvalue⟩, hlt⟩
    rw [hvalue, hbound] at hlt
    exact ⟨i, toInt?_eq_some_iff.mpr ⟨hvalue, hlt⟩⟩

/-! ### Signed 64-bit whole numbers -/

/-- The largest signed 64-bit whole number is rounded to the one after it. -/
theorem scaled_ofInt_signedMax :
    (ofInt 9223372036854775807).scaled = 9223372036854775808 * unitsPerOne := by
  decide +kernel

/-- The double of the same absolute value that is not negative. -/
def absolute (x : Double) : Double :=
  { x with negative := false }

/-- The signed 64-bit whole number that a double is cut to: its value without the fraction, or the
nearest one where that is beyond them. -/
def saturate (x : Double) : Int :=
  max (-9223372036854775808) (min 9223372036854775807 (x.scaled.tdiv unitsPerOne))

/-- A double is read as what it is cut to, if it is whole and its absolute value is less than the
largest signed 64-bit whole number as a double. -/
theorem toInt?_eq_saturate (x : Double) :
    x.toInt? =
      if x.magnitude % unitsPerOne = 0 ∧ x.absolute.less (ofInt 9223372036854775807) = true then
        some x.saturate
      else none := by
  have hless : x.absolute.less (ofInt 9223372036854775807) = true ↔
      x.magnitude / unitsPerOne < 9223372036854775808 := by
    have habsolute : x.absolute.scaled = x.magnitude := rfl
    rw [less, decide_eq_true_iff, habsolute, scaled_ofInt_signedMax,
      Nat.div_lt_iff_lt_mul unitsPerOne_pos]
    exact_mod_cast Iff.rfl
  simp only [hless]
  by_cases h : x.magnitude % unitsPerOne = 0 ∧ x.magnitude / unitsPerOne < 9223372036854775808
  · have hread : x.toInt? = some (x.scaled / unitsPerOne) := if_pos h
    have hbounds := bounds_of_toInt? hread
    rw [if_pos h, hread, saturate, Int.tdiv_eq_ediv_of_dvd (dvd_scaled_iff.mpr h.1)]
    congr 1
    omega
  · rw [if_neg h, toInt?, if_neg h]

end Double

/-- The rational number that a number denotes. -/
def Number.value : Number → ℚ
  | .int i _ => i
  | .float x => x.value

end Conform
