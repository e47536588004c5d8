import Conform.Number.Numeral
import Conform.Proofs.Number.Rounding
import Mathlib.Algebra.Order.Field.Power

/-!
# The values of numerals

A numeral is read as the double nearest to its value, and its reading fails only where the value
needs more than 64 bits before the point.
-/

namespace Conform

namespace Double

variable {x : Double} {negative : Bool} {digits : Nat} {exponent : Int}

/-- Zero is the nearest double to every number up to half a unit. -/
theorem isNearest_zero (negative : Bool) {t : ℚ} (h : |t| ≤ 1 / 2) :
    (zero negative).IsNearest (t / unitsPerOne) := by
  refine isNearest_of_multiple (e := 0) (s := 0) ?_ (fun he => (he rfl).elim) ?_ fun _ => rfl
  · cases negative <;> rfl
  · rwa [Nat.cast_zero, pow_zero, div_one, zero_sub, abs_neg]

theorem abs_signed (negative : Bool) {q : ℚ} (h : 0 ≤ q) : |signed negative q| = q := by
  rw [signed]
  split
  · rw [abs_neg, abs_of_nonneg h]
  · exact abs_of_nonneg h

/-- A number has at most one decimal digit for every three bits, and one more. -/
theorem lt_ten_pow_of_log2 (digits : Nat) : digits < 10 ^ (digits.log2 / 3 + 1) := by
  calc digits < 2 ^ (digits.log2 + 1) := Nat.lt_log2_self
    _ ≤ 2 ^ (3 * (digits.log2 / 3 + 1)) := Nat.pow_le_pow_right (by decide) (by omega)
    _ = 8 ^ (digits.log2 / 3 + 1) := by rw [Nat.pow_mul]
    _ ≤ 10 ^ (digits.log2 / 3 + 1) := Nat.pow_le_pow_left (by decide) _

theorem units_le_ten_pow {k : Nat} (h : 330 ≤ k) : 2 * unitsPerOne ≤ 10 ^ k := by
  have hmono (j : Nat) (hj : j ≤ k) (hunits : 2 * unitsPerOne ≤ 10 ^ j) :
      2 * unitsPerOne ≤ 10 ^ k := hunits.trans (Nat.pow_le_pow_right (by decide) hj)
  exact hmono 330 h (by decide +kernel)

/-- A decimal whose exponent outweighs its digits by far is less than half a unit. -/
theorem tiny_decimal (h : ((digits.log2 / 3 + 1 : Nat) : Int) + exponent ≤ -330) :
    (digits * 10 ^ exponent : ℚ) * unitsPerOne ≤ 1 / 2 := by
  obtain ⟨k, hk⟩ := Int.eq_ofNat_of_zero_le (a := -(exponent + (digits.log2 / 3 + 1 : Nat)))
    (by omega)
  have hdigits : (digits : ℚ) ≤ 10 ^ (digits.log2 / 3 + 1) := by
    exact_mod_cast (lt_ten_pow_of_log2 digits).le
  have hunits : (2 * unitsPerOne : ℚ) ≤ 10 ^ k := by
    exact_mod_cast units_le_ten_pow (by omega)
  have hexponent : exponent = -(k : Int) - (digits.log2 / 3 + 1 : Nat) := by omega
  have hpos : (0 : ℚ) < 10 ^ k := by positivity
  calc (digits * 10 ^ exponent : ℚ) * unitsPerOne
      ≤ 10 ^ (digits.log2 / 3 + 1) * 10 ^ exponent * unitsPerOne :=
        mul_le_mul_of_nonneg_right (mul_le_mul_of_nonneg_right hdigits (by positivity))
          unitsPerOne_pos'.le
    _ = unitsPerOne / 10 ^ k := by
        rw [hexponent, zpow_sub₀ (by norm_num), zpow_neg, zpow_natCast, zpow_natCast]
        generalize (unitsPerOne : ℚ) = units
        field_simp
    _ ≤ 1 / 2 := by
        rw [div_le_div_iff₀ hpos two_pos]
        linarith

theorem isNearest_of_ofDecimal? (h : ofDecimal? negative digits exponent = some x) :
    x.IsNearest (signed negative (digits * 10 ^ exponent)) := by
  rw [ofDecimal?] at h
  split at h
  · rename_i hzero
    obtain rfl := Option.some.inj h
    have hvalue : signed negative (digits * 10 ^ exponent) = (zero negative).value := by
      simp [hzero, signed]
    exact hvalue ▸ isNearest_value _
  split at h
  · cases h
  split at h
  · rename_i htiny
    obtain rfl := Option.some.inj h
    rw [← mul_div_cancel_right₀ (signed negative _) unitsPerOne_pos'.ne']
    apply isNearest_zero
    rw [abs_mul, abs_signed _ (by positivity), abs_of_pos unitsPerOne_pos']
    exact tiny_decimal htiny
  split at h
  · rename_i hexponent
    obtain ⟨k, rfl⟩ := Int.eq_ofNat_of_zero_le hexponent
    have hnearest := isNearest_of_ofRatio? Nat.one_pos h
    rw [Int.toNat_natCast, Nat.cast_one, div_one, Nat.cast_mul] at hnearest
    rw [zpow_natCast]
    exact_mod_cast hnearest
  · rename_i hexponent
    obtain ⟨k, hk⟩ := Int.eq_ofNat_of_zero_le (a := -exponent) (by omega)
    have hnearest := isNearest_of_ofRatio? (Nat.pow_pos (by decide)) h
    rw [hk, Int.toNat_natCast] at hnearest
    rw [← Int.neg_neg exponent, hk, zpow_neg, zpow_natCast, ← div_eq_mul_inv]
    exact_mod_cast hnearest

theorem le_of_ofDecimal?_eq_none (h : ofDecimal? negative digits exponent = none) :
    (2 ^ 64 : ℚ) ≤ digits * 10 ^ exponent := by
  rw [ofDecimal?] at h
  split at h
  · cases h
  rename_i hdigits
  split at h
  · rename_i hexponent
    have hone : (1 : ℚ) ≤ digits := by exact_mod_cast Nat.one_le_iff_ne_zero.mpr hdigits
    calc (2 ^ 64 : ℚ) ≤ 1 * 10 ^ (20 : Int) := by norm_num
      _ ≤ digits * 10 ^ exponent := by
          gcongr
          · norm_num
          · omega
  split at h
  · cases h
  split at h
  · rename_i hexponent
    obtain ⟨k, rfl⟩ := Int.eq_ofNat_of_zero_le hexponent
    have hle := le_of_ofRatio?_eq_none Nat.one_pos h
    rw [Int.toNat_natCast, Nat.cast_one, div_one, Nat.cast_mul] at hle
    rw [zpow_natCast]
    exact_mod_cast hle
  · rename_i hexponent
    obtain ⟨k, hk⟩ := Int.eq_ofNat_of_zero_le (a := -exponent) (by omega)
    have hle := le_of_ofRatio?_eq_none (Nat.pow_pos (by decide)) h
    rw [hk, Int.toNat_natCast] at hle
    rw [← Int.neg_neg exponent, hk, zpow_neg, zpow_natCast, ← div_eq_mul_inv]
    exact_mod_cast hle

end Double

namespace Numeral

/-- The rational number that a numeral denotes. -/
def value (n : Numeral) : ℚ :=
  Double.signed n.negative (n.digits * 10 ^ n.exponent)

/-- A numeral is read as the double nearest to its value. -/
theorem isNearest_of_toDouble? {n : Numeral} {x : Double} (h : n.toDouble? = some x) :
    x.IsNearest n.value :=
  Double.isNearest_of_ofDecimal? h

theorem le_of_toDouble?_eq_none {n : Numeral} (h : n.toDouble? = none) : 2 ^ 64 ≤ |n.value| := by
  rw [value, Double.abs_signed _ (by positivity)]
  exact Double.le_of_ofDecimal?_eq_none h

end Numeral

end Conform
