import Conform.Proofs.Number.Nearest

/-!
# Rounding to the nearest double

What the readers of quotients, whole numbers and decimals make is the nearest double.  A number is
rounded to the multiples of a power of two, which are the doubles around it: they have 53 bits, or
the least exponent.
-/

namespace Conform.Double

variable {x : Double} {negative : Bool} {n d : Nat}

/-! ### Rounding to whole numbers -/

/-- A whole number at most a half away is as near as any, and where another one is as near, it is a
half away. -/
theorem near_of_half {s k : ℤ} {r : ℚ} (h : |s - r| ≤ 1 / 2) :
    |s - r| ≤ |k - r| ∧ (k ≠ s → |(k : ℚ) - r| = |s - r| → |s - r| = 1 / 2) := by
  have hapart : k ≠ s → (1 : ℚ) ≤ |(k : ℚ) - r| + |s - r| := by
    intro hne
    have hone : (1 : ℚ) ≤ |(k : ℚ) - s| := by
      exact_mod_cast Int.one_le_abs (sub_ne_zero.mpr hne)
    have htriangle := abs_sub_le (k : ℚ) r s
    rw [abs_sub_comm r] at htriangle
    exact hone.trans htriangle
  by_cases hne : k = s
  · subst hne
    exact ⟨le_refl _, fun hne => (hne rfl).elim⟩
  · have hone := hapart hne
    exact ⟨by linarith, fun _ heq => by linarith⟩

/-- A quotient is rounded to a whole number at most a half away, which is even when it is exactly a
half away. -/
theorem roundQuotient_near (n : Nat) (hd : 0 < d) :
    |(roundQuotient n d : ℚ) - n / d| ≤ 1 / 2 ∧
      (|(roundQuotient n d : ℚ) - n / d| = 1 / 2 → roundQuotient n d % 2 = 0) := by
  have hd' : (0 : ℚ) < d := Nat.cast_pos.mpr hd
  have hquotient : (n : ℚ) / d = (n / d : Nat) + (n % d : Nat) / d := by
    rw [div_eq_iff hd'.ne', add_mul, div_mul_cancel₀ _ hd'.ne']
    exact_mod_cast (Nat.div_add_mod' n d).symm
  have hrest : ((n % d : Nat) : ℚ) / d < 1 := by
    rw [div_lt_one hd']
    exact_mod_cast Nat.mod_lt n hd
  have hrest' : (0 : ℚ) ≤ ((n % d : Nat) : ℚ) / d := by positivity
  have hless (m : Nat) : 2 * m < d ↔ (m : ℚ) / d < 1 / 2 := by
    rw [div_lt_div_iff₀ hd' two_pos]
    exact_mod_cast by rw [Nat.mul_comm, one_mul]
  have hmore (m : Nat) : d < 2 * m ↔ 1 / 2 < (m : ℚ) / d := by
    rw [div_lt_div_iff₀ two_pos hd']
    exact_mod_cast by rw [Nat.mul_comm, one_mul]
  rw [hquotient, roundQuotient]
  simp only [hless, hmore]
  generalize ((n % d : Nat) : ℚ) / d = r at *
  split
  · rename_i hlow
    have hdist : |((n / d : Nat) : ℚ) - ((n / d : Nat) + r)| = r := by
      rw [sub_add_cancel_left, abs_neg, abs_of_nonneg hrest']
    rw [hdist]
    exact ⟨hlow.le, fun h => (hlow.ne h).elim⟩
  · split
    · rename_i hhigh
      have hdist : |((n / d + 1 : Nat) : ℚ) - ((n / d : Nat) + r)| = 1 - r := by
        rw [Nat.cast_succ, add_sub_add_left_eq_sub, abs_of_pos (by linarith)]
      rw [hdist]
      exact ⟨by linarith, fun h => by linarith⟩
    · rename_i hlow hhigh
      have hr : r = 1 / 2 := le_antisymm (not_lt.mp hhigh) (not_lt.mp hlow)
      -- The quotient lies halfway between two whole numbers, and the even one is taken.
      refine ⟨?_, fun _ => by omega⟩
      rcases Nat.mod_two_eq_zero_or_one (n / d) with hparity | hparity
      · rw [hparity, hr]
        norm_num
      · rw [hparity, hr]
        norm_num

/-! ### Rounding to doubles -/

/-- A double is a multiple of a power of two, or below all doubles of 53 bits and its exponent. -/
theorem multiple_or_lt (y : Double) (e : Nat) :
    (∃ k : ℤ, y.scaled = k * 2 ^ e) ∨ e ≠ 0 ∧ (y.scaled : ℚ) < 2 ^ (52 + e) := by
  rcases Nat.lt_or_ge y.exponent e with hlt | hge
  · right
    refine ⟨Nat.ne_of_gt (Nat.zero_lt_of_lt hlt), ?_⟩
    have hmagnitude := magnitude_lt_of_exponent_lt hlt
    have hnatAbs := y.natAbs_scaled
    have hscaled : y.scaled < ((2 ^ (52 + e) : Nat) : ℤ) := by omega
    exact_mod_cast hscaled
  · left
    obtain ⟨k, hk⟩ := Nat.exists_eq_add_of_le hge
    have hmagnitude : y.magnitude = y.significand * 2 ^ k * 2 ^ e := by
      rw [magnitude, hk, Nat.pow_eq, Nat.pow_add]
      ring
    rw [scaled, hmagnitude]
    split
    · exact ⟨-(y.significand * 2 ^ k), by push_cast; ring⟩
    · exact ⟨y.significand * 2 ^ k, by push_cast; ring⟩

/-- A number is rounded to the nearest double by rounding to the multiples of a power of two, if
that is one or the number has 53 bits before its multiples. -/
theorem isNearest_of_multiple {e s : Nat} {t : ℚ} (hx : x.scaled = s * 2 ^ e)
    (hfine : e ≠ 0 → 2 ^ (52 + e) ≤ t) (hnear : |(s : ℚ) - t / 2 ^ e| ≤ 1 / 2)
    (heven : |(s : ℚ) - t / 2 ^ e| = 1 / 2 → x.significand % 2 = 0) :
    x.IsNearest (t / unitsPerOne) := by
  have hpow : (0 : ℚ) < 2 ^ e := by positivity
  have hdist (k : ℤ) : |(k * 2 ^ e : ℤ) - t| = |k - t / 2 ^ e| * 2 ^ e := by
    rw [← abs_of_pos hpow, ← abs_mul, abs_of_pos hpow, sub_mul, div_mul_cancel₀ _ hpow.ne']
    push_cast
    rfl
  have hmultiple (k : ℤ) :=
    near_of_half (s := s) (k := k) (r := t / 2 ^ e) (by exact_mod_cast hnear)
  have hleast (k : ℤ) : |x.scaled - t| ≤ |(k * 2 ^ e : ℤ) - t| := by
    rw [hx, hdist, hdist]
    exact mul_le_mul_of_nonneg_right (hmultiple k).1 hpow.le
  have hfar (y : Double) (hne : e ≠ 0) (hy : (y.scaled : ℚ) < 2 ^ (52 + e)) :
      |x.scaled - t| < |y.scaled - t| := by
    have hbound := hfine hne
    have hbinade : (((2 : ℤ) ^ 52 * 2 ^ e : ℤ) : ℚ) = 2 ^ (52 + e) := by
      rw [← pow_add]
      push_cast
      rfl
    refine (hleast (2 ^ 52)).trans_lt ?_
    rw [hbinade, abs_of_nonpos (sub_nonpos.mpr hbound), abs_of_neg (by linarith)]
    linarith
  rw [isNearest_div_iff]
  constructor
  · intro y
    rcases y.multiple_or_lt e with ⟨k, hk⟩ | ⟨hne, hy⟩
    · exact hk ▸ hleast k
    · exact (hfar y hne hy).le
  · intro y hne hy
    rcases y.multiple_or_lt e with ⟨k, hk⟩ | ⟨hne', hy'⟩
    · have hks : k ≠ s := by
        rintro rfl
        exact hne (hk.trans hx.symm)
      rw [hk, hx, hdist, hdist, mul_left_inj' hpow.ne'] at hy
      exact heven (by exact_mod_cast (hmultiple k).2 hks hy)
    · exact absurd hy (hfar y hne' hy').ne'

/-! ### The readers of doubles -/

theorem ofParts?_eq_some_iff {significand exponent : Nat} :
    ofParts? negative significand exponent = some x ↔
      x.negative = negative ∧ x.significand = significand ∧ x.exponent = exponent := by
  rw [ofParts?]
  constructor
  · intro h
    split at h
    · obtain rfl := Option.some.inj h
      exact ⟨rfl, rfl, rfl⟩
    · cases h
  · rintro ⟨rfl, rfl, rfl⟩
    rw [dif_pos ⟨x.significand_lt, x.normal, x.exponent_le⟩]

/-- The exponent for a quotient, which leaves 53 bits or is the least one. -/
def exponentFor (n d : Nat) : Nat :=
  (n / d).log2 - 52

/-- The multiple of the power of two that a quotient is rounded to. -/
def multipleFor (n d : Nat) : Nat :=
  roundQuotient n (d * 2 ^ exponentFor n d)

theorem ofUnits?_eq (negative : Bool) (n d : Nat) :
    ofUnits? negative n d =
      if multipleFor n d < 2 ^ 53 then ofParts? negative (multipleFor n d) (exponentFor n d)
      else ofParts? negative (2 ^ 52) (exponentFor n d + 1) := rfl

theorem lt_of_exponentFor (n : Nat) (hd : 0 < d) : n < 2 ^ (53 + exponentFor n d) * d := by
  have hlog : n / d < 2 ^ (53 + exponentFor n d) :=
    Nat.lt_log2_self.trans_le (Nat.pow_le_pow_right (by decide) (by rw [exponentFor]; omega))
  exact (Nat.div_lt_iff_lt_mul hd).mp hlog

theorem le_of_exponentFor (hd : 0 < d) (he : exponentFor n d ≠ 0) :
    2 ^ (52 + exponentFor n d) * d ≤ n := by
  have hlog : 52 + exponentFor n d = (n / d).log2 := by
    rw [exponentFor] at he ⊢
    omega
  have hne : n / d ≠ 0 := by
    rintro hzero
    simp [exponentFor, hzero] at he
  rw [hlog]
  exact (Nat.le_div_iff_mul_le hd).mp (Nat.log2_self_le hne)

theorem multipleFor_near (n : Nat) (hd : 0 < d) :
    |(multipleFor n d : ℚ) - n / d / 2 ^ exponentFor n d| ≤ 1 / 2 ∧
      (|(multipleFor n d : ℚ) - n / d / 2 ^ exponentFor n d| = 1 / 2 →
        multipleFor n d % 2 = 0) := by
  have hnear := roundQuotient_near n (Nat.mul_pos hd (Nat.two_pow_pos (exponentFor n d)))
  rw [Nat.cast_mul, Nat.cast_pow, Nat.cast_ofNat, ← div_div] at hnear
  exact hnear

theorem multipleFor_le (n : Nat) (hd : 0 < d) : multipleFor n d ≤ 2 ^ 53 := by
  have hbound : (n : ℚ) / d / 2 ^ exponentFor n d < 2 ^ 53 := by
    have hlt := lt_of_exponentFor n hd
    rw [div_lt_iff₀ (by positivity), div_lt_iff₀ (Nat.cast_pos.mpr hd), ← pow_add]
    exact_mod_cast hlt
  have hnear := (abs_le.mp (multipleFor_near n hd).1).2
  have hlt : (multipleFor n d : ℚ) < ((2 ^ 53 + 1 : Nat) : ℚ) := by
    push_cast
    linarith
  exact Nat.lt_succ_iff.mp (Nat.cast_lt.mp hlt)

theorem le_multipleFor (hd : 0 < d) (he : exponentFor n d ≠ 0) : 2 ^ 52 ≤ multipleFor n d := by
  have hbound : (2 ^ 52 : ℚ) ≤ n / d / 2 ^ exponentFor n d := by
    have hle := le_of_exponentFor hd he
    rw [le_div_iff₀ (by positivity), le_div_iff₀ (Nat.cast_pos.mpr hd), ← pow_add]
    exact_mod_cast hle
  have hnear := (abs_le.mp (multipleFor_near n hd).1).1
  have hlt : ((2 ^ 52 : Nat) : ℚ) < ((multipleFor n d + 1 : Nat) : ℚ) := by
    push_cast
    linarith
  exact Nat.lt_succ_iff.mp (Nat.cast_lt.mp hlt)

/-- A quotient of units is read as the multiple it is rounded to.  One that has come to 54 bits
takes the next exponent. -/
theorem eq_of_ofUnits? (hd : 0 < d) (h : ofUnits? negative n d = some x) :
    x.negative = negative ∧ x.magnitude = multipleFor n d * 2 ^ exponentFor n d ∧
      x.significand % 2 = multipleFor n d % 2 := by
  rw [ofUnits?_eq] at h
  split at h
  · obtain ⟨hnegative, hsignificand, hexponent⟩ := ofParts?_eq_some_iff.mp h
    refine ⟨hnegative, ?_, by rw [hsignificand]⟩
    rw [magnitude, hsignificand, hexponent, Nat.pow_eq]
  · rename_i hlarge
    obtain ⟨hnegative, hsignificand, hexponent⟩ := ofParts?_eq_some_iff.mp h
    have hmultiple : multipleFor n d = 2 ^ 53 :=
      Nat.le_antisymm (multipleFor_le n hd) (Nat.not_lt.mp hlarge)
    refine ⟨hnegative, ?_, by rw [hsignificand, hmultiple]; rfl⟩
    rw [magnitude, hsignificand, hexponent, hmultiple, Nat.pow_eq, Nat.pow_succ]
    ring

theorem units_le_two_pow {k : Nat} (h : 1138 ≤ k) : 2 ^ 64 * unitsPerOne ≤ 2 ^ k := by
  have hmono (j : Nat) (hj : j ≤ k) (hunits : 2 ^ 64 * unitsPerOne ≤ 2 ^ j) :
      2 ^ 64 * unitsPerOne ≤ 2 ^ k := hunits.trans (Nat.pow_le_pow_right (by decide) hj)
  exact hmono 1138 h (by decide +kernel)

/-- A quotient that comes to less than 64 bits before the point is not too large for a double. -/
theorem le_of_ofUnits?_eq_none (hd : 0 < d) (h : ofUnits? negative n d = none) :
    2 ^ 64 * unitsPerOne * d ≤ n := by
  have hlarge : 2045 ≤ exponentFor n d := by
    by_contra hsmall
    have hnormal : 2 ^ 52 ≤ multipleFor n d ∨ exponentFor n d = 0 := by
      by_cases he : exponentFor n d = 0
      · exact Or.inr he
      · exact Or.inl (le_multipleFor hd he)
    rw [ofUnits?_eq] at h
    split at h
    · rename_i hfits
      rw [ofParts?, dif_pos ⟨hfits, hnormal, by omega⟩] at h
      cases h
    · rw [ofParts?, dif_pos ⟨by decide, Or.inl (by decide), by omega⟩] at h
      cases h
  calc 2 ^ 64 * unitsPerOne * d ≤ 2 ^ (52 + exponentFor n d) * d :=
        Nat.mul_le_mul_right _ (units_le_two_pow (by omega))
    _ ≤ n := le_of_exponentFor hd (by omega)

/-- A number with a sign. -/
def signed (negative : Bool) (q : ℚ) : ℚ :=
  if negative then -q else q

theorem isNearest_of_ofUnits? (hd : 0 < d) (h : ofUnits? negative n d = some x) :
    x.IsNearest (signed negative (n / d / unitsPerOne)) := by
  obtain ⟨rfl, hmagnitude, hparity⟩ := eq_of_ofUnits? hd h
  obtain ⟨hnear, heven⟩ := multipleFor_near n hd
  have hfine : exponentFor n d ≠ 0 → (2 : ℚ) ^ (52 + exponentFor n d) ≤ n / d := by
    intro he
    rw [le_div_iff₀ (Nat.cast_pos.mpr hd)]
    exact_mod_cast le_of_exponentFor hd he
  have hpositive (y : Double) (hscaled : y.scaled = x.magnitude)
      (hsignificand : y.significand = x.significand) : y.IsNearest (n / d / unitsPerOne) := by
    refine isNearest_of_multiple (s := multipleFor n d) ?_ hfine hnear ?_
    · rw [hscaled, hmagnitude]
      push_cast
      rfl
    · intro hhalf
      rw [hsignificand, hparity]
      exact heven hhalf
  rw [signed]
  split
  · rename_i hnegative
    rw [← x.opposite_opposite]
    have hscaled : x.opposite.scaled = x.magnitude := by
      rw [scaled_opposite, scaled, if_pos hnegative, neg_neg]
    exact (hpositive x.opposite hscaled rfl).neg
  · rename_i hnegative
    exact hpositive x (by simp [scaled, hnegative]) rfl

theorem isNearest_of_ofRatio? (hd : 0 < d) (h : ofRatio? negative n d = some x) :
    x.IsNearest (signed negative (n / d)) := by
  have hnearest := isNearest_of_ofUnits? hd h
  rwa [Nat.cast_mul, mul_div_right_comm, mul_div_cancel_right₀ _ unitsPerOne_pos'.ne'] at hnearest

theorem le_of_ofRatio?_eq_none (hd : 0 < d) (h : ofRatio? negative n d = none) :
    (2 ^ 64 : ℚ) ≤ n / d := by
  have hle := le_of_ofUnits?_eq_none hd h
  rw [Nat.mul_right_comm] at hle
  rw [le_div_iff₀ (Nat.cast_pos.mpr hd)]
  exact_mod_cast Nat.le_of_mul_le_mul_right hle unitsPerOne_pos

/-- A whole number of at most 64 bits is read as the nearest double. -/
theorem isNearest_ofInt {i : Int} (h : i.natAbs < 2 ^ 64) : (ofInt i).IsNearest i := by
  have hsigned : signed (decide (i < 0)) ((i.natAbs : ℚ) / (1 : Nat)) = i := by
    rw [signed, Nat.cast_one, div_one, Nat.cast_natAbs]
    split
    · rename_i hnegative
      rw [abs_of_neg (of_decide_eq_true hnegative), Int.cast_neg, neg_neg]
    · rename_i hnegative
      rw [abs_of_nonneg (by simpa using hnegative)]
  rw [ofInt]
  cases hx : ofRatio? (decide (i < 0)) i.natAbs 1 with
  | none =>
      have hle := le_of_ofRatio?_eq_none Nat.one_pos hx
      rw [Nat.cast_one, div_one] at hle
      exact absurd h (Nat.not_lt.mpr (by exact_mod_cast hle))
  | some x => exact hsigned ▸ isNearest_of_ofRatio? Nat.one_pos hx

/-- A whole number that some double denotes is not changed. -/
theorem value_ofInt_of_exists {i : Int} (h : i.natAbs < 2 ^ 64) (hy : ∃ y : Double, y.value = i) :
    (ofInt i).value = i := by
  obtain ⟨y, hy⟩ := hy
  exact (isNearest_ofInt h).value_eq hy

theorem value_ofInt {i : Int} (h : i.natAbs ≤ 2 ^ 53) : (ofInt i).value = i :=
  value_ofInt_of_exists (by omega) (exists_value_eq_intCast h)

/-- A whole number of less than 53 bits keeps its place among the others when all are rounded: the
ones before and after it are doubles, which rounding does not pass. -/
theorem value_ofInt_lt_iff {i j : Int} (hi : i.natAbs < 2 ^ 64) (hj : j.natAbs < 2 ^ 64)
    (hsmall : i.natAbs < 2 ^ 53 ∨ j.natAbs < 2 ^ 53) :
    (ofInt i).value < (ofInt j).value ↔ i < j := by
  have hnearest_i : (ofInt i).IsNearest i := isNearest_ofInt hi
  have hnearest_j : (ofInt j).IsNearest j := isNearest_ofInt hj
  constructor
  · intro hlt
    by_contra hle
    have hmono := hnearest_j.mono hnearest_i (by exact_mod_cast Int.not_lt.mp hle)
    exact absurd hlt (not_lt.mpr hmono)
  · intro hlt
    rcases hsmall with hsmall | hsmall
    · obtain ⟨y, hy⟩ : ∃ y : Double, y.value = (i + 1 : Int) := exists_value_eq_intCast (by omega)
      calc (ofInt i).value = i := value_ofInt hsmall.le
        _ < y.value := by rw [hy]; exact_mod_cast Int.lt_succ i
        _ ≤ (ofInt j).value :=
            hnearest_j.le_of_le (by rw [hy]; exact_mod_cast Int.add_one_le_of_lt hlt)
    · obtain ⟨y, hy⟩ : ∃ y : Double, y.value = (j - 1 : Int) := exists_value_eq_intCast (by omega)
      calc (ofInt i).value ≤ y.value :=
            hnearest_i.ge_of_ge (by rw [hy]; exact_mod_cast Int.le_sub_one_of_lt hlt)
        _ < j := by rw [hy]; exact_mod_cast Int.pred_self_lt j
        _ = (ofInt j).value := (value_ofInt hsmall.le).symm

/-! ### Comparing whole numbers with doubles -/

section

variable {i : Int} (h : i.natAbs < 2 ^ 64)
include h

/-- A whole number is found below a double when it is below it and not rounded to it. -/
theorem ofInt_less_iff : (ofInt i).less x = true ↔ i < x.value ∧ ¬x.IsNearest i := by
  rw [less_iff, ← not_le, (isNearest_ofInt h).le_iff, not_or, not_le]

theorem less_ofInt_iff : x.less (ofInt i) = true ↔ x.value < i ∧ ¬x.IsNearest i := by
  rw [less_iff, ← not_le, (isNearest_ofInt h).ge_iff, not_or, not_le]

/-- A whole number is found equal to a double when it is rounded to it. -/
theorem ofInt_same_iff : (ofInt i).same x = true ↔ x.IsNearest i := by
  rw [same_iff, (isNearest_ofInt h).iff_value_eq, eq_comm]

end

end Conform.Double
