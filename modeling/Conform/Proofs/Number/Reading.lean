import Conform.Proofs.Number.Spelling

/-!
# Whole numbers in numerals

The whole number that a numeral is taken for where one is expected.  A sign and digits alone are
read exactly, as a signed 64-bit whole number.  Every other spelling is rounded to a double first,
so that it is read as a whole number that only lies next to what it denotes, unless it is short or
its value is that of a double.
-/

namespace Conform

namespace Double

/-- Some double is less than one in the last place away from a decimal of at most 15 digits. -/
theorem exists_near_decimal {d k : Nat} (hd : d < 10 ^ 15) (hk : k ≤ 15) :
    ∃ y : Double, |y.value - d / 10 ^ k| < 1 / 10 ^ k := by
  let j := (10 ^ k).log2 + 1
  have hlow : 10 ^ k < 2 ^ j := Nat.lt_log2_self
  have hhigh : 2 ^ j ≤ 2 * 10 ^ k := by
    rw [Nat.pow_succ, Nat.mul_comm]
    exact Nat.mul_le_mul_left 2 (Nat.log2_self_le (Nat.pow_pos (by decide)).ne')
  have hj : j ≤ 1022 := by
    have hlog : (10 ^ k).log2 < 50 := by
      rw [Nat.log2_lt (Nat.pow_pos (by decide)).ne']
      exact (Nat.pow_le_pow_right (by decide) hk).trans_lt (by decide)
    omega
  -- The decimal is rounded down to a multiple of a power of two below its last place.
  let s := d * 2 ^ j / 10 ^ k
  have hs : s < 2 ^ 53 := by
    calc s ≤ d * 2 := Nat.div_le_of_le_mul (by
          calc d * 2 ^ j ≤ d * (2 * 10 ^ k) := Nat.mul_le_mul_left d hhigh
            _ = 10 ^ k * (d * 2) := by ring)
      _ < 2 ^ 53 := by omega
  obtain ⟨y, hy⟩ := exists_value_mul_two_pow_eq hs hj (Nat.zero_le 971)
  rw [pow_zero, mul_one] at hy
  refine ⟨y, ?_⟩
  have hten : (0 : ℚ) < 10 ^ k := by positivity
  have htwo : (10 ^ k : ℚ) < 2 ^ j := by exact_mod_cast hlow
  have hle : (s * 10 ^ k : ℚ) ≤ d * 2 ^ j := by
    exact_mod_cast Nat.div_mul_le_self (d * 2 ^ j) (10 ^ k)
  have hlt : (d * 2 ^ j : ℚ) < s * 10 ^ k + 10 ^ k := by
    exact_mod_cast Nat.lt_div_mul_add (Nat.pow_pos (by decide))
  have hdist : (y.value - d / 10 ^ k) * (2 ^ j * 10 ^ k) = s * 10 ^ k - d * 2 ^ j := by
    rw [← hy]
    field_simp
  have hscale : (0 : ℚ) < 2 ^ j * 10 ^ k := by positivity
  rw [← mul_lt_mul_iff_left₀ hscale, ← abs_of_pos hscale, ← abs_mul, hdist, abs_of_pos hscale,
    abs_of_nonpos (by linarith)]
  have hone : 1 / 10 ^ k * (2 ^ j * 10 ^ k) = (2 ^ j : ℚ) := by field_simp
  linarith

/-- The double nearest to a decimal of at most 15 digits is a whole number only where the decimal
is that number. -/
theorem IsNearest.eq_of_short {x : Double} {d k : Nat} {n : Int} (hd : d < 10 ^ 15) (hk : k ≤ 15)
    (h : x.IsNearest (d / 10 ^ k)) (hn : x.value = n) : (d / 10 ^ k : ℚ) = n := by
  obtain ⟨y, hy⟩ := exists_near_decimal hd hk
  have hten : (0 : ℚ) < 10 ^ k := by positivity
  have hdist : |(n - d / 10 ^ k : ℚ)| < 1 / 10 ^ k := hn ▸ (h.least y).trans_lt hy
  rw [lt_div_iff₀ hten, ← abs_of_pos hten, ← abs_mul, abs_of_pos hten, sub_mul,
    div_mul_cancel₀ _ hten.ne'] at hdist
  have hwhole : n * 10 ^ k - d = 0 := by
    apply Int.abs_lt_one_iff.mp
    exact_mod_cast hdist
  rw [div_eq_iff hten.ne']
  exact_mod_cast (sub_eq_zero.mp hwhole).symm

theorem IsNearest.eq_of_short_signed {x : Double} {negative : Bool} {d k : Nat} {n : Int}
    (hd : d < 10 ^ 15) (hk : k ≤ 15) (h : x.IsNearest (signed negative (d / 10 ^ k)))
    (hn : x.value = n) : signed negative (d / 10 ^ k) = n := by
  cases negative with
  | false => exact IsNearest.eq_of_short hd hk h hn
  | true =>
      rw [signed, if_pos rfl] at h ⊢
      have hneg := IsNearest.eq_of_short (x := x.opposite) (n := -n) hd hk (by simpa using h.neg)
        (by simp [hn])
      simp [hneg]

end Double

namespace Numeral.Spelling

variable {sp : Spelling} {n : Int}

/-- The whole number that a spelling is taken for. -/
def integer? (sp : Spelling) : Option Int :=
  int64Of? sp.text <|> sp.numeral.toDouble?.bind Double.toInt?

/-- How a spelling is taken for a whole number: exactly where it is plain, by way of the nearest
double where it is not. -/
inductive ReadsAs (sp : Spelling) (n : Int) : Prop where
  | exact (plain : sp.IsPlain) (value : sp.value = n)
      (bounds : -9223372036854775808 ≤ n ∧ n < 9223372036854775808)
  | rounded (plain : ¬sp.IsPlain) {x : Double} (nearest : x.IsNearest sp.value)
      (value : x.value = n) (bounds : n.natAbs < 9223372036854775808)

theorem ReadsAs.bounds (h : sp.ReadsAs n) :
    -9223372036854775808 ≤ n ∧ n < 18446744073709551616 := by
  rcases h with ⟨-, -, hbounds⟩ | ⟨-, -, -, hbounds⟩
  · omega
  · omega

/-- A plain spelling of a number that has no signed 64-bit form is not near any that has one. -/
theorem int64Of?_of_nearest {x : Double} (hplain : sp.IsPlain) (hx : x.IsNearest sp.value)
    (hn : x.value = n) (hbounds : n.natAbs < 9223372036854775808) :
    ∃ i, int64Of? sp.text = some i := by
  have hvalue := sp.value_of_isPlain hplain
  refine ⟨_, sp.int64Of?_text_eq_some_iff.mpr ⟨hplain, hvalue, ?_⟩⟩
  generalize signedDigits sp.sign sp.whole = i at hvalue
  by_contra hrange
  have hlarge : (2 ^ 63 : ℚ) ≤ |sp.value| := by
    rw [hvalue, Double.abs_intCast]
    have hnatAbs : 2 ^ 63 ≤ i.natAbs := by omega
    exact_mod_cast hnatAbs
  have hle := hx.two_pow_le_natAbs hn (by decide) hlarge
  omega

theorem integer?_eq_some_iff : sp.integer? = some n ↔ sp.ReadsAs n := by
  rw [integer?]
  constructor
  · intro h
    cases hint : int64Of? sp.text with
    | some i =>
        rw [hint] at h
        obtain rfl : i = n := Option.some.inj h
        obtain ⟨hplain, hvalue, hbounds⟩ := sp.int64Of?_text_eq_some_iff.mp hint
        exact .exact hplain hvalue hbounds
    | none =>
        rw [hint] at h
        obtain ⟨x, hx, hn⟩ := Option.bind_eq_some_iff.mp h
        have hnearest := sp.isNearest_toDouble hx
        obtain ⟨hvalue, hbounds⟩ := Double.toInt?_eq_some_iff.mp hn
        refine .rounded ?_ hnearest hvalue hbounds
        intro hplain
        obtain ⟨i, hi⟩ := int64Of?_of_nearest hplain hnearest hvalue hbounds
        exact Option.some_ne_none i (hi.symm.trans hint)
  · rintro (⟨hplain, hvalue, hbounds⟩ | ⟨hplain, hnearest, hvalue, hbounds⟩)
    · rw [sp.int64Of?_text_eq_some_iff.mpr ⟨hplain, hvalue, hbounds⟩]
      rfl
    · rename_i x
      have hint : int64Of? sp.text = none := by
        rw [int64Of?, sp.wholeOf?_text_of_not_isPlain hplain]
        rfl
      rw [hint]
      change sp.numeral.toDouble?.bind Double.toInt? = some n
      rw [Option.bind_eq_some_iff]
      cases hx : sp.numeral.toDouble? with
      | some y =>
          have hy := (sp.isNearest_toDouble hx).unique hnearest
          exact ⟨y, rfl, Double.toInt?_eq_some_iff.mpr ⟨hy.trans hvalue, hbounds⟩⟩
      | none =>
          have hle := hnearest.two_pow_le_natAbs hvalue (by decide)
            (sp.le_abs_value_of_undefined hx)
          omega

/-! ### Spellings that are never changed -/

/-- A spelling of at most 15 digits with no exponent. -/
def IsShort (sp : Spelling) : Prop :=
  sp.exponent = none ∧ (sp.whole ++ sp.fraction.getD []).length ≤ 15

theorem digits_lt_of_isShort (h : sp.IsShort) : sp.numeral.digits < 10 ^ 15 := by
  have hdigits : ∀ c ∈ sp.whole ++ sp.fraction.getD [], Text.isDigit c = true := by
    intro c hc
    rcases List.mem_append.mp hc with hc | hc
    · exact sp.whole_digits c hc
    · cases hfraction : sp.fraction with
      | none => simp [hfraction] at hc
      | some ds => exact sp.fraction_digits ds hfraction c (by simpa [hfraction] using hc)
  exact (Text.decimalValue_lt hdigits).trans_le (Nat.pow_le_pow_right (by decide) h.2)

theorem value_of_isShort (h : sp.IsShort) :
    sp.value = Double.signed (sp.sign == some true)
      (sp.numeral.digits / 10 ^ (sp.fraction.getD []).length) := by
  have hexponent : sp.numeral.exponent = -((sp.fraction.getD []).length : Int) := by
    rw [numeral, h.1]
    simp
  rw [← value_numeral, Numeral.value, hexponent, zpow_neg, zpow_natCast, ← div_eq_mul_inv]
  rfl

theorem exists_double_of_isShort (h : sp.IsShort) (hn : sp.value = n) :
    ∃ y : Double, y.value = sp.value := by
  rw [hn]
  apply Double.exists_value_eq_intCast
  have hle : |sp.value| ≤ sp.numeral.digits := by
    rw [value_of_isShort h, Double.abs_signed _ (by positivity)]
    exact div_le_self (Nat.cast_nonneg _) (one_le_pow₀ (by norm_num))
  rw [hn, Double.abs_intCast] at hle
  have hnatAbs : n.natAbs ≤ sp.numeral.digits := by exact_mod_cast hle
  have hdigits := digits_lt_of_isShort h
  omega

/-- A spelling whose number is not changed: it is plain or short, or denotes the value of a
double. -/
def IsExact (sp : Spelling) : Prop :=
  sp.IsPlain ∨ sp.IsShort ∨ ∃ y : Double, y.value = sp.value

theorem value_eq_of_readsAs (h : sp.IsExact) (hn : sp.ReadsAs n) : sp.value = n := by
  rcases hn with ⟨-, hvalue, -⟩ | ⟨hplain, hnearest, hvalue, -⟩
  · exact hvalue
  rcases h with hplain' | hshort | ⟨y, hy⟩
  · exact (hplain hplain').elim
  · have hlength := hshort.2
    rw [List.length_append] at hlength
    rw [value_of_isShort hshort] at hnearest ⊢
    exact Double.IsNearest.eq_of_short_signed (digits_lt_of_isShort hshort) (by omega)
      hnearest hvalue
  · exact (hnearest.value_eq hy).symm.trans hvalue

theorem readsAs_of_value_eq (h : sp.IsExact) (hn : n.natAbs < 9223372036854775808)
    (hvalue : sp.value = n) : sp.ReadsAs n := by
  by_cases hplain : sp.IsPlain
  · exact .exact hplain hvalue (by omega)
  obtain ⟨y, hy⟩ : ∃ y : Double, y.value = sp.value := by
    rcases h with hplain' | hshort | hdouble
    · exact (hplain hplain').elim
    · exact exists_double_of_isShort hshort hvalue
    · exact hdouble
  exact .rounded hplain (hy ▸ Double.isNearest_value y) (hy.trans hvalue) hn

/-! ### The text of a whole number -/

/-- The spelling of a whole number as a text: its digits, after a minus sign if it is negative. -/
def ofInt (i : Int) : Spelling where
  sign := if i < 0 then some true else none
  whole := Nat.toDigits 10 i.natAbs
  fraction := none
  exponent := none
  whole_digits _ hc := Nat.isDigit_of_mem_toDigits (by decide) (by decide) hc
  fraction_digits := nofun
  nonempty := by
    rw [Option.getD_none, List.append_nil]
    exact Nat.toDigits_ne_nil

theorem isPlain_ofInt (i : Int) : (ofInt i).IsPlain := ⟨rfl, rfl⟩

theorem text_ofInt (i : Int) (bounds : -9223372036854775808 ≤ i ∧ i < 18446744073709551616) :
    (ofInt i).text = (Number.int i bounds).text.toList := by
  rw [Number.toList_text_int]
  change signText (if i < 0 then some true else none) ++ (Nat.toDigits 10 i.natAbs ++ []) = _
  rw [List.append_nil]
  split <;> rfl

theorem signedDigits_toDigits (i : Int) :
    signedDigits (if i < 0 then some true else none) (Nat.toDigits 10 i.natAbs) = i := by
  rw [signedDigits, Text.decimalValue_eq, Nat.ofDigitChars_ten_toDigits]
  by_cases hnegative : i < 0
  · rw [if_pos hnegative, if_pos (by decide)]
    omega
  · rw [if_neg hnegative, if_neg (by decide)]
    omega

theorem value_ofInt (i : Int) : (ofInt i).value = i := by
  rw [value_of_isPlain _ (isPlain_ofInt i), Int.cast_inj]
  exact signedDigits_toDigits i

/-- The text of a whole number is read where the number has a signed 64-bit form. -/
theorem int64Of?_ofInt_eq_some_iff {i : Int} :
    int64Of? (ofInt i).text = some n ↔
      i = n ∧ -9223372036854775808 ≤ n ∧ n < 9223372036854775808 := by
  rw [int64Of?_text_eq_some_iff, value_ofInt, Int.cast_inj]
  exact and_iff_right (isPlain_ofInt i)

theorem readsAs_ofInt_iff {i : Int} :
    (ofInt i).ReadsAs n ↔ i = n ∧ -9223372036854775808 ≤ n ∧ n < 9223372036854775808 := by
  constructor
  · rintro (⟨-, hvalue, hbounds⟩ | ⟨hplain, -, -, -⟩)
    · rw [value_ofInt, Int.cast_inj] at hvalue
      exact ⟨hvalue, hbounds⟩
    · exact (hplain (isPlain_ofInt i)).elim
  · rintro ⟨rfl, hbounds⟩
    exact .exact (isPlain_ofInt i) (value_ofInt i) hbounds

end Numeral.Spelling

/-- As a signed 64-bit whole number, the text of a whole number is read like the number itself. -/
theorem Number.int64Of?_text {i : Int}
    (bounds : -9223372036854775808 ≤ i ∧ i < 18446744073709551616) :
    Numeral.int64Of? (Number.int i bounds).text.toList = (Number.int i bounds).toInt64? := by
  rw [← Numeral.Spelling.text_ofInt i bounds, toInt64?]
  split
  · rename_i hsmall
    exact Numeral.Spelling.int64Of?_ofInt_eq_some_iff.mpr ⟨rfl, bounds.1, hsmall⟩
  · rename_i hlarge
    rw [Option.eq_none_iff_forall_ne_some]
    intro n hn
    have hrange := Numeral.Spelling.int64Of?_ofInt_eq_some_iff.mp hn
    omega

end Conform
