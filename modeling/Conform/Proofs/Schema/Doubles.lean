import Conform.Proofs.Schema.Numerals

/-!
# Validating doubles

What the schema for whole numbers of the standard context makes of doubles.  A double becomes the
whole number that is its value when there is one strictly between `-2 ^ 63` and `2 ^ 63`.  Every
other double is refused, among them the one for `-2 ^ 63`, which is a signed 64-bit whole number and
is accepted in its other forms.
-/

namespace Conform

namespace Coercion

variable {x : Double}

theorem applyAll_integer_of_whole {n : Int} (h : x.toInt? = some n)
    (bounds : -9223372036854775808 ≤ n ∧ n < 18446744073709551616) :
    applyAll (Standard.coercionOf .integer).toList (.num (.float x)) = .num (.int n bounds) := by
  rw [applyAll_integer, toInteger, h]
  exact Json.ofInt_eq bounds

theorem applyAll_integer_of_not_whole (h : x.toInt? = none) :
    applyAll (Standard.coercionOf .integer).toList (.num (.float x)) = .num (.float x) := by
  rw [applyAll_integer, toInteger, h]
  rfl

end Coercion

namespace Schema

variable {x : Double}

theorem yields_integer_of_whole {n : Int} (h : x.toInt? = some n)
    (bounds : -9223372036854775808 ≤ n ∧ n < 18446744073709551616) :
    lenientInteger.Yields (.num (.float x)) (.num (.int n bounds)) :=
  yields_ofKind (k := .integer) rfl nofun (Coercion.applyAll_integer_of_whole h bounds) rfl

theorem value_integer_of_not_whole (h : x.toInt? = none) :
    (lenientInteger.validate (some (.num (.float x)))).value = some (.num (.float x)) :=
  value_ofKind (k := .integer) (x := .num (.float x)) rfl nofun
    (Coercion.applyAll_integer_of_not_whole h)

theorem issues_integer_of_not_whole (h : x.toInt? = none) :
    (lenientInteger.validate (some (.num (.float x)))).issues =
      [.ofViolation [] (Node.typeViolation .integer (.num (.float x)))] :=
  issues_ofKind (k := .integer) (x := .num (.float x)) rfl nofun
    (Coercion.applyAll_integer_of_not_whole h)

theorem refuses_integer_of_not_whole (h : x.toInt? = none) :
    (lenientInteger.validate (some (.num (.float x)))).conforms = false := by
  rw [Visit.conforms, issues_integer_of_not_whole h]
  rfl

/-- The schema for whole numbers accepts a double exactly when it is whole and lies strictly between
`-2 ^ 63` and `2 ^ 63`, and makes of it the whole number that is its value.  Every other double
stays, and there is one issue. -/
theorem validate_double (x : Double) :
    let given : Json := .num (.float x)
    let result := lenientInteger.validate (some given)
    (result.conforms = true ↔ (∃ n : Int, x.value = n) ∧ |x.value| < 2 ^ 63) ∧
      (result.conforms = true →
        ∃ (n : Int) (bounds : -9223372036854775808 ≤ n ∧ n < 18446744073709551616),
          x.value = n ∧ result.value = some (.num (.int n bounds))) ∧
      (result.conforms = false → result.value = some given ∧
        result.issues = [.ofViolation [] (Node.typeViolation .integer given)]) := by
  intro given result
  rw [← Double.exists_toInt?_iff]
  cases hread : x.toInt? with
  | some n =>
      have hbounds := Double.bounds_of_toInt? hread
      have hvalue := (Double.toInt?_eq_some_iff.mp hread).1
      obtain ⟨hconforms, hresult⟩ := yields_integer_of_whole hread ⟨hbounds.1, by omega⟩
      refine ⟨iff_of_true hconforms ⟨n, rfl⟩, fun _ => ⟨n, _, hvalue, hresult⟩, ?_⟩
      exact fun hrefused => absurd (hrefused.symm.trans hconforms) Bool.false_ne_true
  | none =>
      have hrefused := Bool.eq_false_iff.mp (refuses_integer_of_not_whole hread)
      refine ⟨iff_of_false hrefused (by simp), fun hconforms => absurd hconforms hrefused, ?_⟩
      exact fun _ => ⟨value_integer_of_not_whole hread, issues_integer_of_not_whole hread⟩

/-- The largest double below `2 ^ 63`. -/
theorem validate_double_largest :
    lenientInteger.Yields (.num (.float (Double.ofInt 9223372036854774784)))
      (.num (.int 9223372036854774784 (by decide))) := by
  have hvalue : (Double.ofInt 9223372036854774784).value = (9223372036854774784 : Int) :=
    Double.value_ofInt_of_exists (by decide)
      (Double.exists_value_eq_of_natAbs (s := 2 ^ 53 - 1) (k := 10) rfl (by decide) (by decide))
  obtain ⟨haccepts, hmakes, -⟩ := validate_double (Double.ofInt 9223372036854774784)
  have hconforms := haccepts.mpr ⟨⟨_, hvalue⟩, by rw [hvalue]; norm_num⟩
  obtain ⟨n, bounds, hn, hresult⟩ := hmakes hconforms
  obtain rfl : 9223372036854774784 = n := by exact_mod_cast hvalue.symm.trans hn
  exact ⟨hconforms, hresult⟩

/-- The smallest signed 64-bit whole number is refused as a double, and accepted as a whole number
and as a text. -/
theorem validate_double_smallest_refused :
    let smallest := Double.ofInt (-9223372036854775808)
    let number : Json := .num (.int (-9223372036854775808) (by decide))
    smallest.value = (-9223372036854775808 : Int) ∧
      (lenientInteger.validate (some (.num (.float smallest)))).conforms = false ∧
      lenientInteger.Yields number number ∧
      lenientInteger.Yields (.str "-9223372036854775808") number := by
  intro smallest number
  have hvalue : smallest.value = (-9223372036854775808 : Int) :=
    Double.value_ofInt_of_exists (by decide)
      (Double.exists_value_eq_of_natAbs (s := 1) (k := 63) rfl (by decide) (by decide))
  have hread : smallest.toInt? = none := by
    rw [Option.eq_none_iff_forall_ne_some]
    intro n hn
    obtain ⟨hn, hlt⟩ := Double.toInt?_eq_some_iff.mp hn
    obtain rfl : -9223372036854775808 = n := by exact_mod_cast hvalue.symm.trans hn
    exact absurd hlt (by decide)
  have htext : Text.trim "-9223372036854775808".toList =
      (Numeral.Spelling.ofInt (-9223372036854775808)).text := by
    rfl
  exact ⟨hvalue, refuses_integer_of_not_whole hread,
    yields_ofKind (k := .integer) rfl nofun rfl rfl,
    yields_integer_of_readsAs htext (Numeral.Spelling.readsAs_ofInt_iff.mpr (by decide))⟩

end Schema

end Conform
