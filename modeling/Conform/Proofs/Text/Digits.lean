import Conform.Date.Reader
import Mathlib.Data.List.TakeWhile

/-!
# Digits

The decimal digits of a number fill the width they are given when the number fits, they are
digits, and they read back as the number.  Hexadecimal digits have the values they write.  Digits,
like the characters of any class, are cut in one way off a text that goes on with something else.
-/

namespace Conform.Text

/-! ### Cutting a text -/

section

variable {p : Char → Bool} {cs ds xs ys : List Char}

theorem takeWhile_dropWhile_append (hcs : ∀ c ∈ cs, p c = true)
    (hxs : ∀ c, xs.head? = some c → p c = false) :
    (cs ++ xs).takeWhile p = cs ∧ (cs ++ xs).dropWhile p = xs := by
  have hnone : xs.takeWhile p = [] ∧ xs.dropWhile p = xs := by
    cases xs with
    | nil => exact ⟨rfl, rfl⟩
    | cons c xs => simp [hxs c rfl]
  rw [List.takeWhile_append_of_pos hcs, List.dropWhile_append_of_pos hcs, hnone.1, hnone.2]
  exact ⟨List.append_nil cs, rfl⟩

/-- A text is cut in one way into characters of a class and a rest that begins with none of
them. -/
theorem append_inj_of_class (hcs : ∀ c ∈ cs, p c = true) (hds : ∀ c ∈ ds, p c = true)
    (hxs : ∀ c, xs.head? = some c → p c = false) (hys : ∀ c, ys.head? = some c → p c = false)
    (h : cs ++ xs = ds ++ ys) : cs = ds ∧ xs = ys := by
  have hleft := takeWhile_dropWhile_append hcs hxs
  have hright := takeWhile_dropWhile_append hds hys
  rw [h] at hleft
  exact ⟨hleft.1.symm.trans hright.1, hleft.2.symm.trans hright.2⟩

end

/-! ### Decimal and hexadecimal digits -/

theorem isDigit_eq (c : Char) : isDigit c = c.isDigit := rfl

theorem toNat_of_isDigit {c : Char} (h : isDigit c = true) : 48 ≤ c.toNat ∧ c.toNat ≤ 57 := by
  simpa [isDigit_eq, Char.isDigit, UInt32.le_iff_toNat_le] using h

theorem isBlank_eq_false_of_isDigit {c : Char} (h : isDigit c = true) : isBlank c = false := by
  have hrange := toNat_of_isDigit h
  simp [isBlank]
  omega

theorem digitValue_lt {c : Char} (h : isDigit c = true) : digitValue c < 10 := by
  have hrange := toNat_of_isDigit h
  change c.toNat - 48 < 10
  omega

theorem toList_decimalDigits (width n : Nat) :
    (decimalDigits width n).toList =
      List.replicate (width - (Nat.toDigits 10 n).length) '0' ++ Nat.toDigits 10 n := by
  simp [decimalDigits]

theorem length_decimalDigits (width : Nat) {n : Nat} (hwidth : 0 < width)
    (h : n < Nat.pow 10 width) : (decimalDigits width n).toList.length = width := by
  have hlength := (Nat.length_toDigits_le_iff (b := 10) (by decide) hwidth).mpr h
  rw [toList_decimalDigits, List.length_append, List.length_replicate]
  omega

theorem isDigit_of_mem_decimalDigits {width n : Nat} {c : Char}
    (h : c ∈ (decimalDigits width n).toList) : isDigit c = true := by
  rw [toList_decimalDigits, List.mem_append] at h
  rcases h with h | h
  · rw [List.eq_of_mem_replicate h]
    rfl
  · exact Nat.isDigit_of_mem_toDigits (by decide) (by decide) h

theorem decimalValue_eq (ds : List Char) : decimalValue ds = Nat.ofDigitChars 10 ds 0 := by
  rw [Nat.ofDigitChars_eq_foldl]
  rfl

/-- The digits of a number write the number. -/
theorem decimalValue_decimalDigits (width n : Nat) :
    decimalValue (decimalDigits width n).toList = n := by
  rw [decimalValue_eq, toList_decimalDigits, Nat.ofDigitChars_append,
    Nat.ofDigitChars_replicate_zero, Nat.mul_zero, Nat.ofDigitChars_ten_toDigits]

theorem hexValue?_digitChar : ∀ d < 16, hexValue? (Nat.digitChar d) = some d := by decide

theorem toList_hexDigits (width n : Nat) :
    (hexDigits width n).toList =
      List.replicate (width - (Nat.toDigits 16 n).length) '0' ++ Nat.toDigits 16 n := by
  simp [hexDigits]

/-- Two of the four digits write a number of one byte. -/
theorem toList_hexDigits_of_lt {n : Nat} (h : n < 256) :
    (hexDigits 4 n).toList = ['0', '0', Nat.digitChar (n / 16), Nat.digitChar (n % 16)] := by
  rw [toList_hexDigits, Nat.toDigits_eq_if (by decide)]
  split_ifs with hone
  · rw [Nat.div_eq_of_lt hone, Nat.mod_eq_of_lt hone]
    rfl
  · rw [Nat.toDigits_eq_if (by decide), if_pos (by omega)]
    rfl

end Conform.Text

namespace Conform.Instant

open Text Numeral

/-- A field of fixed width reads back. -/
theorem digitsBetween_decimalDigits (width : Nat) {n : Nat} (hwidth : 0 < width)
    (h : n < Nat.pow 10 width) (rest : List Char) :
    digitsBetween width width ((decimalDigits width n).toList ++ rest) = some (n, rest) := by
  have hlength := length_decimalDigits width hwidth h
  have htake : ((decimalDigits width n).toList ++ rest).take width =
      (decimalDigits width n).toList := List.take_left' hlength
  have hdigits : (decimalDigits width n).toList.takeWhile isDigit =
      (decimalDigits width n).toList := by
    rw [List.takeWhile_eq_self_iff]
    exact fun c hc => isDigit_of_mem_decimalDigits hc
  have hdrop : ((decimalDigits width n).toList ++ rest).drop width = rest :=
    List.drop_left' hlength
  simp only [digitsBetween, htake, hdigits, hlength, Nat.lt_irrefl, ↓reduceIte,
    decimalValue_decimalDigits, hdrop]

end Conform.Instant
