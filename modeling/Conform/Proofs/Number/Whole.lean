import Conform.Json.Basic
import Conform.Proofs.Text.Blank
import Conform.Proofs.Text.Digits

/-!
# Whole numbers and their texts

A whole number in the range of numbers has the integer form.  Its text is an optional minus sign
before decimal digits, and has no blank at either end.
-/

namespace Conform

open Text

/-- Decimal digits, at least one, after a minus sign if there is one. -/
structure Text.IsSignedDigits (cs ds : List Char) (negative : Bool) : Prop where
  eq : cs = if negative then '-' :: ds else ds
  digits : ∀ c ∈ ds, isDigit c = true
  nonempty : ds ≠ []

theorem Json.ofInt_eq {n : Int} (bounds : -9223372036854775808 ≤ n ∧ n < 18446744073709551616) :
    Json.ofInt n = .num (.int n bounds) := by
  rw [ofInt, Number.ofInt, Number.ofInt?, dif_pos bounds, Option.getD_some]

namespace Number

/-- The text of a whole number. -/
theorem toList_text_int (i : Int) (bounds : -9223372036854775808 ≤ i ∧ i < 18446744073709551616) :
    (Number.int i bounds).text.toList =
      if i < 0 then '-' :: Nat.toDigits 10 i.natAbs else Nat.toDigits 10 i.natAbs := by
  rw [text, Int.toString_eq_repr, Int.repr_eq_if]
  by_cases hnegative : i < 0
  · have habs : (-i).toNat = i.natAbs := by omega
    rw [if_pos hnegative, if_neg (by omega), habs]
    simp
  · have habs : i.toNat = i.natAbs := by omega
    rw [if_neg hnegative, if_pos (by omega), habs]
    simp

theorem isSignedDigits_text (i : Int)
    (bounds : -9223372036854775808 ≤ i ∧ i < 18446744073709551616) :
    IsSignedDigits (Number.int i bounds).text.toList (Nat.toDigits 10 i.natAbs)
      (decide (i < 0)) where
  eq := by simpa using toList_text_int i bounds
  digits c hc := Nat.isDigit_of_mem_toDigits (by decide) (by decide) hc
  nonempty := Nat.toDigits_ne_nil

end Number

theorem Numeral.splitDigits_of_digits {ds : List Char} (h : ∀ c ∈ ds, isDigit c = true) :
    splitDigits ds = (ds, []) := by
  rw [splitDigits, List.takeWhile_eq_self_iff.mpr h, List.dropWhile_eq_nil_iff.mpr h]

namespace Text.IsSignedDigits

variable {cs ds : List Char} {negative : Bool}

theorem unpadded (h : IsSignedDigits cs ds negative) : Unpadded cs := by
  obtain ⟨rfl, hdigits, hnonempty⟩ := h
  have hlast : ∀ c, ds.getLast? = some c → isBlank c = false := fun c hc =>
    isBlank_eq_false_of_isDigit (hdigits c (List.mem_of_getLast? hc))
  have hhead : ∀ c, ds.head? = some c → isBlank c = false := fun c hc =>
    isBlank_eq_false_of_isDigit (hdigits c (List.mem_of_head? hc))
  cases negative with
  | false => exact ⟨hhead, hlast⟩
  | true =>
      refine ⟨?_, ?_⟩
      · intro c hc
        obtain rfl : '-' = c := Option.some.inj hc
        decide
      · intro c hc
        rw [if_pos rfl, List.getLast?_cons_of_ne_nil hnonempty] at hc
        exact hlast c hc

end Text.IsSignedDigits

end Conform
