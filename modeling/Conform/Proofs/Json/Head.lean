import Conform.Json.Reader
import Conform.Json.Writer
import Conform.Proofs.Number.Whole

/-!
# How texts of values begin

The first character of the compact text of a value tells its type, and is never a space or one of
the characters that stand between values.
-/

namespace Conform

open Text

/-- Characters that begin with a digit. -/
def Text.DigitFirst (cs : List Char) : Prop :=
  ∃ c, cs.head? = some c ∧ isDigit c = true

theorem Text.DigitFirst.append {cs : List Char} (h : DigitFirst cs) (rest : List Char) :
    DigitFirst (cs ++ rest) := by
  obtain ⟨c, hc, hdigit⟩ := h
  exact ⟨c, by rw [List.head?_append, hc, Option.some_or], hdigit⟩

theorem Text.digitFirst_of_digits {ds : List Char} (hds : ds ≠ [])
    (h : ∀ c ∈ ds, isDigit c = true) : DigitFirst ds :=
  ⟨ds.head hds, List.head?_eq_some_head hds, h _ (List.head_mem hds)⟩

theorem Text.isDigit_of_mem_toDigits {n : Nat} {c : Char} (h : c ∈ Nat.toDigits 10 n) :
    isDigit c = true :=
  Nat.isDigit_of_mem_toDigits (by decide) (by decide) h

namespace Number

theorem digitFirst_plainDigits (d : Decimal) : DigitFirst (plainDigits d).toList := by
  rw [plainDigits]
  dsimp only
  split
  · rw [String.toList_ofList]
    exact (digitFirst_of_digits Nat.toDigits_ne_nil fun _ => isDigit_of_mem_toDigits).append _
  · -- at least one digit stands before the point, for which zeros are put in front
    generalize (-d.exponent).toNat = places
    generalize hpadded : List.replicate (places + 1 - (Nat.toDigits 10 d.digits).length) '0' ++
      Nat.toDigits 10 d.digits = padded
    have hlength : places + 1 ≤ padded.length := by
      rw [← hpadded, List.length_append, List.length_replicate]
      omega
    have hdigits : ∀ c ∈ padded, isDigit c = true := by
      intro c hc
      rw [← hpadded, List.mem_append] at hc
      rcases hc with hc | hc
      · rw [List.eq_of_mem_replicate hc]
        rfl
      · exact isDigit_of_mem_toDigits hc
    have hwhole : padded.take (padded.length - places) ≠ [] := by
      intro hnil
      have hnone := congrArg List.length hnil
      rw [List.length_take, List.length_nil] at hnone
      omega
    rw [String.toList_ofList]
    exact (digitFirst_of_digits hwhole fun c hc => hdigits c (List.mem_of_mem_take hc)).append _

theorem digitFirst_scientificDigits (d : Decimal) : DigitFirst (scientificDigits d).toList := by
  obtain ⟨c, hc, hdigit⟩ : DigitFirst (Nat.toDigits 10 d.digits) :=
    digitFirst_of_digits Nat.toDigits_ne_nil fun _ => isDigit_of_mem_toDigits
  refine ⟨c, ?_, hdigit⟩
  rw [scientificDigits]
  generalize Nat.toDigits 10 d.digits = ds at hc ⊢
  rcases ds with _ | ⟨c', _ | ⟨c'', cs⟩⟩
  · contradiction
  · simpa using hc
  · simpa using hc

/-- The text of a number begins with a minus sign or a digit. -/
theorem exists_head_text (n : Number) :
    ∃ c, n.text.toList.head? = some c ∧ (c == '-' || isDigit c) = true := by
  have hsigned (negative : Bool) {cs : List Char} (h : DigitFirst cs) :
      ∃ c, ((if negative then ['-'] else []) ++ cs).head? = some c ∧
        (c == '-' || isDigit c) = true := by
    obtain ⟨c, hc, hdigit⟩ := h
    cases negative with
    | true => exact ⟨'-', rfl, rfl⟩
    | false => exact ⟨c, hc, by rw [hdigit, Bool.or_true]⟩
  cases n with
  | int i bounds =>
      have htext : (Number.int i bounds).text.toList =
          (if decide (i < 0) then ['-'] else []) ++ Nat.toDigits 10 i.natAbs := by
        rw [toList_text_int]
        by_cases hnegative : i < 0 <;> simp [hnegative]
      rw [htext]
      exact hsigned _ (digitFirst_of_digits Nat.toDigits_ne_nil fun _ => isDigit_of_mem_toDigits)
  | float x =>
      have hsign : (signText x).toList = if x.negative then ['-'] else [] := by
        rw [signText]
        cases x.negative <;> rfl
      rw [text, floatText, String.toList_append, hsign]
      refine hsigned _ ?_
      split
      · rw [String.toList_append]
        exact (digitFirst_plainDigits _).append _
      · exact digitFirst_scientificDigits _

end Number

namespace Json

/-- Whether the text of a value can begin with a character. -/
def beginsWith (c : Char) : Json → Bool
  | .null => c == 'n'
  | .bool true => c == 't'
  | .bool false => c == 'f'
  | .num _ => c == '-' || isDigit c
  | .str _ => c == '"'
  | .arr _ => c == '['
  | .obj _ => c == '\x7b'

theorem exists_beginsWith (v : Json) :
    ∃ c cs, v.write = c :: cs ∧ v.beginsWith c = true := by
  cases v with
  | null => exact ⟨_, _, rfl, rfl⟩
  | bool b => cases b <;> exact ⟨_, _, rfl, rfl⟩
  | num n =>
      obtain ⟨c, hc, hfirst⟩ := n.exists_head_text
      obtain ⟨cs, hcs⟩ := List.head?_eq_some_iff.mp hc
      exact ⟨c, cs, hcs, hfirst⟩
  | str s => exact ⟨_, _, rfl, rfl⟩
  | arr items => exact ⟨_, _, rfl, rfl⟩
  | obj fields => exact ⟨_, _, rfl, rfl⟩

theorem ne_of_beginsWith {v : Json} {c d : Char} (h : v.beginsWith c = true)
    (hd : v.beginsWith d = false) : c ≠ d := by
  rintro rfl
  rw [h] at hd
  contradiction

/-- No text begins with a space or with what stands after a value. -/
theorem apart_of_beginsWith {v : Json} {c : Char} (h : v.beginsWith c = true) :
    isSpace c = false ∧ c ≠ ']' ∧ c ≠ ',' := by
  have hne : ∀ d ∈ [' ', '\n', '\t', '\r', ']', ','], c ≠ d := by
    intro d hd
    refine ne_of_beginsWith h ?_
    revert d
    cases v with
    | bool b => cases b <;> simp [beginsWith]
    | _ => simp [beginsWith, isDigit]
  simp only [List.forall_mem_cons, List.not_mem_nil, false_imp_iff, implies_true, and_true] at hne
  obtain ⟨hblank, hline, htab, hreturn, hbracket, hcomma⟩ := hne
  refine ⟨?_, hbracket, hcomma⟩
  simp only [isSpace, Bool.or_eq_false_iff, beq_eq_false_iff_ne]
  exact ⟨⟨⟨hblank, hline⟩, htab⟩, hreturn⟩

end Json

end Conform
