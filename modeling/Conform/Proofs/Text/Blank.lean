import Conform.Text.Words
import Mathlib.Data.List.DropRight
import Mathlib.Data.List.TakeWhile

/-!
# Trimming

Trimming leaves a text without a blank at either end, and such a text is left alone.
-/

namespace Conform.Text

theorem le_iff_toNat_le {c d : Char} : c ≤ d ↔ c.toNat ≤ d.toNat := by
  rw [Char.le_def, UInt32.le_iff_toNat_le]
  rfl

/-- The visible characters of ASCII are no blanks. -/
theorem isBlank_of_toNat {c : Char} (h : 0x21 ≤ c.toNat ∧ c.toNat ≤ 0x7E) : isBlank c = false := by
  simp only [isBlank, Bool.or_eq_false_iff, Bool.and_eq_false_iff, decide_eq_false_iff_not,
    beq_eq_false_iff_ne]
  omega

/-- Characters with no blank at either end. -/
structure Unpadded (cs : List Char) : Prop where
  head : ∀ c, cs.head? = some c → isBlank c = false
  last : ∀ c, cs.getLast? = some c → isBlank c = false

theorem trim_eq (cs : List Char) : trim cs = (cs.dropWhile isBlank).rdropWhile isBlank := rfl

theorem dropBlanks_of_unpadded {cs : List Char} (h : Unpadded cs) : dropBlanks cs = cs := by
  rw [dropBlanks, List.dropWhile_eq_self_iff]
  intro hpositive
  simp [h.head cs[0] (List.head?_eq_getElem? ▸ List.getElem?_eq_getElem hpositive)]

theorem trim_of_unpadded {cs : List Char} (h : Unpadded cs) : trim cs = cs := by
  have hdrop : cs.dropWhile isBlank = cs := dropBlanks_of_unpadded h
  rw [trim_eq, hdrop, List.rdropWhile_eq_self_iff]
  intro hne
  simp [h.last _ (List.getLast?_eq_some_getLast hne)]

/-- Trimming takes the blanks around a text off. -/
theorem trim_padded {before cs after : List Char} (hbefore : ∀ c ∈ before, isBlank c = true)
    (hafter : ∀ c ∈ after, isBlank c = true) (h : Unpadded cs) :
    trim (before ++ cs ++ after) = cs := by
  rw [trim_eq, List.append_assoc, List.dropWhile_append_of_pos hbefore]
  cases cs with
  | nil =>
      rw [List.nil_append, List.dropWhile_eq_nil_iff.mpr hafter]
      rfl
  | cons c rest =>
      have hhead : isBlank c = false := h.head c rfl
      have hright : trim (c :: rest) = (c :: rest).rdropWhile isBlank := by
        rw [trim_eq, List.dropWhile_cons_of_neg (by simp [hhead])]
      rw [List.cons_append, List.dropWhile_cons_of_neg (by simp [hhead]), ← List.cons_append,
        List.rdropWhile, List.reverse_append,
        List.dropWhile_append_of_pos (by simpa using hafter), ← List.rdropWhile, ← hright,
        trim_of_unpadded h]

/-- A trimmed text has no blank at either end. -/
theorem unpadded_trim (cs : List Char) : Unpadded (trim cs) := by
  have hprefix : trim cs <+: cs.dropWhile isBlank := List.rdropWhile_prefix isBlank _
  constructor
  · intro c hc
    obtain ⟨rest, hrest⟩ := hprefix
    have hhead : (cs.dropWhile isBlank).head? = some c := by
      rw [← hrest, List.head?_append, hc]
      rfl
    simpa [hhead] using List.head?_dropWhile_not isBlank cs
  · intro c hc
    have hne : trim cs ≠ [] := by
      rintro hnil
      simp [hnil] at hc
    have hlast := List.rdropWhile_last_not isBlank (cs.dropWhile isBlank) hne
    rw [List.getLast?_eq_some_getLast hne, Option.some.injEq] at hc
    subst hc
    exact (Bool.not_eq_true _).mp hlast

/-- Trimming twice is trimming once. -/
@[simp] theorem trim_trim (cs : List Char) : trim (trim cs) = trim cs :=
  trim_of_unpadded (unpadded_trim cs)

@[simp] theorem trimmed_trimmed (s : String) : trimmed (trimmed s) = trimmed s := by
  simp [trimmed]

theorem trimmed_of_unpadded {s : String} (h : Unpadded s.toList) : trimmed s = s := by
  rw [trimmed, trim_of_unpadded h, String.ofList_toList]

end Conform.Text
