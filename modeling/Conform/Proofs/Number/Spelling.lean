import Conform.Proofs.Number.Numeral
import Conform.Proofs.Number.Whole
import Conform.Proofs.Text.Digits

/-!
# Spelling numerals

A decimal numeral as it is spelled: an optional sign, digits with an optional point among or around
them and an optional exponent.  A spelling denotes a rational number.  It is read as the numeral of
that value, and as a whole number where it is a sign and digits alone.
-/

namespace Conform

theorem Text.decimalValue_append (as bs : List Char) :
    decimalValue (as ++ bs) = decimalValue as * 10 ^ bs.length + decimalValue bs := by
  simp only [decimalValue_eq]
  rw [Nat.ofDigitChars_append, Nat.ofDigitChars_eq_ofDigitChars_zero, Nat.mul_comm]

/-- The number that digits write has at most as many digits. -/
theorem Text.decimalValue_lt {ds : List Char} (h : ∀ c ∈ ds, isDigit c = true) :
    decimalValue ds < 10 ^ ds.length := by
  induction ds with
  | nil => decide
  | cons c cs ih =>
      have hrest := ih fun d hd => h d (List.mem_cons_of_mem c hd)
      have hfirst : decimalValue [c] < 10 := by
        simpa [decimalValue] using digitValue_lt (h c List.mem_cons_self)
      calc decimalValue (c :: cs) = decimalValue [c] * 10 ^ cs.length + decimalValue cs :=
            decimalValue_append [c] cs
        _ < (decimalValue [c] + 1) * 10 ^ cs.length := by
            rw [Nat.succ_mul]
            omega
        _ ≤ 10 * 10 ^ cs.length := Nat.mul_le_mul_right _ hfirst
        _ = 10 ^ (c :: cs).length := by rw [List.length_cons, Nat.pow_succ, Nat.mul_comm]

namespace Numeral

open Text

/-- The digits of a numeral are split off what follows them. -/
theorem splitDigits_append {ds rest : List Char} (hds : ∀ c ∈ ds, isDigit c = true)
    (hrest : ∀ c, rest.head? = some c → isDigit c = false) :
    splitDigits (ds ++ rest) = (ds, rest) := by
  obtain ⟨htake, hdrop⟩ := takeWhile_dropWhile_append hds hrest
  rw [splitDigits, htake, hdrop]

/-- An optional sign as it is spelled; true stands for minus. -/
def signText : Option Bool → List Char
  | some true => ['-']
  | some false => ['+']
  | none => []

theorem splitSign_signText (sign : Option Bool) {rest : List Char}
    (hrest : ∀ c, rest.head? = some c → c ≠ '-' ∧ c ≠ '+') :
    splitSign (signText sign ++ rest) = (sign == some true, rest) := by
  match sign with
  | some true => rfl
  | some false => rfl
  | none =>
      rw [signText, List.nil_append]
      unfold splitSign
      split
      · exact ((hrest _ rfl).1 rfl).elim
      · exact ((hrest _ rfl).2 rfl).elim
      · rfl

theorem ne_sign_of_isDigit {c : Char} (h : isDigit c = true) : c ≠ '-' ∧ c ≠ '+' := by
  constructor
  · rintro rfl
    contradiction
  · rintro rfl
    contradiction

/-- A whole number given by an optional sign and digits. -/
def signedDigits (sign : Option Bool) (ds : List Char) : Int :=
  if sign == some true then -(decimalValue ds : Int) else decimalValue ds

/-- The exponent of a numeral: a letter `e` of either case, an optional sign and digits. -/
structure ExponentPart where
  capital : Bool
  sign : Option Bool
  digits : List Char
  isDigit : ∀ c ∈ digits, isDigit c = true
  nonempty : digits ≠ []

namespace ExponentPart

variable (e : ExponentPart)

def text : List Char :=
  (if e.capital then 'E' else 'e') :: (signText e.sign ++ e.digits)

/-- The whole number that the exponent denotes. -/
def value : Int :=
  signedDigits e.sign e.digits

theorem exponentOf?_text : exponentOf? e.text = some e.value := by
  have hsign : splitSign (signText e.sign ++ e.digits) = (e.sign == some true, e.digits) :=
    splitSign_signText e.sign fun c hc => ne_sign_of_isDigit (e.isDigit c (List.mem_of_head? hc))
  have hdigits := splitDigits_of_digits e.isDigit
  obtain ⟨d, ds, hds⟩ := List.exists_cons_of_ne_nil e.nonempty
  rw [text, exponentOf?, if_pos (by cases e.capital <;> simp), hsign]
  simp only [hdigits, value, signedDigits]
  rw [hds]

end ExponentPart

/-- A decimal numeral as it is spelled.  There is at least one digit before or after the point. -/
structure Spelling where
  sign : Option Bool
  whole : List Char
  fraction : Option (List Char)
  exponent : Option ExponentPart
  whole_digits : ∀ c ∈ whole, isDigit c = true
  fraction_digits : ∀ ds ∈ fraction, ∀ c ∈ ds, isDigit c = true
  nonempty : whole ++ fraction.getD [] ≠ []

namespace Spelling

variable (sp : Spelling)

/-- The point and the digits after it. -/
def fractionText : List Char :=
  (sp.fraction.map ('.' :: ·)).getD []

def exponentText : List Char :=
  (sp.exponent.map ExponentPart.text).getD []

def text : List Char :=
  signText sp.sign ++ (sp.whole ++ (sp.fractionText ++ sp.exponentText))

/-- The rational number that a spelling denotes. -/
def value : ℚ :=
  let fraction := sp.fraction.getD []
  Double.signed (sp.sign == some true)
    ((decimalValue sp.whole + decimalValue fraction / 10 ^ fraction.length) *
      10 ^ ((sp.exponent.map ExponentPart.value).getD 0))

/-- A spelling with no point and no exponent. -/
def IsPlain : Prop :=
  sp.fraction = none ∧ sp.exponent = none

/-! ### Reading the parts -/

theorem head_exponentText {c : Char} (h : sp.exponentText.head? = some c) : c = 'E' ∨ c = 'e' := by
  rw [exponentText] at h
  cases he : sp.exponent with
  | none =>
      rw [he] at h
      contradiction
  | some e =>
      rw [he] at h
      obtain rfl : (if e.capital then 'E' else 'e') = c := Option.some.inj h
      cases e.capital <;> simp

theorem splitDigits_exponentText {ds : List Char} (hds : ∀ c ∈ ds, Text.isDigit c = true) :
    splitDigits (ds ++ sp.exponentText) = (ds, sp.exponentText) := by
  apply splitDigits_append hds
  intro c hc
  rcases sp.head_exponentText hc with rfl | rfl <;> rfl

theorem splitFraction_text :
    splitFraction (sp.fractionText ++ sp.exponentText) =
      (sp.fraction.getD [], sp.exponentText) := by
  cases hfraction : sp.fraction with
  | some ds =>
      rw [fractionText, hfraction]
      exact sp.splitDigits_exponentText (sp.fraction_digits ds hfraction)
  | none =>
      rw [fractionText, hfraction, Option.map_none, Option.getD_none, List.nil_append]
      unfold splitFraction
      split
      · rename_i heq
        have hhead := sp.head_exponentText (c := '.') (by rw [heq]; rfl)
        simp at hhead
      · rfl

theorem exponentOf?_exponentText :
    exponentOf? sp.exponentText = some ((sp.exponent.map ExponentPart.value).getD 0) := by
  rw [exponentText]
  cases sp.exponent with
  | none => rfl
  | some e => exact e.exponentOf?_text

theorem splitDigits_whole :
    splitDigits (sp.whole ++ (sp.fractionText ++ sp.exponentText)) =
      (sp.whole, sp.fractionText ++ sp.exponentText) := by
  cases hfraction : sp.fraction with
  | none =>
      rw [fractionText, hfraction]
      exact sp.splitDigits_exponentText sp.whole_digits
  | some ds =>
      apply splitDigits_append sp.whole_digits
      intro c hc
      rw [fractionText, hfraction] at hc
      obtain rfl : '.' = c := Option.some.inj hc
      rfl

theorem splitSign_text :
    splitSign sp.text =
      (sp.sign == some true, sp.whole ++ (sp.fractionText ++ sp.exponentText)) := by
  apply splitSign_signText
  intro c hc
  cases hwhole : sp.whole with
  | cons d ds =>
      rw [hwhole] at hc
      obtain rfl : d = c := Option.some.inj hc
      exact ne_sign_of_isDigit (sp.whole_digits d (by simp [hwhole]))
  | nil =>
      cases hfraction : sp.fraction with
      | none => exact (sp.nonempty (by simp [hwhole, hfraction])).elim
      | some ds =>
          rw [hwhole, fractionText, hfraction] at hc
          obtain rfl : '.' = c := Option.some.inj hc
          exact ⟨by decide, by decide⟩

/-! ### Reading numerals -/

/-- The numeral that a spelling is read as: all digits as one number, and the exponent less the
digits after the point. -/
def numeral : Numeral where
  negative := sp.sign == some true
  digits := decimalValue (sp.whole ++ sp.fraction.getD [])
  exponent := (sp.exponent.map ExponentPart.value).getD 0 - (sp.fraction.getD []).length

theorem ofText?_text : ofText? sp.text = some sp.numeral := by
  rw [ofText?, sp.splitSign_text]
  simp only [sp.splitDigits_whole, sp.splitFraction_text, if_neg sp.nonempty,
    sp.exponentOf?_exponentText]
  rfl

theorem value_numeral : sp.numeral.value = sp.value := by
  have hten : (10 : ℚ) ≠ 0 := by norm_num
  simp only [Numeral.value, numeral, value, decimalValue_append]
  congr 1
  rw [zpow_sub₀ hten, zpow_natCast]
  push_cast
  field_simp

theorem isNearest_toDouble {x : Double} (h : sp.numeral.toDouble? = some x) :
    x.IsNearest sp.value :=
  sp.value_numeral ▸ isNearest_of_toDouble? h

theorem le_abs_value_of_undefined (h : sp.numeral.toDouble? = none) : 2 ^ 64 ≤ |sp.value| :=
  sp.value_numeral ▸ le_of_toDouble?_eq_none h

/-! ### Reading whole numbers -/

theorem value_of_isPlain (h : sp.IsPlain) : sp.value = signedDigits sp.sign sp.whole := by
  rw [value, h.1, h.2, signedDigits, Double.signed]
  split
  · simp [decimalValue]
  · simp [decimalValue]

theorem wholeOf?_text_of_isPlain (h : sp.IsPlain) :
    wholeOf? sp.text = some (signedDigits sp.sign sp.whole) := by
  have hrest : sp.fractionText ++ sp.exponentText = [] := by
    rw [fractionText, exponentText, h.1, h.2]
    rfl
  have hwhole := sp.splitDigits_whole
  obtain ⟨d, ds, hds⟩ : ∃ d ds, sp.whole = d :: ds :=
    List.exists_cons_of_ne_nil (by simpa [h.1] using sp.nonempty)
  rw [wholeOf?, sp.splitSign_text]
  simp only [hwhole, signedDigits]
  rw [hrest, hds]

theorem wholeOf?_text_of_not_isPlain (h : ¬sp.IsPlain) : wholeOf? sp.text = none := by
  have hrest : sp.fractionText ++ sp.exponentText ≠ [] := by
    intro hnil
    obtain ⟨hfraction, hexponent⟩ := List.append_eq_nil_iff.mp hnil
    apply h
    constructor
    · cases hf : sp.fraction with
      | none => rfl
      | some ds => simp [fractionText, hf] at hfraction
    · cases he : sp.exponent with
      | none => rfl
      | some e => simp [exponentText, he, ExponentPart.text] at hexponent
  rw [wholeOf?, sp.splitSign_text]
  simp only [sp.splitDigits_whole]
  obtain ⟨c, cs, hcs⟩ := List.exists_cons_of_ne_nil hrest
  rw [hcs]
  cases sp.whole <;> rfl

/-- A spelling is read as a signed 64-bit whole number when it is plain and denotes one. -/
theorem int64Of?_text_eq_some_iff {i : Int} :
    int64Of? sp.text = some i ↔
      sp.IsPlain ∧ sp.value = i ∧ -9223372036854775808 ≤ i ∧ i < 9223372036854775808 := by
  rw [int64Of?]
  by_cases hplain : sp.IsPlain
  · rw [sp.wholeOf?_text_of_isPlain hplain, sp.value_of_isPlain hplain, Int.cast_inj]
    rw [Option.filter_eq_some_iff, Option.some.injEq]
    constructor
    · rintro ⟨rfl, hrange⟩
      simpa [hplain] using hrange
    · rintro ⟨-, rfl, hrange⟩
      simpa using hrange
  · rw [sp.wholeOf?_text_of_not_isPlain hplain]
    simp [hplain]

end Spelling

end Numeral

end Conform
