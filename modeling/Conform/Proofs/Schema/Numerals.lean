import Conform.Proofs.Number.Reading
import Conform.Proofs.Schema.Scalar

/-!
# Validating numerals

What the schemas for whole numbers and for numbers of the standard context make of texts that spell
a decimal numeral.  A spelling is taken for a whole number as it reads as one, and is refused where
it reads as none.
-/

namespace Conform

open Text Numeral

namespace Coercion

variable {s : String} {sp : Spelling}

theorem applyAll_integer (x : Json) :
    applyAll (Standard.coercionOf .integer).toList x = (toInteger x).getD x := rfl

theorem toInteger_spelling (h : trim s.toList = sp.text) :
    toInteger (.str s) = sp.integer?.map Json.ofInt := by
  rw [toInteger, h, sp.ofText?_text, Option.bind_some, Spelling.integer?]

/-- A spelling becomes the whole number that it reads as. -/
theorem applyAll_integer_of_readsAs {n : Int} (h : trim s.toList = sp.text)
    (hn : sp.ReadsAs n) :
    applyAll (Standard.coercionOf .integer).toList (.str s) = .num (.int n hn.bounds) := by
  rw [applyAll_integer, toInteger_spelling h, Spelling.integer?_eq_some_iff.mpr hn]
  exact Json.ofInt_eq hn.bounds

theorem applyAll_integer_of_unread (h : trim s.toList = sp.text) (hn : ¬∃ n, sp.ReadsAs n) :
    applyAll (Standard.coercionOf .integer).toList (.str s) = .str s := by
  have hnone : sp.integer? = none := by
    rw [Option.eq_none_iff_forall_ne_some]
    intro n hread
    exact hn ⟨n, Spelling.integer?_eq_some_iff.mp hread⟩
  rw [applyAll_integer, toInteger_spelling h, hnone]
  rfl

end Coercion

namespace Schema

/-- The schema for whole numbers that the standard context makes, before any call. -/
def lenientInteger : Schema :=
  (Context.standard.ofKind .integer).2

/-- The schema for numbers that the standard context makes, before any call. -/
def lenientNumber : Schema :=
  (Context.standard.ofKind .number).2

section

variable {s : String} {sp : Spelling} {n : Int}

theorem yields_integer_of_readsAs (h : trim s.toList = sp.text) (hn : sp.ReadsAs n) :
    lenientInteger.Yields (.str s) (.num (.int n hn.bounds)) :=
  yields_ofKind (k := .integer) rfl nofun (Coercion.applyAll_integer_of_readsAs h hn) rfl

theorem value_integer_of_unread (h : trim s.toList = sp.text) (hn : ¬∃ n, sp.ReadsAs n) :
    (lenientInteger.validate (some (.str s))).value = some (.str s) :=
  value_ofKind (k := .integer) (x := .str s) rfl nofun (Coercion.applyAll_integer_of_unread h hn)

theorem issues_integer_of_unread (h : trim s.toList = sp.text) (hn : ¬∃ n, sp.ReadsAs n) :
    (lenientInteger.validate (some (.str s))).issues =
      [.ofViolation [] (Node.typeViolation .integer (.str s))] :=
  issues_ofKind (k := .integer) (x := .str s) rfl nofun (Coercion.applyAll_integer_of_unread h hn)

end

/-- The schema for whole numbers makes of a text that spells a numeral the whole number that the
spelling reads as.  Where it reads as none, the text stays and there is one issue.  The number is
never changed where the spelling has no point and no exponent, or has at most 15 digits and no
exponent, or denotes the value of a double: then only what the numeral denotes is accepted. -/
theorem validate_spelling {s : String} {sp : Spelling} (h : trim s.toList = sp.text) :
    let result := lenientInteger.validate (some (.str s))
    (result.conforms = true ↔ ∃ n, sp.ReadsAs n) ∧
      (∀ n bounds, result.value = some (.num (.int n bounds)) ↔ sp.ReadsAs n) ∧
      (result.conforms = false → result.value = some (.str s) ∧
        result.issues = [.ofViolation [] (Node.typeViolation .integer (.str s))]) ∧
      (sp.IsExact →
        (∀ n bounds, result.value = some (.num (.int n bounds)) → sp.value = n) ∧
          ∀ n : Int, sp.value = n → n.natAbs < 9223372036854775808 → result.conforms = true) := by
  intro result
  have hunread (hn : ¬∃ n, sp.ReadsAs n) : result.conforms = false := by
    rw [Visit.conforms, issues_integer_of_unread h hn]
    rfl
  have hvalue (n : Int) (bounds : -9223372036854775808 ≤ n ∧ n < 18446744073709551616) :
      result.value = some (.num (.int n bounds)) ↔ sp.ReadsAs n := by
    constructor
    · intro hresult
      by_cases hn : ∃ m, sp.ReadsAs m
      · obtain ⟨m, hm⟩ := hn
        have hread := hresult.symm.trans (yields_integer_of_readsAs h hm).value
        simp only [Option.some.injEq, Json.num.injEq, Number.int.injEq] at hread
        exact hread ▸ hm
      · cases hresult.symm.trans (value_integer_of_unread h hn)
    · exact fun hn => (yields_integer_of_readsAs h hn).value
  refine ⟨⟨?_, ?_⟩, hvalue, ?_, ?_⟩
  · intro hconforms
    by_contra hn
    exact Bool.false_ne_true ((hunread hn).symm.trans hconforms)
  · rintro ⟨n, hn⟩
    exact (yields_integer_of_readsAs h hn).conforms
  · intro hrefused
    have hn : ¬∃ n, sp.ReadsAs n := by
      rintro ⟨n, hn⟩
      exact Bool.false_ne_true (hrefused.symm.trans (yields_integer_of_readsAs h hn).conforms)
    exact ⟨value_integer_of_unread h hn, issues_integer_of_unread h hn⟩
  · intro hexact
    refine ⟨?_, ?_⟩
    · intro n bounds hresult
      exact Spelling.value_eq_of_readsAs hexact ((hvalue n bounds).mp hresult)
    · intro n hn hbounds
      exact (yields_integer_of_readsAs h
        (Spelling.readsAs_of_value_eq hexact hbounds hn)).conforms

/-- A spelling with a fraction and an exponent. -/
def withExponent : Spelling where
  sign := some true
  whole := ['1', '2']
  fraction := some ['5', '0']
  exponent := some ⟨false, none, ['1'], List.all_eq_true.mp rfl, by decide⟩
  whole_digits := List.all_eq_true.mp rfl
  fraction_digits := by
    rintro ds ⟨⟩
    exact List.all_eq_true.mp rfl
  nonempty := by decide

theorem validate_withExponent :
    lenientInteger.Yields (.str " -12.50e1 ") (.num (.int (-125) (by decide))) := by
  have htext : trim " -12.50e1 ".toList = withExponent.text := by decide +kernel
  have hvalue : withExponent.value = (-125 : Int) := by
    have htwelve : decimalValue ['1', '2'] = 12 := rfl
    have hfifty : decimalValue ['5', '0'] = 50 := rfl
    have hone : decimalValue ['1'] = 1 := rfl
    norm_num [Spelling.value, withExponent, Double.signed, ExponentPart.value, signedDigits,
      htwelve, hfifty, hone]
  have hexact : withExponent.IsExact :=
    .inr (.inr (hvalue ▸ Double.exists_value_eq_intCast (by decide)))
  obtain ⟨-, hread, -, hkept⟩ := validate_spelling htext
  exact ⟨(hkept hexact).2 (-125) hvalue (by decide),
    (hread (-125) (by decide)).mpr (Spelling.readsAs_of_value_eq hexact (by decide) hvalue)⟩

/-- A little more than one, spelled out. -/
def nearlyOne : Spelling where
  sign := none
  whole := ['1']
  fraction := some (List.replicate 19 '0' ++ ['1'])
  exponent := none
  whole_digits := List.all_eq_true.mp rfl
  fraction_digits := by
    rintro ds ⟨⟩
    exact List.all_eq_true.mp rfl
  nonempty := by decide

/-- No whole number, but accepted as one: the nearest double is. -/
theorem validate_nearlyOne_accepted :
    trim "1.00000000000000000001".toList = nearlyOne.text ∧
      (∀ n : Int, nearlyOne.value ≠ n) ∧
      lenientInteger.Yields (.str "1.00000000000000000001") (.num (.int 1 (by decide))) := by
  have htext : trim "1.00000000000000000001".toList = nearlyOne.text := by decide +kernel
  have hread : nearlyOne.ReadsAs 1 := Spelling.integer?_eq_some_iff.mp (by decide +kernel)
  refine ⟨htext, ?_, yields_integer_of_readsAs htext hread⟩
  intro n hn
  have hvalue : nearlyOne.value = 1 + 1 / 10 ^ 20 := by
    have hwhole : decimalValue ['1'] = 1 := rfl
    have hfraction : decimalValue (List.replicate 19 '0' ++ ['1']) = 1 := rfl
    norm_num [Spelling.value, nearlyOne, Double.signed, hwhole, hfraction]
  have hwhole : (10 ^ 20 + 1 : Int) = 10 ^ 20 * n := by
    rw [hvalue] at hn
    field_simp at hn
    exact_mod_cast hn
  omega

/-! ### Texts of whole numbers -/

section

variable {s : String} {n : Int}

/-- The schema for numbers takes the text of a whole number for the number where that has a signed
64-bit form, and for the nearest double where it has not. -/
theorem applyAll_number_of_whole (h : trim s.toList = (Spelling.ofInt n).text)
    (bounds : -9223372036854775808 ≤ n ∧ n < 18446744073709551616) :
    ∃ m : Number, Coercion.applyAll (Standard.coercionOf .number).toList (.str s) = .num m ∧
      (n < 9223372036854775808 → m = .int n bounds) ∧
      (9223372036854775808 ≤ n → ∃ x, m = .float x ∧ x.IsNearest n) := by
  have hcoerced : Coercion.applyAll (Standard.coercionOf .number).toList (.str s) =
      (Coercion.toNumber (.str s)).getD (.str s) := rfl
  rw [hcoerced, Coercion.toNumber, h, Spelling.ofText?_text, Option.bind_some]
  have hint : int64Of? (Spelling.ofInt n).text = (Number.int n bounds).toInt64? := by
    rw [Spelling.text_ofInt n bounds, Number.int64Of?_text]
  rw [hint, Number.toInt64?]
  by_cases hsmall : n < 9223372036854775808
  · refine ⟨.int n bounds, ?_, fun _ => rfl, by omega⟩
    rw [if_pos hsmall]
    exact Json.ofInt_eq bounds
  · rw [if_neg hsmall]
    cases hx : (Spelling.ofInt n).numeral.toDouble? with
    | none =>
        have hlarge := (Spelling.ofInt n).le_abs_value_of_undefined hx
        rw [Spelling.value_ofInt, Double.abs_intCast] at hlarge
        have hnatAbs : 2 ^ 64 ≤ n.natAbs := by exact_mod_cast hlarge
        omega
    | some x =>
        have hnearest := (Spelling.ofInt n).isNearest_toDouble hx
        rw [Spelling.value_ofInt] at hnearest
        exact ⟨.float x, rfl, by omega, fun _ => ⟨x, rfl, hnearest⟩⟩

theorem issues_integer_of_large (h : trim s.toList = (Spelling.ofInt n).text)
    (hlarge : 9223372036854775808 ≤ n) :
    (lenientInteger.validate (some (.str s))).issues =
        [.ofViolation [] (Node.typeViolation .integer (.str s))] ∧
      (lenientInteger.validate (some (.str s))).value = some (.str s) := by
  have hn : ¬∃ m, (Spelling.ofInt n).ReadsAs m := by
    rintro ⟨m, hm⟩
    have hrange := Spelling.readsAs_ofInt_iff.mp hm
    omega
  exact ⟨issues_integer_of_unread h hn, value_integer_of_unread h hn⟩

end

/-- The schemas for numbers and for whole numbers take a whole number as it is.  They take its text,
with any blanks around it, for the same number as long as that has a signed 64-bit form.  Beyond
that, the schema for numbers takes the text for the nearest double, and the one for whole numbers
refuses it. -/
theorem validate_wholeText {n : Int} {before after : List Char}
    (bounds : -9223372036854775808 ≤ n ∧ n < 18446744073709551616)
    (hbefore : ∀ c ∈ before, isBlank c = true) (hafter : ∀ c ∈ after, isBlank c = true) :
    let number : Json := .num (.int n bounds)
    let text : Json := .str (String.ofList (before ++ (Number.int n bounds).text.toList ++ after))
    (lenientNumber.Yields number number ∧ lenientInteger.Yields number number) ∧
      (n < 9223372036854775808 →
        lenientNumber.Yields text number ∧ lenientInteger.Yields text number) ∧
      (9223372036854775808 ≤ n →
        (∃ x : Double, x.IsNearest n ∧ lenientNumber.Yields text (.num (.float x))) ∧
          (lenientInteger.validate (some text)).issues =
            [.ofViolation [] (Node.typeViolation .integer text)] ∧
          (lenientInteger.validate (some text)).value = some text) := by
  intro number text
  have htrim : trim (String.ofList (before ++ (Number.int n bounds).text.toList ++ after)).toList =
      (Spelling.ofInt n).text := by
    rw [String.toList_ofList, Spelling.text_ofInt n bounds]
    exact trim_padded hbefore hafter (Number.isSignedDigits_text n bounds).unpadded
  obtain ⟨m, hm, hsmall, hlarge⟩ := applyAll_number_of_whole htrim bounds
  have hnumber : lenientNumber.Yields text (.num m) :=
    yields_ofKind (k := .number) rfl nofun hm rfl
  refine ⟨⟨yields_ofKind (k := .number) rfl nofun rfl rfl,
    yields_ofKind (k := .integer) rfl nofun rfl rfl⟩, ?_, ?_⟩
  · intro hn
    rw [hsmall hn] at hnumber
    refine ⟨hnumber, ?_⟩
    exact yields_integer_of_readsAs htrim
      (Spelling.readsAs_ofInt_iff.mpr ⟨rfl, bounds.1, hn⟩)
  · intro hn
    obtain ⟨x, rfl, hx⟩ := hlarge hn
    exact ⟨⟨x, hx, hnumber⟩, issues_integer_of_large htrim hn⟩

theorem validate_wholeText_padded :
    lenientNumber.Yields (.str " -42\n") (.num (.int (-42) (by decide))) ∧
      lenientInteger.Yields (.str " -42\n") (.num (.int (-42) (by decide))) := by
  have htext : String.ofList ([' '] ++ (Number.int (-42) (by decide)).text.toList ++ ['\n']) =
      " -42\n" := by
    decide +kernel
  have hbefore : ∀ c ∈ [' '], isBlank c = true := List.all_eq_true.mp rfl
  have hafter : ∀ c ∈ ['\n'], isBlank c = true := List.all_eq_true.mp rfl
  have hyields := (validate_wholeText (n := -42) (by decide) hbefore hafter).2.1 (by decide)
  rw [htext] at hyields
  exact hyields

/-- The text of the first whole number with no signed form: the number is accepted for a whole
number, its text is not, and the schema for numbers makes a double of it. -/
theorem validate_wholeText_unsigned :
    let number : Json := .num (.int 9223372036854775808 (by decide))
    let text : Json := .str "9223372036854775808"
    lenientInteger.Yields number number ∧ lenientNumber.Yields number number ∧
      (lenientInteger.validate (some text)).conforms = false ∧
      ¬lenientNumber.Yields text number := by
  intro number text
  refine ⟨yields_ofKind (k := .integer) rfl nofun rfl rfl,
    yields_ofKind (k := .number) rfl nofun rfl rfl, by decide +kernel, ?_⟩
  intro hyields
  have htype : (lenientNumber.validate (some text)).value.map Json.typeName = some "number" := by
    decide +kernel
  rw [hyields.value] at htype
  exact absurd htype (by decide)

end Schema

end Conform
