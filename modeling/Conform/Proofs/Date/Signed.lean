import Conform.Proofs.Date.Reading

/-!
# Signed years

The canonical text of an instant outside the years from 0 to 9999 has a year with a sign, and none
of the readers takes it: the strict one wants four digits first, and the forms of the lenient one
all end with a digit, where a canonical text has the letter Z.  So whatever the coercion to dates
makes is left alone by it.
-/

namespace Conform.Instant

open Text Numeral

variable {t : Instant} {cs rest : List Char} {n : Nat}

/-! ### Forms that end with a digit -/

/-- Characters that end with a digit. -/
def EndsWithDigit (cs : List Char) : Prop :=
  ∃ d, cs.getLast? = some d ∧ isDigit d = true

theorem EndsWithDigit.of_suffix (h : rest <:+ cs) (hrest : EndsWithDigit rest) :
    EndsWithDigit cs := by
  obtain ⟨d, hd, hdigit⟩ := hrest
  exact ⟨d, last_of_suffix h hd, hdigit⟩

theorem endsWithDigit_of_digits (hne : cs ≠ []) (h : ∀ d ∈ cs, isDigit d = true) :
    EndsWithDigit cs :=
  ⟨cs.getLast hne, List.getLast?_eq_some_getLast hne, h _ (List.getLast_mem hne)⟩

theorem suffix_dropBlanks (cs : List Char) : dropBlanks cs <:+ cs :=
  List.dropWhile_suffix isBlank

theorem suffix_of_field {most : Nat} (h : field most cs = some (n, rest)) : rest <:+ cs :=
  (suffix_of_digitsBetween h).trans (suffix_dropBlanks cs)

/-- A field that ends a text ends it with a digit. -/
theorem endsWithDigit_of_field {most : Nat} (h : field most cs = some (n, [])) :
    EndsWithDigit cs := by
  obtain ⟨ds, hds, hdigits, hlength⟩ := exists_digits_of_digitsBetween h
  rw [List.append_nil] at hds
  have hne : ds ≠ [] := List.ne_nil_of_length_pos hlength
  exact (endsWithDigit_of_digits hne hdigits).of_suffix (hds ▸ suffix_dropBlanks cs)

theorem splitDigits_eq {ds : List Char} (h : splitDigits cs = (ds, rest)) :
    cs = ds ++ rest ∧ ∀ d ∈ ds, isDigit d = true := by
  obtain ⟨rfl, rfl⟩ := Prod.mk.inj h
  exact ⟨List.takeWhile_append_dropWhile.symm, fun d hd => List.mem_takeWhile_imp hd⟩

/-- The digits after the point of a second, or the digits of the second, end a text. -/
theorem endsWithDigit_of_optionalNanos (h : optionalNanos cs = some (n, [])) :
    cs = [] ∨ EndsWithDigit cs := by
  unfold optionalNanos at h
  split at h
  · rename_i tail
    rw [nanoDigits] at h
    split at h
    · contradiction
    · rename_i ds left hne hsplit
      obtain ⟨-, rfl⟩ := Prod.mk.inj (Option.some.inj h)
      obtain ⟨rfl, hdigits⟩ := splitDigits_eq hsplit
      rw [List.append_nil]
      exact .inr ((endsWithDigit_of_digits hne hdigits).of_suffix (List.suffix_cons _ _))
  · exact .inl (Prod.mk.inj (Option.some.inj h)).2

theorem suffix_of_signedYear {ds : List Char} {sign : Char} (h : splitDigits cs = (ds, rest)) :
    rest <:+ sign :: cs := by
  rw [(splitDigits_eq h).1]
  exact (List.suffix_append ds rest).trans (List.suffix_cons _ _)

theorem suffix_of_yearField {year : Int} (h : yearField cs = some (year, rest)) : rest <:+ cs := by
  refine List.IsSuffix.trans ?_ (suffix_dropBlanks cs)
  unfold yearField at h
  split at h
  · rename_i tail heq
    rw [heq]
    split at h
    · contradiction
    · rename_i hsplit
      obtain ⟨-, rfl⟩ := Prod.mk.inj (Option.some.inj h)
      exact suffix_of_signedYear hsplit
  · rename_i tail heq
    rw [heq]
    split at h
    · contradiction
    · rename_i hsplit
      obtain ⟨-, rfl⟩ := Prod.mk.inj (Option.some.inj h)
      exact suffix_of_signedYear hsplit
  · obtain ⟨⟨year, left⟩, hscan, hpair⟩ := Option.map_eq_some_iff.mp h
    obtain ⟨-, rfl⟩ := Prod.mk.inj hpair
    exact suffix_of_digitsBetween hscan

/-- A date in the short form ends with the field of its day. -/
theorem exists_dayField_of_looseDate {date : CivilDate} (h : looseDate cs = some (date, rest)) :
    ∃ front n, front <:+ cs ∧ field 2 front = some (n, rest) := by
  obtain ⟨⟨year, cs₁⟩, hyear, h⟩ := Option.bind_eq_some_iff.mp h
  obtain ⟨cs₂, hdash, h⟩ := Option.bind_eq_some_iff.mp h
  obtain ⟨⟨month, cs₃⟩, hmonth, h⟩ := Option.bind_eq_some_iff.mp h
  obtain ⟨cs₄, hdash', h⟩ := Option.bind_eq_some_iff.mp h
  obtain ⟨⟨day, cs₅⟩, hday, h⟩ := Option.bind_eq_some_iff.mp h
  obtain rfl : cs₅ = rest := (Prod.mk.inj (Option.some.inj h)).2
  refine ⟨cs₄, day, ?_, hday⟩
  refine (suffix_of_skipChar hdash').trans ?_
  refine (suffix_of_field hmonth).trans ?_
  refine (suffix_of_skipChar hdash).trans ?_
  exact suffix_of_yearField hyear

theorem suffix_of_looseDate {date : CivilDate} (h : looseDate cs = some (date, rest)) :
    rest <:+ cs := by
  obtain ⟨front, n, hfront, hday⟩ := exists_dayField_of_looseDate h
  exact (suffix_of_field hday).trans hfront

/-- A date and a time in the short form end with a digit of the second. -/
theorem endsWithDigit_of_looseDateTime? {separator : List Char → Option (List Char)}
    (hseparator : ∀ cs rest, separator cs = some rest → rest <:+ cs)
    (h : looseDateTime? separator cs = some t) : EndsWithDigit cs := by
  obtain ⟨⟨date, cs₁⟩, hdate, h⟩ := Option.bind_eq_some_iff.mp h
  obtain ⟨cs₂, hmark, h⟩ := Option.bind_eq_some_iff.mp h
  obtain ⟨⟨hour, cs₃⟩, hhour, h⟩ := Option.bind_eq_some_iff.mp h
  obtain ⟨cs₄, hcolon, h⟩ := Option.bind_eq_some_iff.mp h
  obtain ⟨⟨minute, cs₅⟩, hminute, h⟩ := Option.bind_eq_some_iff.mp h
  obtain ⟨cs₆, hcolon', h⟩ := Option.bind_eq_some_iff.mp h
  obtain ⟨⟨second, cs₇⟩, hsecond, h⟩ := Option.bind_eq_some_iff.mp h
  obtain ⟨⟨nano, cs₈⟩, hnano, h⟩ := Option.bind_eq_some_iff.mp h
  simp only at h
  split at h
  · rename_i hrest
    subst hrest
    have hclock : EndsWithDigit cs₆ := by
      rcases endsWithDigit_of_optionalNanos hnano with rfl | hdigit
      · exact endsWithDigit_of_field hsecond
      · exact hdigit.of_suffix (suffix_of_field hsecond)
    refine hclock.of_suffix ?_
    refine (suffix_of_skipChar hcolon').trans ?_
    refine (suffix_of_field hminute).trans ?_
    refine (suffix_of_skipChar hcolon).trans ?_
    refine (suffix_of_field hhour).trans ?_
    refine (hseparator _ _ hmark).trans ?_
    exact suffix_of_looseDate hdate
  · contradiction

theorem endsWithDigit_of_looseMidnight? (h : looseMidnight? cs = some t) : EndsWithDigit cs := by
  obtain ⟨⟨date, left⟩, hdate, h⟩ := Option.bind_eq_some_iff.mp h
  simp only at h
  split at h
  · rename_i hleft
    subst hleft
    obtain ⟨front, n, hfront, hday⟩ := exists_dayField_of_looseDate hdate
    exact (endsWithDigit_of_field hday).of_suffix hfront
  · contradiction

theorem suffix_splitSign (cs : List Char) : (splitSign cs).2 <:+ cs := by
  unfold splitSign
  split
  · exact List.suffix_cons _ _
  · exact List.suffix_cons _ _
  · exact List.suffix_refl _

theorem endsWithDigit_of_int64Of? {i : Int} (h : int64Of? cs = some i) : EndsWithDigit cs := by
  have hwhole : wholeOf? cs = some i := (Option.filter_eq_some_iff.mp h).1
  refine EndsWithDigit.of_suffix (suffix_splitSign cs) ?_
  rw [wholeOf?] at hwhole
  generalize splitSign cs = signed at hwhole ⊢
  obtain ⟨negative, tail⟩ := signed
  simp only at hwhole ⊢
  split at hwhole
  · contradiction
  · rename_i ds hne hsplit
    obtain ⟨rfl, hdigits⟩ := splitDigits_eq hsplit
    rw [List.append_nil]
    exact endsWithDigit_of_digits hne hdigits
  · contradiction

/-- A text of the lenient reader that is no date-time of RFC 3339 ends with a digit, blanks
aside. -/
theorem rfc3339?_or_endsWithDigit {s : String} (h : lenient? s = some t) :
    rfc3339? (String.ofList (trim s.toList)) = some t ∨ EndsWithDigit (trim s.toList) := by
  simp only [lenient?, Option.orElse_eq_orElse, Option.orElse_eq_or, Option.or_eq_some_iff] at h
  rcases h with h | ⟨-, h | ⟨-, h | ⟨-, h | ⟨-, h⟩⟩⟩⟩
  · exact .inl h
  · refine .inr (endsWithDigit_of_looseDateTime? ?_ h)
    rintro cs rest hrest
    exact Option.some.inj hrest ▸ suffix_dropBlanks cs
  · exact .inr (endsWithDigit_of_looseDateTime? (fun _ _ => suffix_of_skipChar) h)
  · exact .inr (endsWithDigit_of_looseMidnight? h)
  · obtain ⟨i, hi, -⟩ := Option.bind_eq_some_iff.mp h
    exact .inr (endsWithDigit_of_int64Of? hi)

/-! ### Canonical texts with a signed year -/

theorem getLast?_text (t : Instant) : t.text.toList.getLast? = some 'Z' := by
  have hzone : "Z".toList = ['Z'] := rfl
  rw [text_eq, String.toList_append, hzone, List.getLast?_concat]

/-- The canonical text of an instant outside the years from 0 to 9999 is not read. -/
theorem lenient?_text_eq_none (hyear : ¬(0 ≤ (CivilDate.ofDayNumber t.day).year ∧
    (CivilDate.ofDayNumber t.day).year ≤ 9999)) : lenient? t.text = none := by
  obtain ⟨c, rest, hsign, htext⟩ := exists_sign_text hyear
  have hunpadded : Unpadded t.text.toList := by
    constructor
    · intro d hd
      rw [htext] at hd
      obtain rfl := Option.some.inj hd
      rcases hsign with rfl | rfl <;> decide
    · intro d hd
      obtain rfl := Option.some.inj ((getLast?_text t).symm.trans hd)
      decide
  rw [Option.eq_none_iff_forall_ne_some]
  intro u hread
  have hforms := rfc3339?_or_endsWithDigit hread
  rw [trim_of_unpadded hunpadded, String.ofList_toList] at hforms
  rcases hforms with hstrict | ⟨d, hd, hdigit⟩
  · exact hyear (year_mem_of_rfc3339?_text (Option.isSome_iff_exists.mpr ⟨u, hstrict⟩))
  · obtain rfl := Option.some.inj ((getLast?_text t).symm.trans hd)
    exact absurd hdigit (by decide)

end Conform.Instant

namespace Conform.Coercion

open Instant

/-- What the coercion to dates makes is left alone by it. -/
theorem toDate_again {x y : Json} (h : toDate x = some y) : toDate y = none := by
  obtain ⟨t, rfl⟩ := exists_text_of_toDate h
  rw [toDate]
  by_cases hyear : 0 ≤ (CivilDate.ofDayNumber t.day).year ∧
      (CivilDate.ofDayNumber t.day).year ≤ 9999
  · simp only [lenient?_text hyear.1 hyear.2, text_toMillisecond, ↓reduceIte]
  · rw [lenient?_text_eq_none hyear]

end Conform.Coercion
