import Conform.Proofs.Date.RoundTrip
import Conform.Proofs.Number.Whole

/-!
# What the readers of dates take

The strict reader takes no blanks around a date-time, so that the lenient reader, which trims its
text and tries the strict form first, reads every date-time of RFC 3339 like the strict one.  The
text of a whole number is in none of the forms of a date: the lenient reader takes it as a count of
milliseconds.
-/

namespace Conform.Instant

open Text Numeral

variable {s : String} {t : Instant}

/-! ### What a scan takes -/

/-- A scan of digits takes digits from the start of a text. -/
theorem exists_digits_of_digitsBetween {least most n : Nat} {cs rest : List Char}
    (h : digitsBetween least most cs = some (n, rest)) :
    ∃ ds, cs = ds ++ rest ∧ (∀ d ∈ ds, isDigit d = true) ∧ least ≤ ds.length := by
  obtain ⟨ds, hds⟩ : ∃ ds, (cs.take most).takeWhile isDigit = ds := ⟨_, rfl⟩
  simp only [digitsBetween, hds] at h
  split at h
  · contradiction
  · rename_i hlength
    obtain ⟨-, rfl⟩ := Prod.mk.inj (Option.some.inj h)
    obtain ⟨tail, htail⟩ : ds <+: cs :=
      hds ▸ (List.takeWhile_prefix isDigit).trans (List.take_prefix most cs)
    refine ⟨ds, ?_, fun d hd => List.mem_takeWhile_imp (hds ▸ hd), Nat.le_of_not_lt hlength⟩
    rw [← htail, List.drop_left]

theorem suffix_of_digitsBetween {least most n : Nat} {cs rest : List Char}
    (h : digitsBetween least most cs = some (n, rest)) : rest <:+ cs := by
  obtain ⟨ds, rfl, -⟩ := exists_digits_of_digitsBetween h
  exact List.suffix_append ds rest

theorem eq_cons_of_skipChar {c : Char} {cs rest : List Char} (h : skipChar c cs = some rest) :
    cs = c :: rest := by
  cases cs with
  | nil => contradiction
  | cons d tail =>
      rw [skipChar] at h
      split at h
      · rename_i hd
        rw [hd, Option.some.inj h]
      · contradiction

theorem suffix_of_skipChar {c : Char} {cs rest : List Char} (h : skipChar c cs = some rest) :
    rest <:+ cs := by
  rw [eq_cons_of_skipChar h]
  exact List.suffix_cons c rest

theorem suffix_of_skipSeparator {cs rest : List Char} (h : skipSeparator cs = some rest) :
    rest <:+ cs := by
  unfold skipSeparator at h
  split at h
  · exact Option.some.inj h ▸ List.suffix_cons _ _
  · exact Option.some.inj h ▸ List.suffix_cons _ _
  · exact Option.some.inj h ▸ List.suffix_cons _ _
  · contradiction

theorem suffix_of_optionalNanos {n : Nat} {cs rest : List Char}
    (h : optionalNanos cs = some (n, rest)) : rest <:+ cs := by
  unfold optionalNanos at h
  split at h
  · rename_i tail
    unfold nanoDigits splitDigits at h
    split at h
    · contradiction
    · rename_i hsplit
      obtain ⟨-, rfl⟩ := Prod.mk.inj (Option.some.inj h)
      obtain ⟨-, rfl⟩ := Prod.mk.inj hsplit
      exact (List.dropWhile_suffix isDigit).trans (List.suffix_cons _ tail)
  · obtain ⟨-, rfl⟩ := Prod.mk.inj (Option.some.inj h)
    exact List.suffix_refl _

/-! ### The ends of a date-time -/

theorem last_of_suffix {cs rest : List Char} (h : rest <:+ cs) {c : Char}
    (hc : rest.getLast? = some c) : cs.getLast? = some c := by
  obtain ⟨front, rfl⟩ := h
  rw [List.getLast?_append, hc]
  rfl

/-- The hours and minutes of an offset that end a text end it with a digit. -/
theorem last_of_offsetFields {n : Int} {cs : List Char} (h : offsetFields cs = some (n, [])) :
    ∃ c, cs.getLast? = some c ∧ isBlank c = false := by
  obtain ⟨⟨hours, cs₁⟩, hhours, h⟩ := Option.bind_eq_some_iff.mp h
  obtain ⟨cs₂, hcolon, h⟩ := Option.bind_eq_some_iff.mp h
  obtain ⟨⟨minutes, cs₃⟩, hminutes, h⟩ := Option.bind_eq_some_iff.mp h
  simp only at h
  split at h
  · obtain rfl : cs₃ = [] := (Prod.mk.inj (Option.some.inj h)).2
    obtain ⟨ds, hds, hdigits, hlength⟩ := exists_digits_of_digitsBetween hminutes
    rw [List.append_nil] at hds
    have hne : ds ≠ [] := List.ne_nil_of_length_pos (by omega)
    have hlast := List.getLast?_eq_some_getLast hne
    have hsuffix := (suffix_of_skipChar hcolon).trans (suffix_of_digitsBetween hhours)
    exact ⟨ds.getLast hne, last_of_suffix hsuffix (hds ▸ hlast),
      isBlank_eq_false_of_isDigit (hdigits _ (List.getLast_mem hne))⟩
  · contradiction

/-- An offset that ends a text ends it with the letter Z or a digit. -/
theorem last_of_offset {n : Int} {cs : List Char} (h : offset cs = some (n, [])) :
    ∃ c, cs.getLast? = some c ∧ isBlank c = false := by
  have signed {sign : Char} {tail : List Char} {m : Int}
      (hfields : offsetFields tail = some (m, [])) :
      ∃ c, (sign :: tail).getLast? = some c ∧ isBlank c = false := by
    obtain ⟨c, hc, hblank⟩ := last_of_offsetFields hfields
    exact ⟨c, last_of_suffix (List.suffix_cons sign tail) hc, hblank⟩
  unfold offset at h
  split at h
  · obtain ⟨-, rfl⟩ := Prod.mk.inj (Option.some.inj h)
    exact ⟨'Z', rfl, by decide⟩
  · obtain ⟨-, rfl⟩ := Prod.mk.inj (Option.some.inj h)
    exact ⟨'z', rfl, by decide⟩
  · exact signed h
  · obtain ⟨⟨seconds, rest⟩, hfields, h⟩ := Option.bind_eq_some_iff.mp h
    obtain rfl : rest = [] := (Prod.mk.inj (Option.some.inj h)).2
    exact signed hfields
  · obtain ⟨⟨seconds, rest⟩, hfields, h⟩ := Option.bind_eq_some_iff.mp h
    obtain rfl : rest = [] := (Prod.mk.inj (Option.some.inj h)).2
    exact signed hfields
  · contradiction

/-- A date-time begins with the digits of its year and ends with an offset. -/
theorem exists_ends_of_rfc3339? (h : rfc3339? s = some t) :
    (∃ year rest, digitsBetween 4 4 s.toList = some (year, rest)) ∧
      ∃ zone ahead, zone <:+ s.toList ∧ offset zone = some (ahead, []) := by
  obtain ⟨⟨year, cs₁⟩, hyear, h⟩ := Option.bind_eq_some_iff.mp h
  obtain ⟨cs₂, hdash, h⟩ := Option.bind_eq_some_iff.mp h
  obtain ⟨⟨month, cs₃⟩, hmonth, h⟩ := Option.bind_eq_some_iff.mp h
  obtain ⟨cs₄, hdash', h⟩ := Option.bind_eq_some_iff.mp h
  obtain ⟨⟨day, cs₅⟩, hday, h⟩ := Option.bind_eq_some_iff.mp h
  obtain ⟨cs₆, hmark, h⟩ := Option.bind_eq_some_iff.mp h
  obtain ⟨⟨hour, cs₇⟩, hhour, h⟩ := Option.bind_eq_some_iff.mp h
  obtain ⟨cs₈, hcolon, h⟩ := Option.bind_eq_some_iff.mp h
  obtain ⟨⟨minute, cs₉⟩, hminute, h⟩ := Option.bind_eq_some_iff.mp h
  obtain ⟨cs₁₀, hcolon', h⟩ := Option.bind_eq_some_iff.mp h
  obtain ⟨⟨second, cs₁₁⟩, hsecond, h⟩ := Option.bind_eq_some_iff.mp h
  obtain ⟨⟨nano, zone⟩, hnano, h⟩ := Option.bind_eq_some_iff.mp h
  obtain ⟨⟨ahead, rest⟩, hzone, h⟩ := Option.bind_eq_some_iff.mp h
  simp only at h
  split at h
  · rename_i hrest
    subst hrest
    refine ⟨⟨year, cs₁, hyear⟩, zone, ahead, ?_, hzone⟩
    refine (suffix_of_optionalNanos hnano).trans ?_
    refine (suffix_of_digitsBetween hsecond).trans ?_
    refine (suffix_of_skipChar hcolon').trans ?_
    refine (suffix_of_digitsBetween hminute).trans ?_
    refine (suffix_of_skipChar hcolon).trans ?_
    refine (suffix_of_digitsBetween hhour).trans ?_
    refine (suffix_of_skipSeparator hmark).trans ?_
    refine (suffix_of_digitsBetween hday).trans ?_
    refine (suffix_of_skipChar hdash').trans ?_
    refine (suffix_of_digitsBetween hmonth).trans ?_
    refine (suffix_of_skipChar hdash).trans ?_
    exact suffix_of_digitsBetween hyear
  · contradiction

theorem unpadded_of_rfc3339? (h : rfc3339? s = some t) : Unpadded s.toList := by
  obtain ⟨⟨year, rest, hyear⟩, zone, ahead, hsuffix, hzone⟩ := exists_ends_of_rfc3339? h
  constructor
  · intro c hc
    obtain ⟨ds, hds, hdigits, hlength⟩ := exists_digits_of_digitsBetween hyear
    obtain ⟨d, tail, rfl⟩ := List.exists_cons_of_length_pos (l := ds) (by omega)
    rw [hds] at hc
    obtain rfl : d = c := Option.some.inj hc
    exact isBlank_eq_false_of_isDigit (hdigits d List.mem_cons_self)
  · intro c hc
    obtain ⟨d, hd, hblank⟩ := last_of_offset hzone
    rw [last_of_suffix hsuffix hd] at hc
    exact Option.some.inj hc ▸ hblank

/-- The lenient reader reads a date-time like the strict one. -/
theorem lenient?_of_rfc3339? (h : rfc3339? s = some t) : lenient? s = some t := by
  rw [lenient?, trim_of_unpadded (unpadded_of_rfc3339? h), String.ofList_toList, h]
  rfl

/-! ### Whole numbers are no dates -/

section

variable {cs ds : List Char} {negative : Bool} (h : IsSignedDigits cs ds negative)
include h

/-- A scan that begins with a digit leaves only digits of signed digits. -/
theorem digits_of_digitsBetween {least most n : Nat} {rest : List Char}
    (hscan : digitsBetween (least + 1) most cs = some (n, rest)) :
    ∀ c ∈ rest, isDigit c = true := by
  obtain ⟨front, hcs, hfront, hlength⟩ := exists_digits_of_digitsBetween hscan
  have heq := h.eq.symm.trans hcs
  cases negative with
  | true =>
      obtain ⟨d, tail, rfl⟩ := List.exists_cons_of_length_pos (l := front) (by omega)
      obtain rfl : '-' = d := (List.cons.inj heq).1
      exact absurd (hfront '-' List.mem_cons_self) (by decide)
  | false =>
      have hds : ds = front ++ rest := heq
      intro c hc
      exact h.digits c (hds ▸ List.mem_append_right front hc)

/-- A year that is read from signed digits leaves no more than digits. -/
theorem digits_of_yearField {n : Int} {rest : List Char} (hyear : yearField cs = some (n, rest)) :
    ∀ c ∈ rest, isDigit c = true := by
  have hsplit := splitDigits_of_digits h.digits
  have hblanks := dropBlanks_of_unpadded h.unpadded
  unfold yearField at hyear
  rw [hblanks] at hyear
  split at hyear
  · rename_i tail
    have hneg : negative = true := by
      by_contra hneg
      have hds : '-' :: tail = ds := by simpa [hneg] using h.eq
      exact absurd (h.digits '-' (hds ▸ List.mem_cons_self)) (by decide)
    obtain rfl : tail = ds := by simpa [hneg] using h.eq
    rw [hsplit] at hyear
    split at hyear
    · contradiction
    · rename_i hpair
      obtain ⟨-, rfl⟩ := Prod.mk.inj hpair
      obtain ⟨-, rfl⟩ := Prod.mk.inj (Option.some.inj hyear)
      exact nofun
  · rename_i tail
    have hplus : '+' :: tail = if negative then '-' :: ds else ds := h.eq
    cases negative with
    | true => simp at hplus
    | false =>
        have hds : '+' :: tail = ds := hplus
        exact absurd (h.digits '+' (hds ▸ List.mem_cons_self)) (by decide)
  · obtain ⟨⟨year, left⟩, hscan, hpair⟩ := Option.map_eq_some_iff.mp hyear
    obtain ⟨-, rfl⟩ := Prod.mk.inj hpair
    exact digits_of_digitsBetween h hscan

omit h in
theorem skipChar_dash_of_digits {rest : List Char} (hrest : ∀ c ∈ rest, isDigit c = true) :
    skipChar '-' rest = none := by
  cases hskip : skipChar '-' rest with
  | none => rfl
  | some tail =>
      rw [eq_cons_of_skipChar hskip] at hrest
      exact absurd (hrest '-' List.mem_cons_self) (by decide)

omit h in
/-- A whole number is no date-time of RFC 3339: no dash follows the digits of a year. -/
theorem rfc3339?_of_signedDigits {s : String} (h : IsSignedDigits s.toList ds negative) :
    rfc3339? s = none := by
  cases hscan : digitsBetween 4 4 s.toList with
  | none => exact bind_of_eq_none hscan
  | some p =>
      have hdash := skipChar_dash_of_digits (digits_of_digitsBetween h hscan)
      exact (bind_of_eq_some hscan).trans (bind_of_eq_none hdash)

/-- A whole number is no date in the short form either, alone or before a time. -/
theorem looseDate_of_signedDigits : looseDate cs = none := by
  cases hyear : yearField cs with
  | none => exact bind_of_eq_none hyear
  | some p =>
      have hdash := skipChar_dash_of_digits (digits_of_yearField h hyear)
      exact (bind_of_eq_some hyear).trans (bind_of_eq_none hdash)

theorem looseDateTime?_of_signedDigits (separator : List Char → Option (List Char)) :
    looseDateTime? separator cs = none := by
  rw [looseDateTime?, looseDate_of_signedDigits h]
  rfl

theorem looseMidnight?_of_signedDigits : looseMidnight? cs = none := by
  rw [looseMidnight?, looseDate_of_signedDigits h]
  rfl

omit h in
/-- The lenient reader takes a whole number as a count of milliseconds. -/
theorem lenient?_of_signedDigits {s : String} (h : IsSignedDigits s.toList ds negative) :
    lenient? s = (int64Of? s.toList).bind ofMillis? := by
  rw [lenient?, trim_of_unpadded h.unpadded, String.ofList_toList, rfc3339?_of_signedDigits h,
    looseDateTime?_of_signedDigits h, looseDateTime?_of_signedDigits h,
    looseMidnight?_of_signedDigits h]
  rfl

end

/-! ### Milliseconds -/

/-- The instant of a count of milliseconds is the one whose fields add up to it. -/
theorem ofMillis?_eq_some_iff {n : Int} :
    ofMillis? n = some t ↔
      t.day = n / 1000 / 86400 ∧ (t.second : Int) = n / 1000 % 86400 ∧
        (t.nano : Int) = n % 1000 * 1000000 := by
  constructor
  · intro h
    rw [ofMillis?, ofParts?] at h
    split at h
    · obtain rfl := Option.some.inj h
      refine ⟨rfl, ?_, ?_⟩
      · simp only
        omega
      · simp only
        omega
    · contradiction
  · rintro ⟨hday, hsecond, hnano⟩
    have hsecond' : (n / 1000 % 86400).toNat = t.second := by omega
    have hnano' : (n % 1000).toNat * 1000000 = t.nano := by omega
    rw [← ofParts?_eq t, ofMillis?, hsecond', hnano', hday]

/-- Every count of milliseconds in the years from 0 to 9999 has an instant. -/
theorem exists_ofMillis? {n : Int} (h : -62167219200000 ≤ n ∧ n ≤ 253402300799999) :
    ∃ t, ofMillis? n = some t := by
  refine ⟨_, dif_pos ⟨?_, ?_, ?_, ?_⟩⟩
  · simp only [minDay, maxDay]
    omega
  · omega
  · omega
  · omega

/-- An instant of a count of milliseconds falls into the years from 0 to 9999 exactly when the count
does. -/
theorem day_mem_iff_of_ofMillis? {n : Int} (h : ofMillis? n = some t) :
    (-719528 ≤ t.day ∧ t.day ≤ 2932896) ↔ -62167219200000 ≤ n ∧ n ≤ 253402300799999 := by
  obtain ⟨hday, -, -⟩ := ofMillis?_eq_some_iff.mp h
  omega

/-- An instant of a count of milliseconds has no finer part. -/
theorem toMillisecond_of_ofMillis? {n : Int} (h : ofMillis? n = some t) : t.toMillisecond = t := by
  obtain ⟨-, -, hnano⟩ := ofMillis?_eq_some_iff.mp h
  have hwhole : t.nano / 1000000 * 1000000 = t.nano := by omega
  obtain ⟨day, second, nano, _, _, _, _⟩ := t
  simp only [toMillisecond, hwhole]

end Conform.Instant
