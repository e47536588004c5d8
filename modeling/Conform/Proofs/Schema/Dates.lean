import Conform.Proofs.Date.Canonical
import Conform.Proofs.Date.Reading
import Conform.Proofs.Number.Reading
import Conform.Proofs.Schema.Scalar

/-!
# Validating dates

What the schema for dates of the standard context makes of texts and of counts of milliseconds.  A
date-time becomes the canonical text of its instant, and conforms as long as that instant falls into
a year from 0 to 9999 in universal time.  A count of milliseconds and its decimal text are the same
to it.
-/

namespace Conform

open Visit

namespace Coercion

variable {s : String} {t : Instant}

theorem applyAll_date (x : Json) :
    applyAll (Standard.coercionOf .date).toList x = (toDate x).getD x := rfl

/-- A text that is read as an instant becomes the canonical text of the instant. -/
theorem applyAll_date_of_lenient? (h : Instant.lenient? s = some t) :
    applyAll (Standard.coercionOf .date).toList (.str s) = .str t.text := by
  rw [applyAll_date, toDate, h]
  by_cases htext : t.text = s
  · simp [htext]
  · simp [htext]

theorem applyAll_date_of_unread (h : Instant.lenient? s = none) :
    applyAll (Standard.coercionOf .date).toList (.str s) = .str s := by
  rw [applyAll_date, toDate, h]
  rfl

/-- A number that counts the milliseconds of an instant becomes the canonical text of the
instant. -/
theorem applyAll_date_of_millis {n : Number} (h : n.toInt64?.bind Instant.ofMillis? = some t) :
    applyAll (Standard.coercionOf .date).toList (.num n) = .str t.text := by
  rw [applyAll_date, toDate, h]
  rfl

theorem applyAll_date_of_no_millis {n : Number} (h : n.toInt64?.bind Instant.ofMillis? = none) :
    applyAll (Standard.coercionOf .date).toList (.num n) = .num n := by
  rw [applyAll_date, toDate, h]
  rfl

end Coercion

namespace Schema

/-- The schema for dates that the standard context makes, before any call. -/
def lenientDate : Schema :=
  (Context.standard.ofKind .date).2

section

variable {s : String} {t : Instant} {n : Number}

/-- A text that is read as an instant conforms as long as the canonical text is a date-time. -/
theorem conforms_date_of_lenient? (h : Instant.lenient? s = some t) :
    (lenientDate.validate (some (.str s))).conforms = true ↔ 0 ≤ t.year ∧ t.year ≤ 9999 :=
  (conforms_ofKind_iff (k := .date) (x := .str s) rfl nofun
    (Coercion.applyAll_date_of_lenient? h)).trans t.accepts_text_iff

theorem value_date_of_lenient? (h : Instant.lenient? s = some t) :
    (lenientDate.validate (some (.str s))).value = some (.str t.text) :=
  value_ofKind (k := .date) (x := .str s) rfl nofun (Coercion.applyAll_date_of_lenient? h)

/-- A text that is not read is no date-time and stays as it is. -/
theorem refuses_date_of_unread (h : Instant.lenient? s = none) :
    ¬(lenientDate.validate (some (.str s))).conforms = true := by
  intro hconforms
  have htype := (conforms_ofKind_iff (k := .date) (x := .str s) rfl nofun
    (Coercion.applyAll_date_of_unread h)).mp hconforms
  obtain ⟨t, ht⟩ := Option.isSome_iff_exists.mp htype
  exact Option.some_ne_none t ((Instant.lenient?_of_rfc3339? ht).symm.trans h)

theorem conforms_date_of_millis (h : n.toInt64?.bind Instant.ofMillis? = some t) :
    (lenientDate.validate (some (.num n))).conforms = true ↔ 0 ≤ t.year ∧ t.year ≤ 9999 :=
  (conforms_ofKind_iff (k := .date) (x := .num n) rfl nofun
    (Coercion.applyAll_date_of_millis h)).trans t.accepts_text_iff

theorem value_date_of_millis (h : n.toInt64?.bind Instant.ofMillis? = some t) :
    (lenientDate.validate (some (.num n))).value = some (.str t.text) :=
  value_ofKind (k := .date) (x := .num n) rfl nofun (Coercion.applyAll_date_of_millis h)

/-- A number that counts no milliseconds stays a number. -/
theorem refuses_date_of_no_millis (h : n.toInt64?.bind Instant.ofMillis? = none) :
    ¬(lenientDate.validate (some (.num n))).conforms = true := by
  intro hconforms
  exact Bool.false_ne_true ((conforms_ofKind_iff (k := .date) (x := .num n) rfl nofun
    (Coercion.applyAll_date_of_no_millis h)).mp hconforms)

end

/-! ### Date-times -/

/-- The schema for dates brings a date-time into its canonical form.  The strict one takes every
date-time as it is; the lenient one refuses those whose instant does not fall into a year from 0 to
9999 in universal time, because their canonical text is no date-time. -/
theorem validate_dateTime {s : String} {t : Instant} (h : Instant.rfc3339? s = some t) :
    (∃ rigid, lenientDate.edit (.strict true) = .ok rigid ∧
      (rigid.validate (some (.str s))).conforms = true ∧
      (rigid.validate (some (.str s))).value = some (.str s)) ∧
      (lenientDate.validate (some (.str s))).value = some (.str t.text) ∧
      ((lenientDate.validate (some (.str s))).conforms = true ↔ 0 ≤ t.year ∧ t.year ≤ 9999) := by
  have hnull : Json.str s ≠ .null := nofun
  have hlenient := Instant.lenient?_of_rfc3339? h
  have htype : Kind.date.accepts (.str s) = true := Option.isSome_iff_exists.mpr ⟨t, h⟩
  exact ⟨⟨bare .date true, edit_strict_bare .date false,
    (conforms_bare_iff rfl hnull rfl).mpr htype, value_bare rfl hnull rfl⟩,
    value_date_of_lenient? hlenient, conforms_date_of_lenient? hlenient⟩

theorem validate_dateTime_leapSecond :
    let s := "1998-12-31T15:59:60.7504-08:00"
    (lenientDate.validate (some (.str s))).value = some (.str "1998-12-31T23:59:60.750Z") ∧
      (lenientDate.validate (some (.str s))).conforms = true := by
  intro s
  have hread : Instant.rfc3339? s = some Instant.leapSecond := by decide +kernel
  have htext : Instant.leapSecond.text = "1998-12-31T23:59:60.750Z" := by decide +kernel
  obtain ⟨-, hvalue, hconforms⟩ := validate_dateTime hread
  exact ⟨htext ▸ hvalue, hconforms.mpr (by decide)⟩

/-- The first hour of year 0 in a zone ahead of universal time is a date-time, but its canonical
text is not: there it falls into the year -1, which takes a sign. -/
theorem validate_firstHour_refused :
    let hour : Json := .str "0000-01-01T00:00:00+01:00"
    Kind.date.accepts hour = true ∧
      (lenientDate.validate (some hour)).value = some (.str "-0001-12-31T23:00:00.000Z") ∧
      (lenientDate.validate (some hour)).conforms = false := by
  intro hour
  exact ⟨by decide +kernel, rfl, by decide +kernel⟩

/-! ### Counts of milliseconds -/

section

variable {n : Int} {bounds : -9223372036854775808 ≤ n ∧ n < 18446744073709551616} {t : Instant}

/-- The lenient reader takes the text of a whole number as the count that the number is. -/
theorem lenient?_text_int : Instant.lenient? (Number.int n bounds).text =
    (Number.int n bounds).toInt64?.bind Instant.ofMillis? := by
  rw [Instant.lenient?_of_signedDigits (Number.isSignedDigits_text n bounds),
    Number.int64Of?_text]

theorem ofMillis?_of_count
    (h : (Number.int n bounds).toInt64?.bind Instant.ofMillis? = some t) :
    Instant.ofMillis? n = some t := by
  obtain ⟨m, hm, hmillis⟩ := Option.bind_eq_some_iff.mp h
  rw [Number.toInt64?] at hm
  split at hm
  · exact Option.some.inj hm ▸ hmillis
  · contradiction

/-- A whole number that counts no milliseconds of an instant is outside the years from 0 to 9999. -/
theorem not_mem_of_no_count
    (h : (Number.int n bounds).toInt64?.bind Instant.ofMillis? = none) :
    ¬(-62167219200000 ≤ n ∧ n ≤ 253402300799999) := by
  intro hrange
  obtain ⟨t, ht⟩ := Instant.exists_ofMillis? hrange
  rw [Number.toInt64?, if_pos (by omega)] at h
  exact Option.some_ne_none t (ht.symm.trans h)

/-- Only a count of milliseconds is accepted. -/
theorem exists_count_of_conforms
    (h : (lenientDate.validate (some (.num (.int n bounds)))).conforms = true) :
    ∃ t, (Number.int n bounds).toInt64?.bind Instant.ofMillis? = some t := by
  cases hcount : (Number.int n bounds).toInt64?.bind Instant.ofMillis? with
  | none => exact absurd h (refuses_date_of_no_millis hcount)
  | some t => exact ⟨t, rfl⟩

theorem conforms_millis_iff :
    (lenientDate.validate (some (.num (.int n bounds)))).conforms = true ↔
      -62167219200000 ≤ n ∧ n ≤ 253402300799999 := by
  cases hcount : (Number.int n bounds).toInt64?.bind Instant.ofMillis? with
  | none => exact iff_of_false (refuses_date_of_no_millis hcount) (not_mem_of_no_count hcount)
  | some t =>
      rw [conforms_date_of_millis hcount, t.year_mem_iff,
        Instant.day_mem_iff_of_ofMillis? (ofMillis?_of_count hcount)]

/-- The number and its decimal text meet with the same verdict. -/
theorem conforms_millis_text :
    (lenientDate.validate (some (.str (Number.int n bounds).text))).conforms =
      (lenientDate.validate (some (.num (.int n bounds)))).conforms := by
  rw [Bool.eq_iff_iff]
  cases hcount : (Number.int n bounds).toInt64?.bind Instant.ofMillis? with
  | none =>
      exact iff_of_false (refuses_date_of_unread (lenient?_text_int.trans hcount))
        (refuses_date_of_no_millis hcount)
  | some t =>
      rw [conforms_date_of_lenient? (lenient?_text_int.trans hcount),
        conforms_date_of_millis hcount]

end

/-- The schema for dates takes a whole number as a count of milliseconds.  It accepts exactly those
of the years from 0 to 9999, and makes of them the canonical text of the instant that is so many
milliseconds after the start of 1970.  It decides about the decimal text of the number in the same
way and makes the same of it, as that text is in no other form of a date. -/
theorem validate_millis {n : Int}
    (bounds : -9223372036854775808 ≤ n ∧ n < 18446744073709551616) :
    ((lenientDate.validate (some (.num (.int n bounds)))).conforms = true ↔
        -62167219200000 ≤ n ∧ n ≤ 253402300799999) ∧
      (lenientDate.validate (some (.str (Number.int n bounds).text))).conforms =
        (lenientDate.validate (some (.num (.int n bounds)))).conforms ∧
      ((lenientDate.validate (some (.num (.int n bounds)))).conforms = true →
        (lenientDate.validate (some (.str (Number.int n bounds).text))).value =
            (lenientDate.validate (some (.num (.int n bounds)))).value ∧
          ∃ t : Instant,
            (lenientDate.validate (some (.num (.int n bounds)))).value = some (.str t.text) ∧
            Instant.rfc3339? t.text = some t ∧ t.nano < 1000000000 ∧
            (t.day * 86400 + t.second) * 1000000000 + t.nano = n * 1000000) ∧
      Instant.rfc3339? (Number.int n bounds).text = none ∧
      (∀ separator,
        Instant.looseDateTime? separator (Number.int n bounds).text.toList = none) ∧
      Instant.looseMidnight? (Number.int n bounds).text.toList = none := by
  have hdigits := Number.isSignedDigits_text n bounds
  refine ⟨conforms_millis_iff, conforms_millis_text, ?_, Instant.rfc3339?_of_signedDigits hdigits,
    Instant.looseDateTime?_of_signedDigits hdigits, Instant.looseMidnight?_of_signedDigits hdigits⟩
  intro hconforms
  obtain ⟨t, ht⟩ := exists_count_of_conforms hconforms
  have hmillis := ofMillis?_of_count ht
  have hvalue := value_date_of_millis ht
  have hvalue' := value_date_of_lenient? (lenient?_text_int.trans ht)
  obtain ⟨hleast, hmost⟩ := (conforms_date_of_millis ht).mp hconforms
  obtain ⟨hday, hsecond, hnano⟩ := Instant.ofMillis?_eq_some_iff.mp hmillis
  refine ⟨hvalue'.trans hvalue.symm, t, hvalue, ?_, by omega, by omega⟩
  rw [Instant.rfc3339?_text hleast hmost, Instant.toMillisecond_of_ofMillis? hmillis]

/-- The last millisecond before 1970. -/
theorem validate_millis_eve :
    let eve := Json.num (.int (-1) (by decide))
    (lenientDate.validate (some eve)).conforms = true ∧
      (lenientDate.validate (some (.str "-1"))).conforms = true ∧
      (lenientDate.validate (some (.str "-1"))).value = (lenientDate.validate (some eve)).value ∧
      (lenientDate.validate (some eve)).value = some (.str "1969-12-31T23:59:59.999Z") := by
  intro eve
  have bounds : -9223372036854775808 ≤ (-1 : Int) ∧ (-1 : Int) < 18446744073709551616 := by
    decide
  obtain ⟨hconforms, hsame, hvalue, -⟩ := validate_millis bounds
  have heve : (lenientDate.validate (some eve)).conforms = true := hconforms.mpr (by decide)
  exact ⟨heve, hsame.trans heve, (hvalue heve).1, rfl⟩

end Schema

end Conform
