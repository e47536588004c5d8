import Conform.Proofs.Date.RoundTrip
import Mathlib.Data.List.Forall2

/-!
# Canonical texts

The canonical texts of the instants of the years from 0 to 9999 have one shape of 24 characters, are
read back up to the millisecond, and are left alone by the coercion to dates.  Two such instants
have the same text exactly when they agree up to the millisecond.
-/

namespace Conform.Instant

open Text

/-- The year of an instant in universal time. -/
def year (t : Instant) : Int :=
  (CivilDate.ofDayNumber t.day).year

/-- The instants of the years from 0 to 9999 are those of a range of days. -/
theorem year_mem_iff (t : Instant) :
    (0 ≤ t.year ∧ t.year ≤ 9999) ↔ -719528 ≤ t.day ∧ t.day ≤ 2932896 :=
  CivilDate.year_ofDayNumber_mem_iff t.day

/-! ### The shape -/

/-- The letters that stand for the digits of a field. -/
def fieldMarks : List Char :=
  ['Y', 'M', 'D', 'H', 'S', 's']

/-- The shape of canonical texts. -/
def shape : List Char :=
  "YYYY-MM-DDTHH:MM:SS.sssZ".toList

/-- Whether a character can stand in the place of a mark of the shape: a digit in that of a field,
and the mark itself elsewhere. -/
def Fits (mark c : Char) : Prop :=
  if mark ∈ fieldMarks then isDigit c = true else c = mark

theorem fits_digits {marks ds : List Char} (hmarks : ∀ m ∈ marks, m ∈ fieldMarks)
    (hds : ∀ d ∈ ds, isDigit d = true) (hlength : marks.length = ds.length) :
    List.Forall₂ Fits marks ds := by
  rw [List.forall₂_iff_get]
  refine ⟨hlength, ?_⟩
  intro i hi hi'
  rw [Fits, if_pos (hmarks _ (List.get_mem marks ⟨i, hi⟩))]
  exact hds _ (List.get_mem ds ⟨i, hi'⟩)

/-- A field of fixed width fits, and so does the mark after it. -/
theorem fits_field {marks rest cs : List Char} {mark : Char} {width n : Nat}
    (hmarks : ∀ m ∈ marks, m ∈ fieldMarks) (hlength : marks.length = width) (hwidth : 0 < width)
    (hn : n < Nat.pow 10 width) (hmark : mark ∉ fieldMarks) (hrest : List.Forall₂ Fits rest cs) :
    List.Forall₂ Fits (marks ++ mark :: rest) ((decimalDigits width n).toList ++ mark :: cs) := by
  have hfield : List.Forall₂ Fits marks (decimalDigits width n).toList := by
    refine fits_digits hmarks (fun d hd => isDigit_of_mem_decimalDigits hd) ?_
    rw [hlength, length_decimalDigits width hwidth hn]
  exact List.rel_append hfield (.cons (by simp [Fits, hmark]) hrest)

theorem fits_fieldText {year month day hour minute second milli : Nat} (hyear : year < 10000)
    (hmonth : month < 100) (hday : day < 100) (hhour : hour < 100) (hminute : minute < 100)
    (hsecond : second < 100) (hmilli : milli < 1000) :
    List.Forall₂ Fits shape (fieldText year month day hour minute second milli) := by
  have hshape : shape = ['Y', 'Y', 'Y', 'Y'] ++ '-' :: (['M', 'M'] ++ '-' :: (['D', 'D'] ++
      'T' :: (['H', 'H'] ++ ':' :: (['M', 'M'] ++ ':' :: (['S', 'S'] ++
        '.' :: (['s', 's', 's'] ++ ['Z'])))))) := rfl
  rw [hshape, fieldText]
  refine fits_field (by simp [fieldMarks]) rfl (by decide) hyear (by decide) ?_
  refine fits_field (by simp [fieldMarks]) rfl (by decide) hmonth (by decide) ?_
  refine fits_field (by simp [fieldMarks]) rfl (by decide) hday (by decide) ?_
  refine fits_field (by simp [fieldMarks]) rfl (by decide) hhour (by decide) ?_
  refine fits_field (by simp [fieldMarks]) rfl (by decide) hminute (by decide) ?_
  refine fits_field (by simp [fieldMarks]) rfl (by decide) hsecond (by decide) ?_
  exact fits_field (by simp [fieldMarks]) rfl (by decide) hmilli (by decide) .nil

variable {t u : Instant}

theorem fits_text (ht : 0 ≤ t.year ∧ t.year ≤ 9999) : List.Forall₂ Fits shape t.text.toList := by
  obtain ⟨hleast, hmost⟩ := ht
  obtain ⟨hmonth, hday⟩ := month_day_lt (isValid_date hleast hmost)
  obtain ⟨hhour, hminute, hsecond⟩ := t.clock_lt
  have hyear : (CivilDate.ofDayNumber t.day).year.natAbs < 10000 := by
    simp only [year] at hleast hmost
    omega
  rw [toList_text hleast hmost]
  exact fits_fieldText hyear hmonth hday hhour hminute hsecond t.clockMilli_lt

/-! ### What a canonical text says -/

/-- A canonical text is a date exactly when its year has four digits. -/
theorem accepts_text_iff (t : Instant) :
    Kind.date.accepts (.str t.text) = true ↔ 0 ≤ t.year ∧ t.year ≤ 9999 := by
  change (rfc3339? t.text).isSome = true ↔ _
  constructor
  · exact fun h => year_mem_of_rfc3339?_text h
  · rintro ⟨hleast, hmost⟩
    rw [rfc3339?_text hleast hmost]
    rfl

/-- Two instants have the same text exactly when they agree up to the millisecond. -/
theorem text_eq_text_iff (ht : 0 ≤ t.year ∧ t.year ≤ 9999) (hu : 0 ≤ u.year ∧ u.year ≤ 9999) :
    t.text = u.text ↔ t.toMillisecond = u.toMillisecond := by
  constructor
  · intro h
    have hread := rfc3339?_text ht.1 ht.2
    rw [h, rfc3339?_text hu.1 hu.2] at hread
    exact (Option.some.inj hread).symm
  · intro h
    rw [← text_toMillisecond t, h, text_toMillisecond u]

/-- The canonical text of an instant of the years from 0 to 9999 has the one shape of 24
characters.  Both readers read it as the instant without the part finer than a millisecond, so that
it is a date, the coercion to dates leaves it alone, and another instant of these years has it
exactly when it agrees with this one up to the millisecond. -/
theorem text_canonical (ht : 0 ≤ t.year ∧ t.year ≤ 9999) :
    (t.text.length = 24 ∧ List.Forall₂ Fits shape t.text.toList) ∧
      rfc3339? t.text = some t.toMillisecond ∧ lenient? t.text = some t.toMillisecond ∧
      Kind.date.accepts (.str t.text) = true ∧ Coercion.toDate (.str t.text) = none ∧
      ∀ u : Instant, 0 ≤ u.year ∧ u.year ≤ 9999 →
        (t.text = u.text ↔ t.toMillisecond = u.toMillisecond) := by
  have hfits := fits_text ht
  have hlenient := lenient?_text ht.1 ht.2
  refine ⟨⟨?_, hfits⟩, rfc3339?_text ht.1 ht.2, hlenient, (accepts_text_iff t).mpr ht, ?_,
    fun u hu => text_eq_text_iff ht hu⟩
  · rw [← String.length_toList, ← hfits.length_eq]
    rfl
  · simp only [Coercion.toDate, hlenient, text_toMillisecond, ↓reduceIte]

/-- A moment of the leap second at the end of 1998. -/
def leapSecond : Instant :=
  ⟨10591, 86399, 1750400000, by decide, by decide, by decide, by decide⟩

theorem text_canonical_leapSecond :
    leapSecond.text = "1998-12-31T23:59:60.750Z" ∧ leapSecond.text.length = 24 ∧
      rfc3339? leapSecond.text = some leapSecond.toMillisecond ∧
      leapSecond.toMillisecond.nano = 1750000000 ∧
      leapSecond.toMillisecond.text = leapSecond.text := by
  have hyear : 0 ≤ leapSecond.year ∧ leapSecond.year ≤ 9999 := by decide
  have hyear' : 0 ≤ leapSecond.toMillisecond.year ∧ leapSecond.toMillisecond.year ≤ 9999 := by
    decide
  obtain ⟨⟨hlength, -⟩, hread, -, -, -, hsame⟩ := text_canonical hyear
  refine ⟨by decide +kernel, hlength, hread, rfl, ((hsame _ hyear').mpr ?_).symm⟩
  decide +kernel

end Conform.Instant
