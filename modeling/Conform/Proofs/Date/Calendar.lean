import Conform.Date.Calendar
import Mathlib.Tactic.IntervalCases

/-!
# Days and dates

Every day number has a date, which is a day of a month of a year, and the number of that date is
the number itself.  The year of a day within its era is found by a formula that never falls from
one day to the next, so that it is right everywhere because it is right on the first and the last
day of each of the 400 years.
-/

namespace Conform.CivilDate

/-- The days of an era before one of its years, counted from March. -/
def daysBefore (year : Int) : Int :=
  365 * year + year / 4 - year / 100 + year / 400

/-- The year of an era that one of its days falls in. -/
def yearOfDay (dayOfEra : Int) : Int :=
  (dayOfEra - dayOfEra / 1460 + dayOfEra / 36524 - dayOfEra / 146096) / 365

/-- The date of a day of a month, where year and month are counted from March. -/
def ofMarchMonth (year month day : Int) : CivilDate :=
  let civilMonth := if month < 10 then month + 3 else month - 9
  ⟨if civilMonth ≤ 2 then year + 1 else year, civilMonth.toNat, day.toNat⟩

/-- The date of a day of a year that is counted from March. -/
def ofMarchYear (year dayOfYear : Int) : CivilDate :=
  let month := (5 * dayOfYear + 2) / 153
  ofMarchMonth year month (dayOfYear - (153 * month + 2) / 5 + 1)

theorem yearOfDay_mono {a b : Int} (h : a ≤ b) : yearOfDay a ≤ yearOfDay b := by
  have hstep : a - a / 1460 + a / 36524 - a / 146096 ≤
      b - b / 1460 + b / 36524 - b / 146096 := by omega
  unfold yearOfDay
  omega

/-- The formula is right on the first and the last day of every year of an era. -/
theorem yearOfDay_ends : ∀ y : Fin 400,
    yearOfDay (daysBefore y) = y ∧ yearOfDay (daysBefore (y + 1) - 1) = y := by
  decide +kernel

theorem yearOfDay_first {y : Int} (h : 0 ≤ y ∧ y < 400) : yearOfDay (daysBefore y) = y := by
  have hends := (yearOfDay_ends ⟨y.toNat, by omega⟩).1
  rwa [show ((y.toNat : Nat) : Int) = y by omega] at hends

theorem yearOfDay_last {y : Int} (h : 0 ≤ y ∧ y < 400) :
    yearOfDay (daysBefore (y + 1) - 1) = y := by
  have hends := (yearOfDay_ends ⟨y.toNat, by omega⟩).2
  rwa [show ((y.toNat : Nat) : Int) = y by omega] at hends

theorem yearOfDay_mem {d : Int} (h : 0 ≤ d ∧ d < 146097) :
    0 ≤ yearOfDay d ∧ yearOfDay d < 400 := by
  unfold yearOfDay
  omega

/-- A day of an era falls between the ends of its year. -/
theorem daysBefore_yearOfDay {d : Int} (h : 0 ≤ d ∧ d < 146097) :
    daysBefore (yearOfDay d) ≤ d ∧ d < daysBefore (yearOfDay d + 1) := by
  obtain ⟨hleast, hmost⟩ := yearOfDay_mem h
  constructor
  · by_contra hlt
    have hpositive : 0 < yearOfDay d := by
      by_contra hzero
      have hyear : yearOfDay d = 0 := by omega
      rw [hyear] at hlt
      simp only [daysBefore] at hlt
      omega
    have hlast := yearOfDay_last (y := yearOfDay d - 1) (by omega)
    rw [Int.sub_add_cancel] at hlast
    have hmono := yearOfDay_mono (a := d) (b := daysBefore (yearOfDay d) - 1) (by omega)
    omega
  · by_contra hge
    have hsmall : yearOfDay d < 399 := by
      by_contra hlarge
      have hyear : yearOfDay d = 399 := by omega
      rw [hyear] at hge
      simp only [daysBefore] at hge
      omega
    have hfirst := yearOfDay_first (y := yearOfDay d + 1) (by omega)
    have hmono := yearOfDay_mono (a := daysBefore (yearOfDay d + 1)) (b := d) (by omega)
    omega

/-- Every day number is a day of a year of an era, and its date is the date of that day. -/
theorem exists_ofDayNumber_eq (n : Int) :
    ∃ era year day : Int, (0 ≤ year ∧ year < 400) ∧
      (0 ≤ day ∧ day < daysBefore (year + 1) - daysBefore year) ∧
      n = era * 146097 + daysBefore year + day - 719468 ∧
      ofDayNumber n = ofMarchYear (year + era * 400) day := by
  have hday : 0 ≤ (n + 719468) % 146097 ∧ (n + 719468) % 146097 < 146097 := by omega
  have hyear := yearOfDay_mem hday
  have hends := daysBefore_yearOfDay hday
  refine ⟨(n + 719468) / 146097, yearOfDay ((n + 719468) % 146097),
    (n + 719468) % 146097 - daysBefore (yearOfDay ((n + 719468) % 146097)), hyear, by omega,
    by omega, ?_⟩
  have hera : yearOfDay ((n + 719468) % 146097) / 400 = 0 := by omega
  unfold ofDayNumber ofMarchYear ofMarchMonth daysBefore
  rw [hera, Int.add_zero]
  rfl

/-! ### The date of a day of a year -/

theorem daysBefore_succ_sub {year : Int} (h : 0 ≤ year ∧ year < 400) (era : Int) :
    daysBefore (year + 1) - daysBefore year =
      if isLeapYear (year + era * 400 + 1) then 366 else 365 := by
  have hfour : (year + era * 400 + 1) % 4 = (year + 1) % 4 := by omega
  have hhundred : (year + era * 400 + 1) % 100 = (year + 1) % 100 := by omega
  have hfourHundred : (year + era * 400 + 1) % 400 = (year + 1) % 400 := by omega
  simp only [isLeapYear, hfour, hhundred, hfourHundred, daysBefore, Bool.and_eq_true,
    Bool.or_eq_true, beq_iff_eq, bne_iff_ne]
  split <;> omega

theorem month_ofMarchYear {year day : Int} (h : 0 ≤ day ∧ day ≤ 365) :
    1 ≤ (ofMarchYear year day).month ∧ (ofMarchYear year day).month ≤ 12 := by
  simp only [ofMarchYear, ofMarchMonth]
  split <;> omega

/-- January and February belong to the next year. -/
theorem year_ofMarchYear {year day : Int} (h : 0 ≤ day ∧ day ≤ 365) :
    (ofMarchYear year day).year = if day < 306 then year else year + 1 := by
  simp only [ofMarchYear, ofMarchMonth]
  split_ifs <;> omega

/-- Counted from March, a month lasts from its first day to that of the next one, and the last month
to the end of the year. -/
theorem daysInMonth_ofMarchMonth {year month day : Int} (h : 0 ≤ month ∧ month ≤ 11) :
    (daysInMonth (ofMarchMonth year month day).year (ofMarchMonth year month day).month : Int) =
      if month = 11 then (if isLeapYear (year + 1) then 29 else 28)
      else (153 * (month + 1) + 2) / 5 - (153 * month + 2) / 5 := by
  obtain ⟨hleast, hmost⟩ := h
  interval_cases month
  case «11» => simp [ofMarchMonth, daysInMonth]
  all_goals rfl

/-- The day of a month of a year counted from March is one of the days of that month. -/
theorem day_ofMarchYear {year day : Int}
    (h : 0 ≤ day ∧ day < if isLeapYear (year + 1) then 366 else 365) :
    1 ≤ (ofMarchYear year day).day ∧ (ofMarchYear year day).day ≤
      daysInMonth (ofMarchYear year day).year (ofMarchYear year day).month := by
  have hday : 0 ≤ day ∧ day ≤ 365 := by
    split at h <;> omega
  have hlength : (daysInMonth (ofMarchYear year day).year (ofMarchYear year day).month : Int) = _ :=
    @daysInMonth_ofMarchMonth year ((5 * day + 2) / 153) _ (by omega)
  have hdayOfMonth : ((ofMarchYear year day).day : Int) =
      day - (153 * ((5 * day + 2) / 153) + 2) / 5 + 1 := by
    apply Int.toNat_of_nonneg
    omega
  rw [← Int.ofNat_le, ← Int.ofNat_le, hlength, hdayOfMonth]
  clear hlength hdayOfMonth
  -- What is left is linear arithmetic, for a year with a leap day and for one without.
  cases hleap : isLeapYear (year + 1) with
  | true =>
      simp only [hleap, ↓reduceIte] at h ⊢
      split <;> omega
  | false =>
      simp only [hleap, Bool.false_eq_true, ↓reduceIte] at h ⊢
      split <;> omega

/-- The number of a day of a month of a year that is counted from March. -/
theorem toDayNumber_ofMarchMonth {year month day : Int} (hmonth : 0 ≤ month ∧ month ≤ 11)
    (hday : 1 ≤ day) :
    (ofMarchMonth year month day).toDayNumber =
      year / 400 * 146097 + (year % 400 * 365 + year % 400 / 4 - year % 400 / 100 +
        ((153 * month + 2) / 5 + day - 1)) - 719468 := by
  by_cases hsameYear : month < 10
  · have hlate : ¬(month + 3).toNat ≤ 2 := by omega
    have hnot : ¬month + 3 ≤ 2 := by omega
    simp only [ofMarchMonth, toDayNumber, if_pos hsameYear, if_neg hlate, if_neg hnot]
    omega
  · have hearly : (month - 9).toNat ≤ 2 := by omega
    have hyear : month - 9 ≤ 2 := by omega
    simp only [ofMarchMonth, toDayNumber, if_neg hsameYear, if_pos hearly, if_pos hyear,
      Int.add_sub_cancel]
    omega

theorem toDayNumber_ofMarchYear {era year day : Int} (hyear : 0 ≤ year ∧ year < 400)
    (hday : 0 ≤ day ∧ day ≤ 365) :
    (ofMarchYear (year + era * 400) day).toDayNumber =
      era * 146097 + daysBefore year + day - 719468 := by
  have hera : (year + era * 400) / 400 = era := by omega
  have hyearOfEra : (year + era * 400) % 400 = year := by omega
  rw [ofMarchYear, toDayNumber_ofMarchMonth (by omega) (by omega), hera, hyearOfEra, daysBefore]
  omega

/-! ### Day numbers -/

/-- The date of a day number has that number. -/
theorem toDayNumber_ofDayNumber (n : Int) : (ofDayNumber n).toDayNumber = n := by
  obtain ⟨era, year, day, hyear, hday, hn, hdate⟩ := exists_ofDayNumber_eq n
  have hlength := daysBefore_succ_sub hyear era
  rw [hdate, toDayNumber_ofMarchYear hyear, hn]
  split at hlength <;> omega

/-- The days of the years from 0 to 9999. -/
theorem year_ofDayNumber_mem_iff (n : Int) :
    (0 ≤ (ofDayNumber n).year ∧ (ofDayNumber n).year ≤ 9999) ↔ -719528 ≤ n ∧ n ≤ 2932896 := by
  obtain ⟨era, year, day, hyear, hday, hn, hdate⟩ := exists_ofDayNumber_eq n
  have hlength : 0 ≤ day ∧ day ≤ 365 := by
    have hsub := daysBefore_succ_sub hyear era
    split at hsub <;> omega
  rw [hdate, year_ofMarchYear hlength]
  simp only [daysBefore] at hday hn
  split <;> omega

/-- The date of a day number is a day of the calendar, as long as its year is in use. -/
theorem isValid_ofDayNumber {n : Int}
    (h : minYear ≤ (ofDayNumber n).year ∧ (ofDayNumber n).year ≤ maxYear) :
    (ofDayNumber n).IsValid := by
  obtain ⟨era, year, day, hyear, hday, -, hdate⟩ := exists_ofDayNumber_eq n
  rw [daysBefore_succ_sub hyear era] at hday
  refine ⟨h, ?_, ?_⟩
  · rw [hdate]
    apply month_ofMarchYear
    split at hday <;> omega
  · rw [hdate]
    exact day_ofMarchYear hday

end Conform.CivilDate
