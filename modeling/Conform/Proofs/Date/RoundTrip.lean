import Conform.Proofs.Date.Calendar
import Conform.Proofs.Text.Blank
import Conform.Proofs.Text.Digits
import Conform.Standard.Basic

/-!
# Reading canonical dates back

The canonical text of an instant whose year has four digits is read back, by either reader, as
the instant without the part finer than a millisecond.
-/

namespace Conform.Instant

open Text Numeral

/-- The instant without the part finer than a millisecond. -/
def toMillisecond (t : Instant) : Instant :=
  { t with
    nano := t.nano / 1000000 * 1000000
    nano_lt := by have := t.nano_lt; omega
    leap := fun h => t.leap (by omega) }

/-- The second of the minute, which is `60` in a leap second. -/
def clockSecond (t : Instant) : Nat :=
  t.second % 60 + if 1000000000 ≤ t.nano then 1 else 0

/-- The milliseconds of the second. -/
def clockMilli (t : Instant) : Nat :=
  (if 1000000000 ≤ t.nano then t.nano - 1000000000 else t.nano) / 1000000

/-- The canonical text with given fields. -/
def fieldText (year month day hour minute second milli : Nat) : List Char :=
  (decimalDigits 4 year).toList ++ '-' :: ((decimalDigits 2 month).toList ++
    '-' :: ((decimalDigits 2 day).toList ++ 'T' :: ((decimalDigits 2 hour).toList ++
      ':' :: ((decimalDigits 2 minute).toList ++ ':' :: ((decimalDigits 2 second).toList ++
        '.' :: ((decimalDigits 3 milli).toList ++ ['Z']))))))

theorem text_eq (t : Instant) :
    t.text = yearText (CivilDate.ofDayNumber t.day).year ++ "-" ++
      decimalDigits 2 (CivilDate.ofDayNumber t.day).month ++ "-" ++
      decimalDigits 2 (CivilDate.ofDayNumber t.day).day ++ "T" ++
      decimalDigits 2 (t.second / 3600) ++ ":" ++ decimalDigits 2 (t.second / 60 % 60) ++ ":" ++
      decimalDigits 2 t.clockSecond ++ "." ++ decimalDigits 3 t.clockMilli ++ "Z" := rfl

theorem toList_text {t : Instant} (hleast : 0 ≤ (CivilDate.ofDayNumber t.day).year)
    (hmost : (CivilDate.ofDayNumber t.day).year ≤ 9999) :
    t.text.toList =
      fieldText (CivilDate.ofDayNumber t.day).year.natAbs (CivilDate.ofDayNumber t.day).month
        (CivilDate.ofDayNumber t.day).day (t.second / 3600) (t.second / 60 % 60) t.clockSecond
        t.clockMilli := by
  have hdash : "-".toList = ['-'] := rfl
  have hmark : "T".toList = ['T'] := rfl
  have hcolon : ":".toList = [':'] := rfl
  have hpoint : ".".toList = ['.'] := rfl
  have hzone : "Z".toList = ['Z'] := rfl
  simp only [text_eq, yearText, hleast, hmost, and_self, ↓reduceIte, String.toList_append, hdash,
    hmark, hcolon, hpoint, hzone, fieldText, List.append_assoc, List.cons_append,
    List.nil_append]

/-! ### The readers on fields of fixed width -/

theorem splitDigits_decimalDigits (width n : Nat) {c : Char} (hc : isDigit c = false)
    (rest : List Char) :
    splitDigits ((decimalDigits width n).toList ++ c :: rest) =
      ((decimalDigits width n).toList, c :: rest) := by
  have hdigits : ∀ d ∈ (decimalDigits width n).toList, isDigit d = true :=
    fun d hd => isDigit_of_mem_decimalDigits hd
  have hend : ∀ d, (c :: rest).head? = some d → isDigit d = false := by
    rintro d ⟨⟩
    exact hc
  obtain ⟨htake, hdrop⟩ := takeWhile_dropWhile_append hdigits hend
  rw [splitDigits, htake, hdrop]

theorem optionalNanos_milli {milli : Nat} (h : milli < 1000) :
    optionalNanos ('.' :: ((decimalDigits 3 milli).toList ++ ['Z'])) =
      some (milli * 1000000, ['Z']) := by
  have hlength := length_decimalDigits 3 (by decide) h
  have htake : (decimalDigits 3 milli).toList.take 9 = (decimalDigits 3 milli).toList :=
    List.take_of_length_le (by omega)
  rw [optionalNanos, nanoDigits, splitDigits_decimalDigits 3 milli (by decide)]
  generalize hds : (decimalDigits 3 milli).toList = ds at hlength htake ⊢
  cases ds with
  | nil => simp at hlength
  | cons d rest =>
      have hvalue : decimalValue (d :: rest) = milli := by
        rw [← hds, decimalValue_decimalDigits]
      simp only [htake, hlength, hvalue]

theorem skipChar_cons (c : Char) (rest : List Char) : skipChar c (c :: rest) = some rest := by
  simp [skipChar]

theorem skipSeparator_T (rest : List Char) : skipSeparator ('T' :: rest) = some rest := rfl

theorem offset_Z : offset ['Z'] = some (0, []) := rfl

theorem bind_of_eq_some {α β : Type} {x : Option α} {a : α} {f : α → Option β}
    (h : x = some a) : (x >>= f) = f a := by
  rw [h]
  rfl

theorem bind_of_eq_none {α β : Type} {x : Option α} {f : α → Option β} (h : x = none) :
    (x >>= f) = none := by
  rw [h]
  rfl

/-- Fields of fixed width are read as a date and a time of day in universal time. -/
theorem rfc3339?_fieldText {s : String} {year month day hour minute second milli : Nat}
    (hs : s.toList = fieldText year month day hour minute second milli) (hyear : year < 10000)
    (hmonth : month < 100) (hday : day < 100) (hhour : hour < 100) (hminute : minute < 100)
    (hsecond : second < 100) (hmilli : milli < 1000) :
    rfc3339? s = ofCivil? ⟨year, month, day⟩ hour minute second (milli * 1000000) 0 := by
  have htwo : ∀ n, n < 100 → ∀ rest,
      digitsBetween 2 2 ((decimalDigits 2 n).toList ++ rest) = some (n, rest) :=
    fun n hn => digitsBetween_decimalDigits 2 (by decide) hn
  have hfour : ∀ rest,
      digitsBetween 4 4 ((decimalDigits 4 year).toList ++ rest) = some (year, rest) :=
    digitsBetween_decimalDigits 4 (by decide) hyear
  rw [rfc3339?, hs, fieldText]
  refine (bind_of_eq_some (hfour _)).trans ?_
  refine (bind_of_eq_some (skipChar_cons '-' _)).trans ?_
  refine (bind_of_eq_some (htwo month hmonth _)).trans ?_
  refine (bind_of_eq_some (skipChar_cons '-' _)).trans ?_
  refine (bind_of_eq_some (htwo day hday _)).trans ?_
  refine (bind_of_eq_some (skipSeparator_T _)).trans ?_
  refine (bind_of_eq_some (htwo hour hhour _)).trans ?_
  refine (bind_of_eq_some (skipChar_cons ':' _)).trans ?_
  refine (bind_of_eq_some (htwo minute hminute _)).trans ?_
  refine (bind_of_eq_some (skipChar_cons ':' _)).trans ?_
  refine (bind_of_eq_some (htwo second hsecond _)).trans ?_
  refine (bind_of_eq_some (optionalNanos_milli hmilli)).trans ?_
  refine (bind_of_eq_some offset_Z).trans ?_
  exact if_pos rfl

/-! ### The fields of an instant -/

theorem ofParts?_eq (t : Instant) : ofParts? t.day t.second t.nano = some t := by
  rw [ofParts?, dif_pos ⟨t.day_mem, t.second_lt, t.nano_lt, t.leap⟩]

theorem clockSecond_le (t : Instant) : t.clockSecond ≤ 60 := by
  unfold clockSecond
  split <;> omega

theorem clockMilli_lt (t : Instant) : t.clockMilli < 1000 := by
  have hnano := t.nano_lt
  unfold clockMilli
  split <;> omega

/-- The fields of an instant are those of the instant without the part finer than a
millisecond. -/
theorem ofCivil?_fields {t : Instant} (h : (CivilDate.ofDayNumber t.day).IsValid) :
    ofCivil? (CivilDate.ofDayNumber t.day) (t.second / 3600) (t.second / 60 % 60) t.clockSecond
      (t.clockMilli * 1000000) 0 = some t.toMillisecond := by
  have hsecond := t.second_lt
  have hmilli := t.clockMilli_lt
  rw [ofCivil?, if_pos ⟨h, by omega, by omega, t.clockSecond_le, by omega⟩,
    CivilDate.toDayNumber_ofDayNumber, ← ofParts?_eq t.toMillisecond]
  by_cases hleap : 1000000000 ≤ t.nano
  · -- The second `60` is read as the second `59` with the nanoseconds of a leap second.
    have hlast := t.leap hleap
    have hclock : t.clockSecond = 60 := by simp [clockSecond, hleap, hlast]
    have hnano : t.clockMilli * 1000000 + 1000000000 = t.toMillisecond.nano := by
      simp only [clockMilli, hleap, ↓reduceIte, toMillisecond]
      omega
    simp only [hclock, ↓reduceIte, hnano]
    congr 1
    · simp only [toMillisecond]
      omega
    · simp only [toMillisecond]
      omega
  · have hclock : t.clockSecond = t.second % 60 := by simp [clockSecond, hleap]
    have hnano : t.clockMilli * 1000000 = t.toMillisecond.nano := by
      simp only [clockMilli, hleap, ↓reduceIte, toMillisecond]
    rw [if_neg (by omega)]
    simp only [hclock, hnano]
    congr 1
    · simp only [toMillisecond]
      omega
    · simp only [toMillisecond]
      omega

theorem isValid_date {t : Instant} (hleast : 0 ≤ (CivilDate.ofDayNumber t.day).year)
    (hmost : (CivilDate.ofDayNumber t.day).year ≤ 9999) :
    (CivilDate.ofDayNumber t.day).IsValid := by
  apply CivilDate.isValid_ofDayNumber
  simp only [CivilDate.minYear, CivilDate.maxYear]
  omega

/-- Month and day have two digits. -/
theorem month_day_lt {d : CivilDate} (h : d.IsValid) : d.month < 100 ∧ d.day < 100 := by
  obtain ⟨-, ⟨-, hmonth⟩, -, hday⟩ := h
  have hdays : CivilDate.daysInMonth d.year d.month ≤ 31 := by
    unfold CivilDate.daysInMonth
    split_ifs <;> omega
  omega

/-- Hour, minute and second have two digits. -/
theorem clock_lt (t : Instant) :
    t.second / 3600 < 100 ∧ t.second / 60 % 60 < 100 ∧ t.clockSecond < 100 := by
  have hsecond := t.second_lt
  have hclock := t.clockSecond_le
  omega

/-- The canonical text of an instant of a year from 0 to 9999 is read back as the instant without
the part finer than a millisecond. -/
theorem rfc3339?_text {t : Instant} (hleast : 0 ≤ (CivilDate.ofDayNumber t.day).year)
    (hmost : (CivilDate.ofDayNumber t.day).year ≤ 9999) :
    rfc3339? t.text = some t.toMillisecond := by
  have hvalid := isValid_date hleast hmost
  obtain ⟨hmonth, hday⟩ := month_day_lt hvalid
  obtain ⟨hhour, hminute, hsecond⟩ := t.clock_lt
  rw [rfc3339?_fieldText (toList_text hleast hmost) (by omega) hmonth hday hhour hminute hsecond
    t.clockMilli_lt]
  rw [Int.natAbs_of_nonneg hleast]
  exact ofCivil?_fields hvalid

theorem unpadded_text {t : Instant} (hleast : 0 ≤ (CivilDate.ofDayNumber t.day).year)
    (hmost : (CivilDate.ofDayNumber t.day).year ≤ 9999) : Unpadded t.text.toList := by
  have hyear : (CivilDate.ofDayNumber t.day).year.natAbs < 10000 := by omega
  have hlength := length_decimalDigits 4 (by decide) hyear
  rw [toList_text hleast hmost, fieldText]
  constructor
  · intro c hc
    generalize hds : (decimalDigits 4 _).toList = ds at hlength hc
    cases ds with
    | nil => simp at hlength
    | cons d rest =>
        obtain rfl : d = c := by simpa using hc
        exact isBlank_eq_false_of_isDigit (isDigit_of_mem_decimalDigits (hds ▸ List.mem_cons_self))
  · intro c hc
    obtain rfl : 'Z' = c := by simpa [List.getLast?_append, List.getLast?_cons] using hc
    decide

/-- The lenient reader reads a canonical text like the strict one. -/
theorem lenient?_text {t : Instant} (hleast : 0 ≤ (CivilDate.ofDayNumber t.day).year)
    (hmost : (CivilDate.ofDayNumber t.day).year ≤ 9999) :
    lenient? t.text = some t.toMillisecond := by
  rw [lenient?, trim_of_unpadded (unpadded_text hleast hmost), String.ofList_toList,
    rfc3339?_text hleast hmost]
  rfl

/-- The canonical text of a year outside 0 to 9999 begins with a sign. -/
theorem exists_sign_text {t : Instant}
    (hyear : ¬(0 ≤ (CivilDate.ofDayNumber t.day).year ∧
      (CivilDate.ofDayNumber t.day).year ≤ 9999)) :
    ∃ c rest, (c = '-' ∨ c = '+') ∧ t.text.toList = c :: rest := by
  obtain ⟨rest, hrest⟩ : ∃ rest,
      t.text.toList = (yearText (CivilDate.ofDayNumber t.day).year).toList ++ rest := by
    simp only [text_eq, String.toList_append, List.append_assoc]
    exact ⟨_, rfl⟩
  rw [yearText, if_neg hyear, String.toList_append] at hrest
  by_cases hnegative : (CivilDate.ofDayNumber t.day).year < 0
  · rw [if_pos hnegative] at hrest
    exact ⟨'-', _, .inl rfl, hrest⟩
  · rw [if_neg hnegative] at hrest
    exact ⟨'+', _, .inr rfl, hrest⟩

/-- A canonical text with a signed year is no date-time of RFC 3339. -/
theorem year_mem_of_rfc3339?_text {t : Instant} (h : (rfc3339? t.text).isSome) :
    0 ≤ (CivilDate.ofDayNumber t.day).year ∧ (CivilDate.ofDayNumber t.day).year ≤ 9999 := by
  by_contra hyear
  obtain ⟨c, rest, hsign, htext⟩ := exists_sign_text hyear
  have hdigit : isDigit c = false := by rcases hsign with rfl | rfl <;> decide
  have hnone : digitsBetween 4 4 (c :: rest) = none := by
    simp [digitsBetween, hdigit]
  rw [rfc3339?, htext, hnone] at h
  contradiction

/-- The part finer than a millisecond does not show in the canonical text. -/
theorem text_toMillisecond (t : Instant) : t.toMillisecond.text = t.text := by
  have hleap : 1000000000 ≤ t.toMillisecond.nano ↔ 1000000000 ≤ t.nano := by
    simp only [toMillisecond]
    omega
  have hsecond : t.toMillisecond.clockSecond = t.clockSecond := by
    simp only [clockSecond, hleap]
    rfl
  have hmilli : t.toMillisecond.clockMilli = t.clockMilli := by
    simp only [clockMilli, hleap]
    split
    · simp only [toMillisecond]
      omega
    · simp only [toMillisecond]
      omega
  rw [text_eq, text_eq, hsecond, hmilli]
  rfl

end Conform.Instant

namespace Conform.Coercion

open Instant

theorem exists_text_of_toDate {x y : Json} (h : toDate x = some y) :
    ∃ t : Instant, y = .str t.text := by
  cases x with
  | str s =>
      rw [toDate] at h
      split at h
      · rename_i t _
        split at h
        · simp at h
        · exact ⟨t, (Option.some.inj h).symm⟩
      · simp at h
  | num n =>
      obtain ⟨t, -, ht⟩ := Option.map_eq_some_iff.mp h
      exact ⟨t, ht.symm⟩
  | _ => simp [toDate] at h

end Conform.Coercion
