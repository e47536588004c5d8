/-!
# The civil calendar

Dates of the Gregorian calendar, extended to all years, and their numbering by days since the
first of January 1970.  Years are counted from March, so that the leap day comes last, and group
into eras of 400 years with 146097 days each.
-/

namespace Conform

/-- A year, month and day. -/
structure CivilDate where
  year : Int
  month : Nat
  day : Nat
  deriving DecidableEq

namespace CivilDate

/-- Whether a year has a leap day. -/
def isLeapYear (year : Int) : Bool :=
  year % 4 == 0 && (year % 100 != 0 || year % 400 == 0)

def daysInMonth (year : Int) (month : Nat) : Nat :=
  if month = 2 then (if isLeapYear year then 29 else 28)
  else if month = 4 ∨ month = 6 ∨ month = 9 ∨ month = 11 then 30
  else 31

/-- The first and last year of the calendar in use. -/
def minYear : Int := -262143

/-- The last year of the calendar in use. -/
def maxYear : Int := 262142

/-- Whether the fields name a day of the calendar in use. -/
def IsValid (d : CivilDate) : Prop :=
  (minYear ≤ d.year ∧ d.year ≤ maxYear) ∧ (1 ≤ d.month ∧ d.month ≤ 12) ∧
    1 ≤ d.day ∧ d.day ≤ daysInMonth d.year d.month

instance (d : CivilDate) : Decidable d.IsValid :=
  inferInstanceAs (Decidable (_ ∧ _ ∧ _ ∧ _))

/-- The number of a day, counted from the first of January 1970. -/
def toDayNumber (d : CivilDate) : Int :=
  let marchYear := if d.month ≤ 2 then d.year - 1 else d.year
  let marchMonth := if d.month ≤ 2 then d.month + 9 else d.month - 3
  let era := marchYear / 400
  let yearOfEra := marchYear % 400
  let dayOfYear : Int := ((153 * marchMonth + 2) / 5 + d.day : Nat) - 1
  era * 146097 + (yearOfEra * 365 + yearOfEra / 4 - yearOfEra / 100 + dayOfYear) - 719468

def ofDayNumber (n : Int) : CivilDate :=
  let z := n + 719468
  let era := z / 146097
  let dayOfEra := z % 146097
  let yearOfEra := (dayOfEra - dayOfEra / 1460 + dayOfEra / 36524 - dayOfEra / 146096) / 365
  let dayOfYear := dayOfEra - (365 * yearOfEra + yearOfEra / 4 - yearOfEra / 100)
  let marchMonth := (5 * dayOfYear + 2) / 153
  let day := dayOfYear - (153 * marchMonth + 2) / 5 + 1
  let month := if marchMonth < 10 then marchMonth + 3 else marchMonth - 9
  let year := yearOfEra + era * 400
  ⟨if month ≤ 2 then year + 1 else year, month.toNat, day.toNat⟩

end CivilDate

end Conform
