import Conform.Date.Calendar
import Conform.Text.Words

/-!
# Instants

A point of universal time to the nanosecond.  A leap second is the second after `59`: it is kept
as the nanoseconds from one thousand million on of the second `59` it follows.
-/

namespace Conform

/-- The number of the first day of the calendar in use. -/
def minDay : Int := -96465292

/-- The number of the last day of the calendar in use. -/
def maxDay : Int := 95026236

/-- A point of universal time: a day number, a second of the day and a nanosecond. -/
structure Instant where
  day : Int
  second : Nat
  nano : Nat
  day_mem : minDay ≤ day ∧ day ≤ maxDay
  second_lt : second < 86400
  nano_lt : nano < 2000000000
  leap : 1000000000 ≤ nano → second % 60 = 59
  deriving DecidableEq

namespace Instant

/-- The start of 1970. -/
def epoch : Instant :=
  ⟨0, 0, 0, by decide, by decide, by decide, by decide⟩

/-- The instant with these fields, if they are in their ranges. -/
def ofParts? (day : Int) (second nano : Nat) : Option Instant :=
  if h : (minDay ≤ day ∧ day ≤ maxDay) ∧ second < 86400 ∧ nano < 2000000000 ∧
      (1000000000 ≤ nano → second % 60 = 59) then
    some ⟨day, second, nano, h.1, h.2.1, h.2.2.1, h.2.2.2⟩
  else none

/-- The instant a number of milliseconds after the start of 1970. -/
def ofMillis? (millis : Int) : Option Instant :=
  let seconds := millis / 1000
  ofParts? (seconds / 86400) (seconds % 86400).toNat ((millis % 1000).toNat * 1000000)

/-- The instant of a civil date and a time of day that stands `offset` seconds ahead of universal
time.  The second `60` is the leap second after the second `59`. -/
def ofCivil? (date : CivilDate) (hour minute second nano : Nat) (offset : Int) : Option Instant :=
  if date.IsValid ∧ hour ≤ 23 ∧ minute ≤ 59 ∧ second ≤ 60 ∧ nano < 1000000000 then
    let (second, nano) := if second = 60 then (59, nano + 1000000000) else (second, nano)
    let clock : Int := (hour * 3600 + minute * 60 + second : Nat)
    let shifted := clock - offset
    ofParts? (date.toDayNumber + shifted / 86400) (shifted % 86400).toNat nano
  else none

/-- Milliseconds from the start of 1970, any finer part dropped. -/
def toMillis (t : Instant) : Int :=
  (t.day * 86400 + t.second) * 1000 + (t.nano / 1000000 : Nat)

/-- The year in four digits, or with a sign when it is outside 0 to 9999. -/
def yearText (year : Int) : String :=
  if 0 ≤ year ∧ year ≤ 9999 then Text.decimalDigits 4 year.natAbs
  else (if year < 0 then "-" else "+") ++ Text.decimalDigits 4 year.natAbs

/-- The canonical text of an instant, such as `2024-05-01T12:00:00.000Z`: universal time with
milliseconds, any finer part dropped. -/
def text (t : Instant) : String :=
  let date := CivilDate.ofDayNumber t.day
  let isLeap := 1000000000 ≤ t.nano
  let second := t.second % 60 + (if isLeap then 1 else 0)
  let nano := if isLeap then t.nano - 1000000000 else t.nano
  let two := Text.decimalDigits 2
  yearText date.year ++ "-" ++ two date.month ++ "-" ++ two date.day ++ "T" ++
    two (t.second / 3600) ++ ":" ++ two (t.second / 60 % 60) ++ ":" ++ two second ++ "." ++
    Text.decimalDigits 3 (nano / 1000000) ++ "Z"

end Instant

end Conform
