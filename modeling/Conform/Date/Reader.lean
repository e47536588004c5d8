import Conform.Date.Instant
import Conform.Number.Numeral

/-!
# Reading dates

Two readers of instants.  `Instant.rfc3339?` takes the date-time form of RFC 3339 alone.
`Instant.lenient?` also takes a date and a time in universal time, a bare date, which stands for
its midnight, and a count of milliseconds, and lets the fields of the first two be short.
-/

namespace Conform.Instant

open Text Numeral

/-- Reads something at the start of a text and returns what follows it. -/
abbrev Scan (α : Type) := List Char → Option (α × List Char)

/-- Skips one given character. -/
def skipChar (c : Char) : List Char → Option (List Char)
  | d :: rest => if d = c then some rest else none
  | [] => none

/-- Reads from `least` to `most` digits, as many as there are. -/
def digitsBetween (least most : Nat) : Scan Nat := fun cs =>
  let ds := (cs.take most).takeWhile isDigit
  if ds.length < least then none else some (decimalValue ds, cs.drop ds.length)

/-- Reads the digits after the point of a second as nanoseconds: at least one digit, and those
after the ninth are skipped. -/
def nanoDigits : Scan Nat := fun cs =>
  match splitDigits cs with
  | ([], _) => none
  | (ds, rest) =>
    let ds := ds.take 9
    some (decimalValue ds * Nat.pow 10 (9 - ds.length), rest)

/-- Reads an optional point and the digits after it as nanoseconds. -/
def optionalNanos : Scan Nat
  | '.' :: cs => nanoDigits cs
  | cs => some (0, cs)

/-- Reads the hours and minutes of an offset as seconds. -/
def offsetFields : Scan Int := fun cs => do
  let (hours, cs) ← digitsBetween 2 2 cs
  let cs ← skipChar ':' cs
  let (minutes, cs) ← digitsBetween 2 2 cs
  if hours ≤ 23 ∧ minutes ≤ 59 then return ((hours * 3600 + minutes * 60 : Nat), cs) else none

/-- Reads an offset from universal time: the letter Z, or a sign with hours and minutes. -/
def offset : Scan Int
  | 'Z' :: cs | 'z' :: cs => some (0, cs)
  | '+' :: cs => offsetFields cs
  | '-' :: cs | '\u2212' :: cs => do
    let (seconds, cs) ← offsetFields cs
    return (-seconds, cs)
  | _ => none

/-- Skips the mark between date and time. -/
def skipSeparator : List Char → Option (List Char)
  | 'T' :: cs | 't' :: cs | ' ' :: cs => some cs
  | _ => none

/-- Reads a whole text as a date-time of RFC 3339. -/
def rfc3339? (s : String) : Option Instant := do
  let (year, cs) ← digitsBetween 4 4 s.toList
  let cs ← skipChar '-' cs
  let (month, cs) ← digitsBetween 2 2 cs
  let cs ← skipChar '-' cs
  let (day, cs) ← digitsBetween 2 2 cs
  let cs ← skipSeparator cs
  let (hour, cs) ← digitsBetween 2 2 cs
  let cs ← skipChar ':' cs
  let (minute, cs) ← digitsBetween 2 2 cs
  let cs ← skipChar ':' cs
  let (second, cs) ← digitsBetween 2 2 cs
  let (nano, cs) ← optionalNanos cs
  let (ahead, cs) ← offset cs
  if cs = [] then ofCivil? ⟨year, month, day⟩ hour minute second nano ahead else none

/-- Reads a field of one to `most` digits after any blanks. -/
def field (most : Nat) : Scan Nat := fun cs =>
  digitsBetween 1 most (dropBlanks cs)

/-- Reads a year after any blanks: a sign and any number of digits, or one to four digits. -/
def yearField : Scan Int := fun cs =>
  match dropBlanks cs with
  | '-' :: cs => match splitDigits cs with
    | ([], _) => none
    | (ds, rest) => some (-(decimalValue ds : Int), rest)
  | '+' :: cs => match splitDigits cs with
    | ([], _) => none
    | (ds, rest) => some (decimalValue ds, rest)
  | cs => (digitsBetween 1 4 cs).map fun (n, rest) => (n, rest)

/-- Reads a year, month and day with short fields. -/
def looseDate : Scan CivilDate := fun cs => do
  let (year, cs) ← yearField cs
  let cs ← skipChar '-' cs
  let (month, cs) ← field 2 cs
  let cs ← skipChar '-' cs
  let (day, cs) ← field 2 cs
  return (⟨year, month, day⟩, cs)

/-- Reads a whole text as a date and a time in universal time, after `separator` between them. -/
def looseDateTime? (separator : List Char → Option (List Char)) (cs : List Char) :
    Option Instant := do
  let (date, cs) ← looseDate cs
  let cs ← separator cs
  let (hour, cs) ← field 2 cs
  let cs ← skipChar ':' cs
  let (minute, cs) ← field 2 cs
  let cs ← skipChar ':' cs
  let (second, cs) ← field 2 cs
  let (nano, cs) ← optionalNanos cs
  if cs = [] then ofCivil? date hour minute second nano 0 else none

/-- Reads a whole text as a date, which stands for its midnight. -/
def looseMidnight? (cs : List Char) : Option Instant := do
  let (date, cs) ← looseDate cs
  if cs = [] then ofCivil? date 0 0 0 0 0 else none

/-- Reads a text without the blanks around it as the first of these forms that fits: RFC 3339, a
date and a time with blanks or the letter T between them, a date, or milliseconds since the start
of 1970. -/
def lenient? (s : String) : Option Instant :=
  let cs := trim s.toList
  rfc3339? (String.ofList cs) <|>
    looseDateTime? (fun cs => some (dropBlanks cs)) cs <|>
    looseDateTime? (skipChar 'T') cs <|>
    looseMidnight? cs <|>
    (int64Of? cs).bind ofMillis?

end Conform.Instant
