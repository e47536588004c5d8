import Conform.Number.Double
import Conform.Text.Words

/-!
# Decimal numerals in text

Reads whole numbers and decimal numerals written as text: an optional sign, digits with an
optional point, and an optional exponent.
-/

namespace Conform

/-- A decimal numeral: a sign, digits and a power of ten. -/
structure Numeral where
  negative : Bool
  digits : Nat
  exponent : Int
  deriving DecidableEq

namespace Numeral

open Text

/-- Splits an optional sign off; true stands for minus. -/
def splitSign : List Char → Bool × List Char
  | '-' :: cs => (true, cs)
  | '+' :: cs => (false, cs)
  | cs => (false, cs)

/-- Splits the leading decimal digits off. -/
def splitDigits (cs : List Char) : List Char × List Char :=
  (cs.takeWhile isDigit, cs.dropWhile isDigit)

/-- Splits an optional fraction off: a point and any digits after it. -/
def splitFraction : List Char → List Char × List Char
  | '.' :: cs => splitDigits cs
  | cs => ([], cs)

/-- The value of an exponent part that fills the rest of a text: nothing, or a letter `e` of
either case, an optional sign and at least one digit. -/
def exponentOf? : List Char → Option Int
  | [] => some 0
  | c :: cs =>
    if c = 'e' ∨ c = 'E' then
      let (negative, cs) := splitSign cs
      match splitDigits cs with
      | ([], _) => none
      | (ds, []) => some (if negative then -(decimalValue ds : Int) else decimalValue ds)
      | _ => none
    else none

/-- Reads a whole text as a decimal numeral.  A point may lead or follow the digits, of which
there is at least one. -/
def ofText? (cs : List Char) : Option Numeral :=
  let (negative, cs) := splitSign cs
  let (whole, cs) := splitDigits cs
  let (fraction, cs) := splitFraction cs
  if whole ++ fraction = [] then none
  else (exponentOf? cs).map fun e =>
    ⟨negative, decimalValue (whole ++ fraction), e - fraction.length⟩

/-- The double nearest to the numeral, none when it is too large. -/
def toDouble? (n : Numeral) : Option Double :=
  Double.ofDecimal? n.negative n.digits n.exponent

/-- Reads a whole text as an optional sign followed by one or more digits. -/
def wholeOf? (cs : List Char) : Option Int :=
  let (negative, cs) := splitSign cs
  match splitDigits cs with
  | ([], _) => none
  | (ds, []) => some (if negative then -(decimalValue ds : Int) else decimalValue ds)
  | _ => none

/-- Reads a whole text as a signed 64-bit whole number. -/
def int64Of? (cs : List Char) : Option Int :=
  (wholeOf? cs).filter fun i => -9223372036854775808 ≤ i && i < 9223372036854775808

end Numeral

end Conform
