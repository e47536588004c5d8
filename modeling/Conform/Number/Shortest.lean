import Conform.Number.Double

/-!
# Shortest decimals

The shortest decimal that reads back as a given double.  The decimals that round to a double
form an interval around it, which holds its ends exactly when the significand is even.  If a
decimal of `n` digits lies in the interval, so does one of the two neighbours of the double
among the decimals of that many digits; the first `n` with such a neighbour wins, and of two
neighbours the nearer one.
-/

namespace Conform

/-- A positive decimal `digits * 10 ^ exponent`. -/
structure Decimal where
  digits : Nat
  exponent : Int
  deriving DecidableEq

namespace Decimal

/-- How many decimal digits a number has. -/
def digitCount (n : Nat) : Nat :=
  (Nat.toDigits 10 n).length

/-- The decimal without zeros at the end of its digits. -/
def normalize (d : Decimal) : Decimal :=
  go (digitCount d.digits) d
where
  /-- Moves up to `fuel` zeros from the digits into the exponent. -/
  go : Nat → Decimal → Decimal
    | 0, d => d
    | fuel + 1, d =>
      if d.digits ≠ 0 ∧ d.digits % 10 = 0 then go fuel ⟨d.digits / 10, d.exponent + 1⟩ else d

end Decimal

/-- Which of two equally near decimals is taken. -/
inductive Tie where
  | toEven
  | up
  deriving DecidableEq

namespace Double

/-- The double in quarter units, so that the midpoints to its neighbours are whole. -/
def quarters (x : Double) : Nat :=
  4 * x.magnitude

/-- The least number of quarter units that still rounds to the double, ties included. -/
def lowerEnd (x : Double) : Nat :=
  if x.significand = Nat.pow 2 52 ∧ x.exponent ≠ 0 then x.quarters - Nat.pow 2 x.exponent
  else x.quarters - 2 * Nat.pow 2 x.exponent

/-- The greatest number of quarter units that still rounds to the double, ties included. -/
def upperEnd (x : Double) : Nat :=
  x.quarters + 2 * Nat.pow 2 x.exponent

/-- Whether `n / d` quarter units round to the double. -/
def roundsHere (x : Double) (n d : Nat) : Bool :=
  if x.significand % 2 = 0 then x.lowerEnd * d ≤ n && n ≤ x.upperEnd * d
  else x.lowerEnd * d < n && n < x.upperEnd * d

/-- The decimal exponent of the first digit of a double that is not zero. -/
def leadingExponent (x : Double) : Int :=
  (Decimal.digitCount (x.quarters * Nat.pow 10 400 / (4 * unitsPerOne)) : Int) - 401

/-- Of the two neighbours of the double among the multiples of `10 ^ exponent`, the nearer one
that rounds to it. -/
def neighbour? (tie : Tie) (x : Double) (exponent : Int) : Option Decimal :=
  let up := Nat.pow 10 exponent.toNat
  let down := Nat.pow 10 (-exponent).toNat
  let step := 4 * unitsPerOne * up
  let value := x.quarters * down
  let below := value / step
  let rest := value % step
  let low := x.roundsHere (below * step) down
  let high := x.roundsHere ((below + 1) * step) down
  let lowerWins := 2 * rest < step || (2 * rest == step && tie == .toEven && below % 2 == 0)
  if low && (lowerWins || !high) then some ⟨below, exponent⟩
  else if high then some ⟨below + 1, exponent⟩
  else none

/-- The shortest decimal that reads back as the absolute value of the double. -/
def shortest (tie : Tie) (x : Double) : Decimal :=
  if x.significand = 0 then ⟨0, 0⟩
  else
    let lead := x.leadingExponent
    (((List.range 17).findSome? fun (n : Nat) => neighbour? tie x (lead - n)).getD
      ⟨0, 0⟩).normalize

end Double

end Conform
