/-!
# Finite doubles

The finite numbers of the 64-bit binary format, held exactly: a sign, a significand of at most
53 bits and an exponent, in units of `2 ^ -1074`.  All comparison and rounding is arithmetic on
whole numbers of that unit.  The two zeros are different doubles with one value.
-/

namespace Conform

/-- A finite double: `significand * 2 ^ exponent` units of `2 ^ -1074`, with a sign. -/
structure Double where
  negative : Bool
  significand : Nat
  exponent : Nat
  significand_lt : significand < Nat.pow 2 53
  normal : Nat.pow 2 52 ≤ significand ∨ exponent = 0
  exponent_le : exponent ≤ 2045
  deriving DecidableEq

namespace Double

/-- How many units of `2 ^ -1074` make one. -/
def unitsPerOne : Nat := Nat.pow 2 1074

/-- The absolute value, in units. -/
def magnitude (x : Double) : Nat :=
  x.significand * Nat.pow 2 x.exponent

/-- The value, in units. -/
def scaled (x : Double) : Int :=
  if x.negative then -(x.magnitude : Int) else x.magnitude

/-- The zero with the given sign. -/
def zero (negative : Bool) : Double :=
  ⟨negative, 0, 0, by decide, by decide, by decide⟩

instance : Inhabited Double := ⟨zero false⟩

/-- The double with these fields, if they are in its format. -/
def ofParts? (negative : Bool) (significand exponent : Nat) : Option Double :=
  if h : significand < Nat.pow 2 53 ∧ (Nat.pow 2 52 ≤ significand ∨ exponent = 0) ∧
      exponent ≤ 2045 then
    some ⟨negative, significand, exponent, h.1, h.2.1, h.2.2⟩
  else none

/-- The whole number nearest to `n / d`; a tie goes to the even neighbour. -/
def roundQuotient (n d : Nat) : Nat :=
  let q := n / d
  let r := n % d
  if 2 * r < d then q else if d < 2 * r then q + 1 else q + q % 2

/-- The double nearest to `n / d` units, a tie going to the even significand; none when it lies
beyond the largest double. -/
def ofUnits? (negative : Bool) (n d : Nat) : Option Double :=
  let exponent := (n / d).log2 - 52
  let significand := roundQuotient n (d * Nat.pow 2 exponent)
  if significand < Nat.pow 2 53 then ofParts? negative significand exponent
  else ofParts? negative (Nat.pow 2 52) (exponent + 1)

/-- The double nearest to `n / d`. -/
def ofRatio? (negative : Bool) (n d : Nat) : Option Double :=
  ofUnits? negative (n * unitsPerOne) d

/-- The double nearest to a product, none when it lies beyond the largest double. -/
def mul? (x y : Double) : Option Double :=
  ofUnits? (x.negative != y.negative) (x.magnitude * y.magnitude) unitsPerOne

/-- The double nearest to a quotient, none when it lies beyond the largest double. -/
def div? (x y : Double) : Option Double :=
  ofUnits? (x.negative != y.negative) (x.magnitude * unitsPerOne) y.magnitude

/-- The double nearest to `digits * 10 ^ exponent`.  An exponent far outside the format decides
on its own, so that no power of ten much larger than the format is computed. -/
def ofDecimal? (negative : Bool) (digits : Nat) (exponent : Int) : Option Double :=
  if digits = 0 then some (zero negative)
  else if 310 ≤ exponent then none
  else if (digits.log2 / 3 + 1 : Nat) + exponent ≤ -330 then some (zero negative)
  else if 0 ≤ exponent then ofRatio? negative (digits * Nat.pow 10 exponent.toNat) 1
  else ofRatio? negative digits (Nat.pow 10 (-exponent).toNat)

/-- The double nearest to a whole number, zero when the number is beyond the format. -/
def ofInt (i : Int) : Double :=
  (ofRatio? (decide (i < 0)) i.natAbs 1).getD (zero false)

/-- Whether two doubles have the same value. -/
def same (x y : Double) : Bool :=
  x.scaled == y.scaled

/-- Whether one double has a smaller value than another. -/
def less (x y : Double) : Bool :=
  x.scaled < y.scaled

/-- The whole number that a double is, if it is one and lies strictly between `-2 ^ 63` and
`2 ^ 63`. -/
def toInt? (x : Double) : Option Int :=
  if x.magnitude % unitsPerOne = 0 ∧ x.magnitude / unitsPerOne < 9223372036854775808 then
    some (x.scaled / unitsPerOne)
  else none

/-- One. -/
def one : Double :=
  ⟨false, Nat.pow 2 52, 1022, by decide, by decide, by decide⟩

end Double

end Conform
