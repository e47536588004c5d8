import Conform.Number.Numeral
import Conform.Number.Shortest

/-!
# Numbers of a JSON value

A number is a whole number of the joint range of the signed and unsigned 64-bit words, or a
finite double.  The two forms of one value, such as `1` and `1.0`, are different numbers.
-/

namespace Conform

/-- A JSON number: a whole number between `-2 ^ 63` and `2 ^ 64 - 1`, or a finite double. -/
inductive Number where
  | int (i : Int) (bounds : -9223372036854775808 ≤ i ∧ i < 18446744073709551616)
  | float (x : Double)
  deriving DecidableEq

namespace Number

instance : Inhabited Number := ⟨.int 0 (by decide)⟩

/-- The number of integer form, when the whole number is in its range. -/
def ofInt? (i : Int) : Option Number :=
  if h : -9223372036854775808 ≤ i ∧ i < 18446744073709551616 then some (.int i h) else none

/-- A whole number in integer form where it has one, as a double otherwise. -/
def ofInt (i : Int) : Number :=
  (ofInt? i).getD (.float (Double.ofInt i))

/-- A count in integer form where it has one, as a double otherwise. -/
def ofNat (n : Nat) : Number :=
  ofInt n

/-- Whether the number has the form of a double. -/
def isFloat : Number → Bool
  | .int .. => false
  | .float _ => true

/-- The double nearest to the number. -/
def toDouble : Number → Double
  | .int i _ => Double.ofInt i
  | .float x => x

/-- The number as a signed 64-bit whole number: only one of integer form, and in that range. -/
def toInt64? : Number → Option Int
  | .int i _ => if i < 9223372036854775808 then some i else none
  | .float _ => none

/-- The number as an unsigned 64-bit whole number: only one of integer form, and in that range. -/
def toNat? : Number → Option Nat
  | .int i _ => if 0 ≤ i then some i.toNat else none
  | .float _ => none

/-- Equality of form and value; the two zeros of the float form are equal. -/
def same : Number → Number → Bool
  | .int i _, .int j _ => i == j
  | .float x, .float y => x.same y
  | _, _ => false

/-- Equality of value: numbers of different form, or both floats, are compared as doubles. -/
def sameValue (a b : Number) : Bool :=
  if a.isFloat || b.isFloat then a.toDouble.same b.toDouble else a.same b

/-- Digits with a point among or around them: `digits * 10 ^ exponent` without an exponent part.
A whole value has no point. -/
def plainDigits (d : Decimal) : String :=
  let ds := Nat.toDigits 10 d.digits
  if 0 ≤ d.exponent then String.ofList (ds ++ List.replicate d.exponent.toNat '0')
  else
    let places := (-d.exponent).toNat
    let ds := List.replicate (places + 1 - ds.length) '0' ++ ds
    String.ofList (ds.take (ds.length - places) ++ '.' :: ds.drop (ds.length - places))

/-- Digits with the point after the first one, and the exponent with its sign. -/
def scientificDigits (d : Decimal) : String :=
  let ds := Nat.toDigits 10 d.digits
  let e := d.exponent + (ds.length - 1 : Nat)
  let mantissa := match ds with
    | [] | [_] => ds
    | c :: rest => c :: '.' :: rest
  String.ofList mantissa ++ "e" ++ (if 0 ≤ e then "+" else "-") ++ toString e.natAbs

/-- The minus sign of a negative double, zero included. -/
def signText (x : Double) : String :=
  if x.negative then "-" else ""

/-- A double as it stands in JSON text: the shortest digits, plain when the first one has an
exponent from -5 to 15 and scientific otherwise.  A whole value keeps one zero after the point. -/
def floatText (x : Double) : String :=
  let d := x.shortest .toEven
  let lead := d.exponent + (Decimal.digitCount d.digits - 1 : Nat)
  signText x ++
    if -5 ≤ lead ∧ lead ≤ 15 then
      plainDigits d ++ (if 0 ≤ d.exponent then ".0" else "")
    else scientificDigits d

/-- A double as it stands in a message: the shortest digits, never with an exponent, and without
a point when the value is whole. -/
def floatMessageText (x : Double) : String :=
  signText x ++ plainDigits (x.shortest .up)

/-- A number as it stands in JSON text. -/
def text : Number → String
  | .int i _ => toString i
  | .float x => floatText x

end Number

end Conform
