import Conform.Text.Words

/-!
# Punycode

Reads a label of ASCII characters that encodes a label with other characters: the plain
characters stand before the last hyphen, and after it stand numbers of variable length that say
which character comes next, in ascending order of code points, and where.
-/

namespace Conform.Punycode

open Text

/-- The parameters that the decoding of an encoded label adapts. -/
structure State where
  code : Nat := 128
  place : Nat := 0
  bias : Nat := 72

/-- The bias after a delta of a label of `count` characters. -/
def adaptBias (delta count : Nat) (first : Bool) : Nat :=
  let d := if first then delta / 700 else delta / 2
  let d := d + d / count
  go 64 d 0
where
  /-- Divides the delta down, counting the steps in the bias. -/
  go : Nat → Nat → Nat → Nat
    | 0, d, k => k + 36 * d / (d + 38)
    | fuel + 1, d, k => if 455 < d then go fuel (d / 35) (k + 36) else k + 36 * d / (d + 38)

/-- The value of a digit of an encoded label. -/
def digit? (c : Char) : Option Nat :=
  if isDigit c then some (digitValue c + 26)
  else if isAsciiLetter c then some ((lowerAscii c).toNat - 'a'.toNat)
  else none

/-- Reads one variable-length number of an encoded label. -/
def number? (bias : Nat) : Nat → Nat → Nat → List Char → Option (Nat × List Char)
  | _, _, _, [] => none
  | k, weight, value, c :: rest => do
    let d ← digit? c
    let value := value + d * weight
    let t := if k ≤ bias then 1 else if bias + 26 ≤ k then 26 else k - bias
    if d < t then return (value, rest)
    else number? bias (k + 36) (weight * (36 - t)) value rest

/-- Inserts the characters that the rest of an encoded label gives. -/
def insertAll : Nat → State → List Char → List Char → Option (List Char)
  | _, _, out, [] => some out
  | 0, _, _, _ => none
  | fuel + 1, st, out, cs => do
    let (delta, rest) ← number? st.bias 36 1 0 cs
    let count := out.length + 1
    let total := st.place + delta
    let code := st.code + total / count
    let place := total % count
    if !code.isValidChar then none
    else
      let bias := adaptBias delta count (out.all (·.toNat < 128))
      insertAll fuel { code, place := place + 1, bias }
        (out.take place ++ Char.ofNat code :: out.drop place) rest

/-- Decodes an encoded label, without its marker. -/
def decode? (cs : List Char) : Option (List Char) :=
  let tail := (cs.reverse.takeWhile (· ≠ '-')).reverse
  let plain := (cs.take (cs.length - tail.length)).dropLast
  insertAll (cs.length + 1) {} plain tail

end Conform.Punycode
