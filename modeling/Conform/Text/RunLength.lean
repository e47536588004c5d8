/-!
# Run-length tables

Tables over all characters are written as text: a sequence of numbers in base 26, most
significant digit first, where a lower-case letter is a digit that others follow and an
upper-case letter is the last digit of a number.
-/

namespace Conform.Text

/-- A range of code points, both ends included. -/
abbrev CodeRange := Nat × Nat

/-- Whether a code point lies in one of the ranges. -/
def inRanges (ranges : List CodeRange) (n : Nat) : Bool :=
  ranges.any fun r => r.1 ≤ n && n ≤ r.2

/-- Decodes the numbers of a table; `n` is the number being read. -/
def decodeNumbers (n : Nat) : List Char → List Nat
  | [] => []
  | c :: rest =>
    if 'a' ≤ c ∧ c ≤ 'z' then decodeNumbers (26 * n + (c.toNat - 'a'.toNat)) rest
    else (26 * n + (c.toNat - 'A'.toNat)) :: decodeNumbers 0 rest

/-- The numbers of a table; a number may go on from one line to the next. -/
def tableNumbers (lines : List String) : List Nat :=
  decodeNumbers 0 (lines.flatMap String.toList)

/-- The runs of a table that covers all code points from `start` on: pairs of a length and a
value, as a range and its value. -/
def valueRuns (start : Nat) : List Nat → List (CodeRange × Nat)
  | length :: v :: rest => ((start, start + length - 1), v) :: valueRuns (start + length) rest
  | _ => []

/-- The ranges of a table of gaps and lengths less one, from `start` on. -/
def gapRanges (start : Nat) : List Nat → List CodeRange
  | gap :: length :: rest =>
    (start + gap, start + gap + length) :: gapRanges (start + gap + length + 1) rest
  | _ => []

/-- The runs of a table of gaps, lengths less one and values, from `start` on. -/
def gapRuns (start : Nat) : List Nat → List (CodeRange × Nat)
  | gap :: length :: v :: rest =>
    ((start + gap, start + gap + length), v) :: gapRuns (start + gap + length + 1) rest
  | _ => []

/-- The code point at a signed distance from another: an even number is twice a distance forward,
an odd one twice a distance backward, less one. -/
def displaced (n d : Nat) : Nat :=
  if d % 2 = 0 then n + d / 2 else n - (d + 1) / 2

/-- The value of the first run that holds a code point. -/
def valueAt? (runs : List (CodeRange × Nat)) (n : Nat) : Option Nat :=
  (runs.find? fun r => r.1.1 ≤ n && n ≤ r.1.2).map Prod.snd

def rangesWith (runs : List (CodeRange × Nat)) (p : Nat → Bool) : List CodeRange :=
  runs.filterMap fun r => if p r.2 then some r.1 else none

end Conform.Text
