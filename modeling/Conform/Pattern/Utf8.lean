import Conform.Text.CharSet

/-!
# Ranges of characters as ranges of bytes

A range of characters is split into parts whose encodings are all the combinations of one byte
from each of up to four ranges.
-/

namespace Conform.Pattern.Utf8

open Text

/-- A range of bytes, both ends included. -/
abbrev ByteRange := Nat × Nat

/-- The bytes that encode a code point. -/
def encode (n : Nat) : List Nat :=
  if n < 0x80 then [n]
  else if n < 0x800 then [0xC0 + n / 64, 0x80 + n % 64]
  else if n < 0x10000 then [0xE0 + n / 4096, 0x80 + n / 64 % 64, 0x80 + n % 64]
  else [0xF0 + n / 262144, 0x80 + n / 4096 % 64, 0x80 + n / 64 % 64, 0x80 + n % 64]

/-- The last code point of the first part of a range, where its encodings differ in length or are
not all combinations.  The blocks are those of 64, 64², and 64³ code points. -/
def firstCut? (first last : Nat) : Option Nat :=
  let lengths := [0x7F, 0x7FF, 0xFFFF].find? fun n => first ≤ n && n < last
  let blocks := [64, 4096, 262144].findSome? fun b =>
    if first / b = last / b then none
    else if first % b ≠ 0 then some (first / b * b + (b - 1))
    else if last % b ≠ b - 1 then some (last / b * b - 1)
    else none
  if first ≤ 0x7F ∧ last ≤ 0x7F then none else lengths <|> blocks

/-- The parts of a range without surrogates, in order.  There are at most a few of them for each
length. -/
def split : Nat → CodeRange → List CodeRange
  | 0, r => [r]
  | fuel + 1, (first, last) =>
    match firstCut? first last with
    | some n => split fuel (first, n) ++ split fuel (n + 1, last)
    | none => [(first, last)]

/-- The parts of a range on either side of the surrogates. -/
def withoutSurrogates (r : CodeRange) : List CodeRange :=
  [(r.1, min r.2 0xD7FF), (max r.1 CharSet.afterSurrogates, r.2)].filter fun r => r.1 ≤ r.2

/-- The ranges of the bytes of each part of a range of characters. -/
def sequences (r : CodeRange) : List (List ByteRange) :=
  ((withoutSurrogates r).flatMap (split 64)).map fun p => (encode p.1).zip (encode p.2)

def sequencesOf (s : CharSet) : List (List ByteRange) :=
  s.ranges.flatMap sequences

end Conform.Pattern.Utf8
