import Conform.Text.RunLength

/-!
# Sets of characters

Sets of characters as ascending lists of ranges of code points, with the operations of sets.  The
surrogates are no characters: a range may run across them, and the characters on either side of
them follow one another.
-/

namespace Conform

open Text

/-- A set of characters: ranges in ascending order that do not touch. -/
structure CharSet where
  ranges : List CodeRange
  deriving DecidableEq, Inhabited

namespace CharSet

/-- The first code point after the surrogates. -/
def afterSurrogates : Nat := 0xE000

def lastCode : Nat := 0x10FFFF

/-- The code point of the next character. -/
def next (n : Nat) : Nat :=
  if n = 0xD7FF then afterSurrogates else n + 1

/-- The code point of the character before. -/
def previous (n : Nat) : Nat :=
  if n = afterSurrogates then 0xD7FF else n - 1

/-- Joins a range with the ascending ranges after it, where they touch or overlap. -/
def absorb (r : CodeRange) : List CodeRange → List CodeRange
  | [] => [r]
  | s :: rest =>
    if s.1 ≤ r.2 + 1 then absorb (r.1, max r.2 s.2) rest else r :: absorb s rest

/-- The set of the characters in ranges that ascend by their first code points. -/
def ofAscending : List CodeRange → CharSet
  | [] => ⟨[]⟩
  | r :: rest => ⟨absorb r rest⟩

/-- Whether a range comes before another: by first code point, then by last. -/
def precedes (r s : CodeRange) : Bool :=
  r.1 < s.1 || (r.1 == s.1 && r.2 ≤ s.2)

def ofRanges (rs : List CodeRange) : CharSet :=
  ofAscending (rs.mergeSort precedes)

/-- The set of a table of gaps and lengths. -/
def ofTable (lines : List String) : CharSet :=
  ⟨gapRanges 0 (tableNumbers lines)⟩

def empty : CharSet := ⟨[]⟩

def all : CharSet := ⟨[(0, lastCode)]⟩

def ascii : CharSet := ⟨[(0, 0x7F)]⟩

def single (c : Char) : CharSet := ⟨[(c.toNat, c.toNat)]⟩

def range (first last : Char) : CharSet := ⟨[(first.toNat, last.toNat)]⟩

/-- Whether a code point lies in one of some ascending ranges. -/
def holds (n : Nat) : List CodeRange → Bool
  | [] => false
  | r :: rest => r.1 ≤ n && (n ≤ r.2 || holds n rest)

/-- Whether the set has a code point. -/
def has (s : CharSet) (n : Nat) : Bool :=
  holds n s.ranges

def mem (s : CharSet) (c : Char) : Bool :=
  s.has c.toNat

def isEmpty (s : CharSet) : Bool :=
  s.ranges.isEmpty

def isAscii (s : CharSet) : Bool :=
  s.ranges.all fun r => r.2 < 0x80

def single? (s : CharSet) : Option Char :=
  match s.ranges with
  | [(a, b)] => if a = b then some (Char.ofNat a) else none
  | _ => none

def union (s t : CharSet) : CharSet :=
  ofAscending (s.ranges.merge t.ranges precedes)

def unionOf (ss : List CharSet) : CharSet :=
  ofRanges (ss.flatMap ranges)

/-- The common parts of ascending ranges. -/
def interRanges : List CodeRange → List CodeRange → List CodeRange
  | [], _ => []
  | _, [] => []
  | r :: rs, s :: ss =>
    let rest := if r.2 < s.2 then interRanges rs (s :: ss) else interRanges (r :: rs) ss
    if max r.1 s.1 ≤ min r.2 s.2 then (max r.1 s.1, min r.2 s.2) :: rest else rest
termination_by rs ss => rs.length + ss.length

def inter (s t : CharSet) : CharSet :=
  ⟨interRanges s.ranges t.ranges⟩

/-- The parts of ascending ranges outside others. -/
def diffRanges : List CodeRange → List CodeRange → List CodeRange
  | [], _ => []
  | rs, [] => rs
  | r :: rs, s :: ss =>
    if s.2 < r.1 then diffRanges (r :: rs) ss
    else if r.2 < s.1 then r :: diffRanges rs (s :: ss)
    else
      let rest :=
        if s.2 < r.2 then diffRanges ((next s.2, r.2) :: rs) ss else diffRanges rs (s :: ss)
      if r.1 < s.1 then (r.1, previous s.1) :: rest else rest
termination_by rs ss => rs.length + ss.length

/-- The characters of the first set that are not in the second. -/
def diff (s t : CharSet) : CharSet :=
  ⟨diffRanges s.ranges t.ranges⟩

/-- The characters of one set that are not in the other. -/
def symmDiff (s t : CharSet) : CharSet :=
  (s.union t).diff (s.inter t)

/-- What lies between ascending ranges, after the code point `last`.  Between two ranges that meet
at the surrogates it is the two characters there, since what follows the one and what comes
before the other are then taken in turn. -/
def rangesBetween (last : Nat) : List CodeRange → List CodeRange
  | [] => if last < lastCode then [(next last, lastCode)] else []
  | r :: rest =>
    let (a, b) := (next last, previous r.1)
    (min a b, max a b) :: rangesBetween r.2 rest

def complement (s : CharSet) : CharSet :=
  match s.ranges with
  | [] => all
  | r :: rest =>
    let after := rangesBetween r.2 rest
    ⟨if 0 < r.1 then (0, previous r.1) :: after else after⟩

/-- The set or, where it is negated, all other characters. -/
def negateIf (negated : Bool) (s : CharSet) : CharSet :=
  if negated then s.complement else s

end CharSet

end Conform
