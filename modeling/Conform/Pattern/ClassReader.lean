import Conform.Pattern.Escape

/-!
# Reading classes in brackets

The items of a class, which can be classes themselves, and the set operations between them.
-/

namespace Conform.Pattern

open Text

/-- The ASCII classes that have a name between colons. -/
def posixNames : List String :=
  ["alnum", "alpha", "ascii", "blank", "cntrl", "digit", "graph", "lower", "print", "punct",
    "space", "upper", "word", "xdigit"]

def classItem : Primitive → Except PatternError ClassTree
  | .literal l => .ok (.literal l)
  | .named negated c => .ok (.named negated c)
  | .sign _ => .error .badClassItem

def rangeEnd : Primitive → Except PatternError Literal
  | .literal l => .ok l
  | _ => .error .badRangeEnd

/-- Reads a single item of a class: an escape or a character. -/
def readClassPrimitive (verbose : Bool) : List Char → Except PatternError (AndRest Primitive)
  | [] => .error .unclosedClass
  | '\\' :: rest => readEscape verbose rest
  | c :: rest => .ok (.literal { char := c }, rest)

/-- The character that decides what a hyphen before `cs` is.  Of a comment only the sign that
begins it is left out here. -/
def afterHyphen? (verbose : Bool) (cs : List Char) : Option Char :=
  if verbose then
    match dropBlanks cs with
    | '#' :: rest => (dropBlanks rest).head?
    | rest => rest.head?
  else cs.head?

/-- Reads an item of a class or a range of characters.  A hyphen before a closing bracket or
another hyphen begins no range. -/
def readClassRange (verbose : Bool) (cs : List Char) : Except PatternError (AndRest ClassTree) := do
  let (first, rest) ← readClassPrimitive verbose cs
  match skip verbose rest with
  | '-' :: rest' =>
    let next := afterHyphen? verbose rest'
    if next = some ']' ∨ next = some '-' then return (← classItem first, '-' :: rest')
    else
      let (last, rest) ← readClassPrimitive verbose (skip verbose rest')
      let a ← rangeEnd first
      let b ← rangeEnd last
      if a.char ≤ b.char then return (.range a b, rest) else throw .reversedRange
  | rest => return (← classItem first, rest)

/-- Reads an ASCII class such as `[:alpha:]` after its first bracket, where there is one. -/
def readPosix? (cs : List Char) : Option (ClassTree × List Char) :=
  match cs with
  | ':' :: rest =>
    let (negated, rest) := match rest with
      | '^' :: rest => (true, rest)
      | _ => (false, rest)
    let name := rest.takeWhile (· ≠ ':')
    match rest.drop name.length with
    | ':' :: ']' :: rest =>
      let name := String.ofList name
      if posixNames.contains name then some (.posix negated name, rest) else none
    | _ => none
  | _ => none

/-- A class that is being read: whether it is negated, the operation before the operand being
read with what stands left of it, and the items of the operand so far, latest first. -/
structure OpenClass where
  negated : Bool
  pending : Option (SetOp × ClassTree) := none
  items : List ClassTree := []

namespace OpenClass

/-- Adds an item. -/
def push (st : OpenClass) (c : ClassTree) : OpenClass :=
  { st with items := c :: st.items }

/-- What has been read: the operation before the operand holds between what stands left of it and
the operand. -/
def body (st : OpenClass) : ClassTree :=
  let operand := ClassTree.unionOf st.items.reverse
  match st.pending with
  | some (op, left) => .op op left operand
  | none => operand

/-- Begins the operand after an operation. -/
def operator (st : OpenClass) (op : SetOp) : Except PatternError OpenClass :=
  let left := st.body
  if left.depth ≤ maxDepth then .ok { st with pending := some (op, left), items := [] }
  else .error .tooDeep

end OpenClass

/-- Splits the hyphens at the start of a class off, which stand for themselves. -/
def leadingHyphens (verbose : Bool) : Nat → List ClassTree → List Char →
    List ClassTree × List Char
  | 0, items, cs => (items, cs)
  | fuel + 1, items, cs =>
    match skip verbose cs with
    | '-' :: rest => leadingHyphens verbose fuel (.literal { char := '-' } :: items) rest
    | cs => (items, cs)

/-- Reads the start of a class after its bracket: whether it is negated, and the hyphens or the
closing bracket that stand for themselves because they come first. -/
def readClassStart (verbose : Bool) (cs : List Char) : AndRest OpenClass :=
  let (negated, cs) := match skip verbose cs with
    | '^' :: rest => (true, rest)
    | cs => (false, cs)
  match leadingHyphens verbose cs.length [] cs with
  | ([], ']' :: rest) => ({ negated, items := [.literal { char := ']' }] }, rest)
  | (items, cs) => ({ negated, items }, cs)

/-- Reads a class up to its closing bracket; `outer` holds the classes around it, innermost first.
Every round takes at least one character, which bounds their number. -/
def readClassBody (verbose : Bool) : Nat → List OpenClass → OpenClass → List Char →
    Except PatternError (AndRest (Bool × ClassTree))
  | 0, _, _, _ => .error .unclosedClass
  | fuel + 1, outer, st, cs =>
    match skip verbose cs with
    | [] => .error .unclosedClass
    | ']' :: rest =>
      match outer with
      | [] => .ok ((st.negated, st.body), rest)
      | parent :: outer =>
        let inner := ClassTree.bracketed st.negated st.body
        if inner.depth ≤ maxDepth then readClassBody verbose fuel outer (parent.push inner) rest
        else .error .tooDeep
    | '[' :: rest =>
      match readPosix? rest with
      | some (c, rest) => readClassBody verbose fuel outer (st.push c) rest
      | none =>
        let (inner, rest) := readClassStart verbose rest
        readClassBody verbose fuel (st :: outer) inner rest
    | '&' :: '&' :: rest =>
      match st.operator .inter with
      | .ok st => readClassBody verbose fuel outer st rest
      | .error e => .error e
    | '-' :: '-' :: rest =>
      match st.operator .diff with
      | .ok st => readClassBody verbose fuel outer st rest
      | .error e => .error e
    | '~' :: '~' :: rest =>
      match st.operator .symmDiff with
      | .ok st => readClassBody verbose fuel outer st rest
      | .error e => .error e
    | cs =>
      match readClassRange verbose cs with
      | .ok (c, rest) => readClassBody verbose fuel outer (st.push c) rest
      | .error e => .error e

/-- Reads a class after its bracket: whether it is negated, and what it holds. -/
def readClass (verbose : Bool) (cs : List Char) :
    Except PatternError (AndRest (Bool × ClassTree)) :=
  let (st, rest) := readClassStart verbose cs
  readClassBody verbose (cs.length + 1) [] st rest

end Conform.Pattern
