import Conform.Pattern.ClassReader

/-!
# Reading patterns

The notation of regular expressions: literals, classes with set operations, anchors, groups,
alternatives, repetitions and flags.  References to groups and looking around are not part of it.
-/

namespace Conform.Pattern

open Text

/-- Splits the digits of a repetition count off, at most as many as the second argument says. -/
def countDigits (verbose : Bool) : Nat → List Char → List Char × List Char
  | fuel + 1, c :: cs =>
    if isDigit c then
      let (ds, rest) := countDigits verbose fuel (skip verbose cs)
      (c :: ds, rest)
    else ([], c :: cs)
  | _, cs => ([], cs)

/-- Reads a repetition count, with any blanks around it. -/
def readCount (verbose : Bool) (cs : List Char) : Except PatternError (AndRest Nat) :=
  let (ds, rest) := countDigits verbose cs.length (dropBlanks cs)
  if ds = [] then .error .badCount
  else if decimalValue ds < 4294967296 then .ok (decimalValue ds, dropBlanks rest)
  else .error .badCount

/-- Reads a counted repetition after its brace: the least and the greatest count. -/
def readCounts (verbose : Bool) (cs : List Char) :
    Except PatternError (AndRest (Nat × Option Nat)) := do
  let (least, cs) ← readCount verbose (skip verbose cs)
  match cs with
  | '\x7d' :: rest => return ((least, some least), skip verbose rest)
  | ',' :: cs =>
    match skip verbose cs with
    | '\x7d' :: rest => return ((least, none), skip verbose rest)
    | cs =>
      let (most, cs) ← readCount verbose cs
      match cs with
      | '\x7d' :: rest =>
        if least ≤ most then return ((least, some most), skip verbose rest)
        else throw .reversedCount
      | _ => throw .unclosedCount
  | _ => throw .unclosedCount

/-- Splits the mark of a lazy repetition off. -/
def readLazy : List Char → Bool × List Char
  | '?' :: rest => (true, rest)
  | cs => (false, cs)

def flag? : Char → Option Flag
  | 'i' => some .caseless
  | 'm' => some .multiLine
  | 's' => some .dotAll
  | 'U' => some .swapGreed
  | 'u' => some .unicode
  | 'R' => some .crlf
  | 'x' => some .verbose
  | _ => none

/-- Reads flags up to a colon or a closing parenthesis, which is left.  `seen` holds the letters
and hyphens so far, latest first, none of which may come twice. -/
def readFlags (seen : List Char) : List Char → Except PatternError (AndRest FlagChange)
  | [] => .error .badFlag
  | c :: rest =>
    if c = ':' ∨ c = ')' then
      if seen.head? = some '-' then .error .badFlag else .ok ([], c :: rest)
    else if seen.contains c then .error .badFlag
    else if c = '-' then readFlags (c :: seen) rest
    else
      match flag? c with
      | some f =>
        (readFlags (c :: seen) rest).map fun (change, rest) =>
          ((f, !seen.contains '-') :: change, rest)
      | none => .error .badFlag

/-- Whether a character may stand in a group name. -/
def isNameChar (first : Bool) (c : Char) : Bool :=
  c == '_' || Property.isAlphabetic c || (!first && (c == '.' || c == '[' || c == ']' ||
    hasCategory Category.numbers c))

/-- Reads a group name up to its closing angle bracket. -/
def readName (cs : List Char) : Except PatternError (AndRest (List Char)) :=
  let name := cs.takeWhile (· ≠ '>')
  match name, cs.drop name.length with
  | c :: more, _ :: rest =>
    if isNameChar true c && more.all (isNameChar false) then .ok (name, rest)
    else .error .badGroupName
  | _, _ => .error .badGroupName

/-- What a parenthesis begins. -/
inductive Opening where
  | capture (name : Option (List Char))
  | scope (change : FlagChange)
  | directive (change : FlagChange)

/-- Reads what a parenthesis begins. -/
def readOpening (verbose : Bool) (cs : List Char) : Except PatternError (AndRest Opening) :=
  let named (rest : List Char) : Except PatternError (AndRest Opening) :=
    (readName rest).map fun (name, rest) => (.capture (some name), rest)
  match skip verbose cs with
  | '?' :: '=' :: _ | '?' :: '!' :: _ | '?' :: '<' :: '=' :: _ | '?' :: '<' :: '!' :: _ =>
    .error .lookAround
  | '?' :: 'P' :: '<' :: rest => named rest
  | '?' :: '<' :: rest => named rest
  | '?' :: rest => do
    let (change, rest) ← readFlags [] rest
    match rest with
    | ':' :: rest => return (.scope change, rest)
    | _ :: rest => if change = [] then throw .nothingToRepeat else return (.directive change, rest)
    | [] => throw .unclosedGroup
  | cs => .ok (.capture none, cs)

/-- Reads a primitive outside classes. -/
def readPrimitive (verbose : Bool) : List Char → Except PatternError (AndRest Tree)
  | [] => .ok (.empty, [])
  | '\\' :: rest =>
    (readEscape verbose rest).map fun (p, rest) =>
      match p with
      | .literal l => (.literal l, rest)
      | .named negated c => (.named negated c, rest)
      | .sign s => (.sign s, rest)
  | '.' :: rest => .ok (.dot, rest)
  | '^' :: rest => .ok (.sign .lineStart, rest)
  | '$' :: rest => .ok (.sign .lineEnd, rest)
  | c :: rest => .ok (.literal { char := c }, rest)

/-- The alternatives of a group that are complete and the items of the one being read, latest
first. -/
structure Level where
  alternatives : List Tree := []
  items : List Tree := []

namespace Level

/-- The alternative being read. -/
def current (l : Level) : Tree :=
  .concatOf l.items.reverse

/-- Everything that has been read. -/
def tree (l : Level) : Tree :=
  .altOf (l.current :: l.alternatives).reverse

/-- Adds an item. -/
def push (l : Level) (t : Tree) : Level :=
  { l with items := t :: l.items }

/-- Adds an item that holds others. -/
def pushChecked (l : Level) (t : Tree) : Except PatternError Level :=
  if t.depth ≤ maxDepth then .ok (l.push t) else .error .tooDeep

def nextAlternative (l : Level) : Level :=
  { alternatives := l.current :: l.alternatives }

/-- Replaces the last item by repetitions of it; a directive is no item to repeat. -/
def repeatLast (l : Level) (least : Nat) (most : Option Nat) (isLazy : Bool) :
    Except PatternError Level :=
  match l.items with
  | [] | .directive _ :: _ => .error .nothingToRepeat
  | t :: rest => { l with items := rest }.pushChecked (.times least most isLazy t)

end Level

/-- A group whose end has not been read: its head, whether the pattern around it is verbose, and
what stands before it there. -/
structure OpenGroup where
  head : GroupHead
  verbose : Bool
  before : Level

/-- How far a pattern has been read: whether it is verbose here, the names of groups and the
number of captures so far, the level being read and the groups around it, innermost first. -/
structure Reading where
  verbose : Bool := false
  names : List (List Char) := []
  captures : Nat := 0
  level : Level := {}
  outer : List OpenGroup := []

namespace Reading

def verboseAfter (r : Reading) (change : FlagChange) : Bool :=
  (change.lookup .verbose).getD r.verbose

def enter (r : Reading) (head : GroupHead) (verbose : Bool) : Reading :=
  { r with verbose, level := {}, outer := ⟨head, r.verbose, r.level⟩ :: r.outer }

/-- Takes up what a parenthesis begins. -/
def begin (r : Reading) : Opening → Except PatternError Reading
  | .directive change =>
    .ok { r with verbose := r.verboseAfter change, level := r.level.push (.directive change) }
  | .scope change => .ok (r.enter (.scope change) (r.verboseAfter change))
  | .capture name =>
    if name.any r.names.contains then .error .badGroupName
    else
      let index := r.captures + 1
      .ok ({ r with captures := index, names := name.toList ++ r.names }.enter (.capture index)
        r.verbose)

/-- Ends the innermost group. -/
def close (r : Reading) : Except PatternError Reading :=
  match r.outer with
  | [] => .error .unopenedGroup
  | g :: outer =>
    (g.before.pushChecked (.group g.head r.level.tree)).map fun level =>
      { r with verbose := g.verbose, level, outer }

/-- Continues with another level. -/
def withLevel (r : Reading) (l : Except PatternError Level) (rest : List Char) :
    Except PatternError (AndRest Reading) :=
  l.map fun level => ({ r with level }, rest)

/-- Reads repetitions of the last item. -/
def repetition (r : Reading) (least : Nat) (most : Option Nat) (cs : List Char) :
    Except PatternError (AndRest Reading) :=
  let (isLazy, rest) := readLazy cs
  r.withLevel (r.level.repeatLast least most isLazy) rest

/-- Reads the next part of a pattern, of which something is left. -/
def step (r : Reading) (cs : List Char) : Except PatternError (AndRest Reading) :=
  match cs with
  | '(' :: rest => do
    let (opening, rest) ← readOpening r.verbose rest
    return (← r.begin opening, rest)
  | ')' :: rest => r.close.map (·, rest)
  | '|' :: rest => .ok ({ r with level := r.level.nextAlternative }, rest)
  | '[' :: rest => do
    let ((negated, body), rest) ← readClass r.verbose rest
    r.withLevel (r.level.pushChecked (.bracketed negated body)) rest
  | '*' :: rest => r.repetition 0 none rest
  | '+' :: rest => r.repetition 1 none rest
  | '?' :: rest => r.repetition 0 (some 1) rest
  | '\x7b' :: rest => do
    let ((least, most), rest) ← readCounts r.verbose rest
    r.repetition least most rest
  | cs =>
    (readPrimitive r.verbose cs).map fun (t, rest) => ({ r with level := r.level.push t }, rest)

/-- Reads the rest of a pattern.  Every step takes at least one character, which bounds their
number. -/
def run : Nat → Reading → List Char → Except PatternError Tree
  | 0, _, _ => .error .unclosedGroup
  | fuel + 1, r, cs =>
    match skip r.verbose cs with
    | [] =>
      let t := r.level.tree
      if !r.outer.isEmpty then .error .unclosedGroup
      else if t.depth ≤ maxDepth then .ok t
      else .error .tooDeep
    | cs =>
      match r.step cs with
      | .ok (r, rest) => run fuel r rest
      | .error e => .error e

end Reading

def readTree (text : String) : Except PatternError Tree :=
  Reading.run (text.length + 1) {} text.toList

end Conform.Pattern
