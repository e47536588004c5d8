import Conform.Pattern.Anchor

/-!
# Plain expressions

Patterns without flags: literals, sets of characters, anchors, repetitions, captures, sequences and
alternatives.  The functions that build them keep them small: neighbouring literals become one,
alternatives of characters become a set, and what all alternatives begin with stands before them.
-/

namespace Conform

/-- A pattern whose meaning does not hang on flags. -/
inductive Expr where
  | empty
  | literal (cs : List Char)
  /-- Any of the members.  `isAscii` says that the set was written as one of bytes. -/
  | set (isAscii : Bool) (members : CharSet)
  | anchor (a : Anchor)
  | times (least : Nat) (most : Option Nat) (isLazy : Bool) (e : Expr)
  | capture (index : Nat) (e : Expr)
  | concat (es : List Expr)
  | alt (es : List Expr)
  deriving Inhabited

namespace Expr

mutual

/-- Whether two expressions are the same. -/
def same : Expr → Expr → Bool
  | .empty, .empty => true
  | .literal cs, .literal ds => cs == ds
  | .set a s, .set b t => a == b && s == t
  | .anchor a, .anchor b => a == b
  | .times m n l e, .times m' n' l' e' => m == m' && n == n' && l == l' && same e e'
  | .capture i e, .capture j e' => i == j && same e e'
  | .concat es, .concat es' => sameAll es es'
  | .alt es, .alt es' => sameAll es es'
  | _, _ => false

/-- Whether two lists of expressions are the same. -/
def sameAll : List Expr → List Expr → Bool
  | [], [] => true
  | e :: es, e' :: es' => same e e' && sameAll es es'
  | _, _ => false

end

/-! ### What expressions match -/

/-- How many bytes characters take. -/
def byteCount (cs : List Char) : Nat :=
  cs.foldl (fun n c => n + c.utf8Size) 0

mutual

/-- The fewest bytes that a match takes, where there can be a match. -/
def leastBytes? : Expr → Option Nat
  | .empty => some 0
  | .literal cs => some (byteCount cs)
  | .set _ s => s.ranges.head?.map fun r => (Char.ofNat r.1).utf8Size
  | .anchor _ => some 0
  | .times least _ _ e => e.leastBytes?.map (least * ·)
  | .capture _ e => e.leastBytes?
  | .concat es => leastBytesOfAll? es
  | .alt es => leastBytesOfAny? es

/-- The fewest bytes that a match of all of the expressions takes. -/
def leastBytesOfAll? : List Expr → Option Nat
  | [] => some 0
  | e :: es =>
    match e.leastBytes?, leastBytesOfAll? es with
    | some m, some n => some (m + n)
    | _, _ => none

/-- The fewest bytes that a match of any of the expressions takes, where each can match. -/
def leastBytesOfAny? : List Expr → Option Nat
  | [] => none
  | [e] => e.leastBytes?
  | e :: es =>
    match e.leastBytes?, leastBytesOfAny? es with
    | some m, some n => some (min m n)
    | _, _ => none

end

/-- Whether a match takes at least one byte, as far as that can be told. -/
def takesBytes (e : Expr) : Bool :=
  e.leastBytes?.any (0 < ·)

mutual

def isAlwaysEmpty : Expr → Bool
  | .empty => true
  | .literal _ => false
  | .set .. => false
  | .anchor _ => true
  | .times _ most _ e => most.isSome && e.isAlwaysEmpty
  | .capture _ e => e.isAlwaysEmpty
  | .concat es => areAlwaysEmpty es
  | .alt es => areAlwaysEmpty es

/-- Whether every match of each of the expressions is empty. -/
def areAlwaysEmpty : List Expr → Bool
  | [] => true
  | e :: es => e.isAlwaysEmpty && areAlwaysEmpty es

end

mutual

/-- Whether every match has to begin where an anchor holds. -/
def beginsWith (a : Anchor) : Expr → Bool
  | .anchor b => a == b
  | .times least _ _ e => 0 < least && e.beginsWith a
  | .capture _ e => e.beginsWith a
  | .concat es => sequenceBeginsWith a es
  | .alt es => allBeginWith a es
  | _ => false

/-- Whether every match of a sequence has to begin where an anchor holds. -/
def sequenceBeginsWith (a : Anchor) : List Expr → Bool
  | [] => false
  | e :: es => e.beginsWith a || (e.isAlwaysEmpty && sequenceBeginsWith a es)

/-- Whether every match of each of the expressions has to begin where an anchor holds. -/
def allBeginWith (a : Anchor) : List Expr → Bool
  | [] => true
  | e :: es => e.beginsWith a && allBeginWith a es

end

mutual

/-- Whether every match has to end where an anchor holds. -/
def endsWith (a : Anchor) : Expr → Bool
  | .anchor b => a == b
  | .times least _ _ e => 0 < least && e.endsWith a
  | .capture _ e => e.endsWith a
  | .concat es => sequenceEndsWith a es
  | .alt es => allEndWith a es
  | _ => false

/-- Whether every match of a sequence has to end where an anchor holds. -/
def sequenceEndsWith (a : Anchor) : List Expr → Bool
  | [] => false
  | e :: es => sequenceEndsWith a es || (areAlwaysEmpty es && e.endsWith a)

/-- Whether every match of each of the expressions has to end where an anchor holds. -/
def allEndWith (a : Anchor) : List Expr → Bool
  | [] => true
  | e :: es => e.endsWith a && allEndWith a es

end

/-! ### Building expressions -/

/-- The expression that never matches. -/
def fail : Expr := .set true .empty

/-- Any of the members of a set. -/
def ofSet (isAscii : Bool) (s : CharSet) : Expr :=
  if s.isEmpty then fail
  else
    match s.single? with
    | some c => .literal [c]
    | none => .set isAscii s

/-- Repetitions of an expression.  Of empty matches one is as good as many. -/
def repeated (least : Nat) (most : Option Nat) (isLazy : Bool) (e : Expr) : Expr :=
  let (least, most) :=
    if e.isAlwaysEmpty then (min least 1, some (min (most.getD 1) 1)) else (least, most)
  if most = some 0 then .empty
  else if least = 1 ∧ most = some 1 then e
  else .times least most isLazy e

/-- Puts an expression before a sequence, where neighbouring literals become one. -/
def before (e : Expr) (es : List Expr) : List Expr :=
  match e, es with
  | .empty, es => es
  | .literal cs, .literal ds :: es => .literal (cs ++ ds) :: es
  | e, es => e :: es

/-- The parts of an expression as a sequence. -/
def parts : Expr → List Expr
  | .concat es => es
  | e => [e]

def sequence (es : List Expr) : Expr :=
  match (es.flatMap parts).foldr before [] with
  | [] => .empty
  | [e] => e
  | es => .concat es

/-- The characters of expressions that are each a single character. -/
def singles? : List Expr → Option (List Nat)
  | [] => some []
  | .literal [c] :: es => (singles? es).map (c.toNat :: ·)
  | _ => none

/-- The members of expressions that are each a set. -/
def sets? : List Expr → Option (List CharSet)
  | [] => some []
  | .set _ s :: es => (sets? es).map (s :: ·)
  | _ => none

/-- What two sequences begin with alike. -/
def commonStart : List Expr → List Expr → List Expr
  | e :: es, e' :: es' => if same e e' then e :: commonStart es es' else []
  | _, _ => []

/-- What some sequences begin with alike. -/
def sharedStart : List (List Expr) → List Expr
  | [] => []
  | es :: rest => rest.foldl commonStart es

/-- The parts of expressions that are each a sequence. -/
def sequences? : List Expr → Option (List (List Expr))
  | [] => some []
  | .concat es :: rest => (sequences? rest).map (es :: ·)
  | _ => none

def alternatives : Expr → List Expr
  | .alt es => es
  | e => [e]

/-- Any of some expressions.  What all of them begin with stands before them; each time that is
so, they get shorter, which bounds how often it can be. -/
def anyOfWithin : Nat → List Expr → Expr
  | fuel, es =>
    match es.flatMap alternatives with
    | [] => fail
    | [e] => e
    | es =>
      match singles? es, sets? es, (sequences? es).map (fun ess => (sharedStart ess, ess)) with
      | some ns, _, _ => ofSet false (.ofRanges (ns.map fun n => (n, n)))
      | none, some ss, _ => ofSet false (.unionOf ss)
      | none, none, some (e :: start, ess) =>
        match fuel with
        | 0 => .alt es
        | fuel + 1 =>
          let tails := ess.map fun es => sequence (es.drop (start.length + 1))
          sequence ((e :: start) ++ [anyOfWithin fuel tails])
      | none, none, _ => .alt es

/-- How many parts the longest of some expressions has. -/
def longest (es : List Expr) : Nat :=
  es.foldl (fun n e => max n e.parts.length) 0

def anyOf (es : List Expr) : Expr :=
  anyOfWithin (longest (es.flatMap alternatives) + 1) es

end Expr

end Conform
