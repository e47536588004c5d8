import Conform.Pattern.Error
import Conform.Pattern.Expr
import Conform.Pattern.Utf8
import Std.Data.HashMap

/-!
# The size of a pattern

A pattern is matched by an automaton over the bytes of a text, and by another one that runs from
the end of a text to its start.  Neither may grow beyond a limit.  This module lays the automata
out state by state and counts what they take: so much for each state, for each range of bytes of
a state that has several, and for each branch.
-/

namespace Conform.Pattern.Automaton

open Utf8

/-- Which way an automaton reads, and whether it notes where captures begin and end. -/
structure Plan where
  isBackward : Bool
  hasCaptures : Bool

/-- How much of an automaton there is so far. -/
structure Count where
  states : Nat := 0
  edges : Nat := 0
  branches : Nat := 0

/-- What an automaton may take. -/
def limit : Nat := 10 * 1024 * 1024

namespace Count

def size (c : Count) : Nat :=
  32 * c.states + 8 * c.edges + 4 * c.branches

/-- Adds to an automaton, within the limit. -/
def grow (c : Count) (states edges branches : Nat) : Except PatternError Count :=
  let c := ⟨c.states + states, c.edges + edges, c.branches + branches⟩
  if c.size ≤ limit then .ok c else .error .tooLarge

end Count

/-- A part of an automaton: the states where it begins and ends, and whether the last one branches,
so that each state that follows it is one more branch. -/
structure Piece where
  first : Nat
  last : Nat
  branches : Bool := false

abbrev Build := Except PatternError (Piece × Count)

namespace Count

def addState (c : Count) : Build :=
  (c.grow 1 0 0).map fun c' => (⟨c.states, c.states, false⟩, c')

/-- Adds so many states that follow one another, at least one. -/
def addChain (c : Count) (length : Nat) : Build :=
  (c.grow length 0 0).map fun c' => (⟨c.states, c.states + length - 1, false⟩, c')

/-- Lets a state follow a piece. -/
def follow (c : Count) (p : Piece) : Except PatternError Count :=
  if p.branches then c.grow 0 0 1 else .ok c

/-- Adds a state that reads any byte of some ranges, and the state after it. -/
def addBytes (c : Count) (ranges : Nat) : Build :=
  (c.grow 2 ranges 0).map fun c' => (⟨c.states + 1, c.states, false⟩, c')

end Count

/-! ### Sets of characters -/

/-- Mixes a number into the place where a cache keeps something. -/
def mix (h : UInt64) (n : Nat) : UInt64 :=
  (h ^^^ n.toUInt64) * 1099511628211

def mixStart : UInt64 := 14695981039346656037

/-- A state that reads a byte: ranges of bytes, with the state that follows each. -/
abbrev Node := List (ByteRange × Nat)

/-- The states of a set of characters that reads forward.  States with the same ranges and
followers are shared while a cache of `slots` places remembers them.  `path` holds the states of
the sequence read last that may still grow, outermost first: the ranges that are complete, latest
first, and the range at the end. -/
structure Trie where
  count : Count
  target : Nat
  cache : Std.HashMap UInt64 (Node × Nat) := ∅
  path : List (Node × Option ByteRange) := [([], none)]

namespace Trie

/-- How many states the cache remembers. -/
def slots : UInt64 := 10000

/-- The state with the given ranges and followers, and the trie with it. -/
def state (t : Trie) (node : Node) : Except PatternError (Nat × Trie) :=
  let slot := (node.foldl (fun h e => mix (mix (mix h e.1.1) e.1.2) e.2) mixStart) % slots
  let known := (t.cache[slot]?).filter fun e => e.1 == node
  match known with
  | some e => .ok (e.2, t)
  | none =>
    (t.count.grow 1 node.length 0).map fun count =>
      (t.count.states, { t with count, cache := t.cache.insert slot (node, t.count.states) })

/-- A state of the path whose last range leads to a given state. -/
def freeze (next : Nat) : Node × Option ByteRange → Node
  | (node, some r) => (r, next) :: node
  | (node, none) => node

/-- Completes the states of the path beyond the first `keep + 1`, innermost first, where `path` is
the path from its end; gives what the last kept state leads to. -/
def complete (t : Trie) (next : Nat) : List (Node × Option ByteRange) →
    Except PatternError (Nat × Trie)
  | [] => .ok (next, t)
  | p :: rest =>
    match t.state (freeze next p).reverse with
    | .ok (next, t) => complete t next rest
    | .error e => .error e

/-- Completes all states of the path beyond the first `keep + 1`. -/
def completeFrom (t : Trie) (keep : Nat) : Except PatternError Trie :=
  let kept := t.path.take (keep + 1)
  (t.complete t.target (t.path.drop (keep + 1)).reverse).map fun (next, t) =>
    let last := kept.getLast?.toList.map fun p => (freeze next p, none)
    { t with path := kept.dropLast ++ last }

/-- How many ranges of a sequence the path begins with. -/
def sharedLength : List ByteRange → List (Node × Option ByteRange) → Nat
  | r :: rs, (_, some s) :: path => if r = s then sharedLength rs path + 1 else 0
  | _, _ => 0

/-- Adds a sequence, which comes after those before it. -/
def add (t : Trie) (ranges : List ByteRange) : Except PatternError Trie :=
  let keep := sharedLength ranges t.path
  (t.completeFrom keep).map fun t =>
    match ranges.drop keep with
    | [] => t
    | r :: rs =>
      let grown := t.path.getLast?.toList.map fun p => (p.1, some r)
      { t with path := t.path.dropLast ++ grown ++ rs.map (fun r => ([], some r)) }

def addAll (t : Trie) : List (List ByteRange) → Except PatternError Trie
  | [] => .ok t
  | s :: rest =>
    match t.add s with
    | .ok t => addAll t rest
    | .error e => .error e

end Trie

/-- Adds the states that read a set of characters forward. -/
def addSetForward (s : CharSet) (c : Count) : Build := do
  let (target, c) ← c.addState
  let t ← (Trie.mk c target.first ∅ [([], none)]).addAll (sequencesOf s)
  let t ← t.completeFrom 0
  let (first, t) ← t.state ((t.path.head?.map Prod.fst).getD []).reverse
  return (⟨first, target.first, false⟩, t.count)

/-- The states of a set of characters that reads backward: each sequence begins at its last byte.
States for the same range with the same follower are shared while a cache remembers them. -/
structure Fan where
  count : Count
  cache : Std.HashMap UInt64 ((Nat × ByteRange) × Nat) := ∅

namespace Fan

/-- How many states the cache remembers. -/
def slots : UInt64 := 1000

/-- Adds the states of a sequence that leads to a given state; gives the one where it begins. -/
def add (f : Fan) (last : Nat) : List ByteRange → Except PatternError (Nat × Fan)
  | [] => .ok (last, f)
  | r :: rest =>
    let slot := mix (mix (mix mixStart last) r.1) r.2 % slots
    match (f.cache[slot]?).filter fun e => e.1 == (last, r) with
    | some e => add f e.2 rest
    | none =>
      match f.count.grow 1 0 0 with
      | .ok count =>
        let id := f.count.states
        add { count, cache := f.cache.insert slot ((last, r), id) } id rest
      | .error e => .error e

/-- Adds sequences, each of them a branch. -/
def addAll (f : Fan) (last : Nat) : List (List ByteRange) → Except PatternError Fan
  | [] => .ok f
  | s :: rest =>
    match f.add last s with
    | .ok (_, f) =>
      match f.count.grow 0 0 1 with
      | .ok count => addAll { f with count } last rest
      | .error e => .error e
    | .error e => .error e

end Fan

/-- Adds the states that read a set of characters backward. -/
def addSetBackward (s : CharSet) (c : Count) : Build := do
  let (fan, c) ← c.addState
  let (target, c) ← c.addState
  let f ← (Fan.mk c ∅).addAll target.first (sequencesOf s)
  return (⟨fan.first, target.first, false⟩, f.count)

def addSet (plan : Plan) (s : CharSet) (c : Count) : Build :=
  if s.isAscii then c.addBytes s.ranges.length
  else if plan.isBackward then addSetBackward s c
  else addSetForward s c

/-! ### Alternatives that are all literals -/

/-- Literals by what they begin with, in the order of preference: the bytes that lead on, in
groups between which a literal ends.  A literal that ends hides none that come before it. -/
inductive LiteralTree where
  | node (ended : List (List (Nat × LiteralTree))) (current : List (Nat × LiteralTree))

namespace LiteralTree

def empty : LiteralTree := .node [] []

def insert : List Nat → LiteralTree → LiteralTree
  | [], .node ended current =>
    if ended.all List.isEmpty && !ended.isEmpty && current.isEmpty then .node ended current
    else .node (current :: ended) []
  | b :: bs, .node ended current =>
    match current.lookup b with
    | some t =>
      .node ended (current.map fun e => if e.1 = b then (b, insert bs t) else e)
    | none => .node ended (current ++ [(b, insert bs empty)])

mutual

/-- The states, ranges and branches that the tree takes.  Where nothing follows a literal, the
common end serves. -/
def count : LiteralTree → Count
  | .node ended current =>
    let c := countGroups ended
    let d := countGroup current
    let own : Count :=
      { states := 1, branches := (if current.isEmpty then 0 else 1) + ended.length }
    if ended.all List.isEmpty && current.isEmpty then {}
    else
      { states := own.states + c.states + d.states
        edges := c.edges + d.edges
        branches := own.branches + c.branches + d.branches }

/-- What the groups between which a literal ends take. -/
def countGroups : List (List (Nat × LiteralTree)) → Count
  | [] => {}
  | g :: gs =>
    let c := countGroup g
    let d := countGroups gs
    { states := c.states + d.states
      edges := c.edges + d.edges
      branches := c.branches + d.branches + if g.isEmpty then 0 else 1 }

/-- What a group of bytes takes: a state of its own, whose ranges count where it has several, and
what follows them. -/
def countGroup : List (Nat × LiteralTree) → Count
  | [] => {}
  | es =>
    let c := countFollowing es
    { c with
      states := c.states + 1
      edges := c.edges + if es.length = 1 then 0 else es.length }

/-- What follows the bytes of a group. -/
def countFollowing : List (Nat × LiteralTree) → Count
  | [] => {}
  | (_, t) :: es =>
    let c := t.count
    let d := countFollowing es
    { states := c.states + d.states
      edges := c.edges + d.edges
      branches := c.branches + d.branches }

end

end LiteralTree

/-- The literals of alternatives that are all literals. -/
def literals? : List Expr → Option (List (List Char))
  | [] => some []
  | .literal cs :: es => (literals? es).map (cs :: ·)
  | _ => none

def addLiterals (plan : Plan) (ls : List (List Char)) (c : Count) : Build := do
  let (target, c) ← c.addState
  let tree := ls.foldl (fun t l =>
    let bytes := l.flatMap fun ch => encode ch.toNat
    t.insert (if plan.isBackward then bytes.reverse else bytes)) LiteralTree.empty
  let n := tree.count
  let c ← c.grow n.states n.edges n.branches
  return (⟨c.states - 1, target.first, false⟩, c)

/-! ### Expressions -/

/-- Adds so many copies of a part, each after the one before it. -/
def addCopies (part : Count → Build) : Nat → Piece → Count → Build
  | 0, p, c => .ok (p, c)
  | n + 1, p, c =>
    match part c with
    | .error e => .error e
    | .ok (q, c) =>
      match c.follow p with
      | .error e => .error e
      | .ok c => addCopies part n ⟨p.first, q.last, q.branches⟩ c

/-- Adds exactly so many copies of a part. -/
def addExactly (part : Count → Build) (n : Nat) (c : Count) : Build := do
  match n with
  | 0 => c.addState
  | n + 1 =>
    let (p, c) ← part c
    addCopies part n p c

/-- Adds up to so many more copies of a part after a piece; each begins with a branch that leads
to the end instead. -/
def addOptional (part : Count → Build) : Nat → Piece → Count → Build
  | 0, p, c => .ok (p, c)
  | n + 1, p, c =>
    match c.grow 1 0 0 with
    | .error e => .error e
    | .ok c =>
      match part c with
      | .error e => .error e
      | .ok (q, c) =>
        match (c.follow p).bind (·.grow 0 0 2) with
        | .error e => .error e
        | .ok c => addOptional part n ⟨p.first, q.last, q.branches⟩ c

/-- Adds any number of copies of a part, at least so many. -/
def addAtLeast (part : Count → Build) (least : Nat) (takesBytes : Bool) (c : Count) : Build := do
  match least with
  | 0 =>
    if takesBytes then
      let (fork, c) ← c.addState
      let (p, c) ← part c
      let c ← (← c.follow p).grow 0 0 1
      return (⟨fork.first, fork.first, true⟩, c)
    else
      let (p, c) ← part c
      let c ← c.follow p
      let (_, c) ← c.addState
      let (fork, c) ← c.addState
      let (stop, c) ← c.addState
      let c ← c.grow 0 0 4
      return (⟨fork.first, stop.first, false⟩, c)
  | 1 =>
    let (p, c) ← part c
    let (fork, c) ← c.addState
    let c ← (← c.follow p).grow 0 0 1
    return (⟨p.first, fork.first, true⟩, c)
  | least =>
    let (start, c) ← addExactly part (least - 1) c
    let (p, c) ← part c
    let (fork, c) ← c.addState
    let c ← c.follow start
    let c ← (← c.follow p).grow 0 0 1
    return (⟨start.first, fork.first, true⟩, c)

def addTimes (part : Count → Build) (least : Nat) (most : Option Nat) (takesBytes : Bool)
    (c : Count) : Build := do
  match most with
  | none => addAtLeast part least takesBytes c
  | some most =>
    if least = 0 ∧ most = 1 then
      let (fork, c) ← c.addState
      let (p, c) ← part c
      let (stop, c) ← c.addState
      let c ← (← c.follow p).grow 0 0 2
      return (⟨fork.first, stop.first, false⟩, c)
    else if least = most then addExactly part least c
    else
      let (start, c) ← addExactly part least c
      let (stop, c) ← c.addState
      let (p, c) ← addOptional part (most - least) start c
      return (⟨start.first, stop.first, false⟩, ← c.follow p)

mutual

/-- Adds the states of an expression. -/
def addExpr (plan : Plan) : Expr → Count → Build
  | .empty, c => c.addState
  | .literal cs, c => c.addChain (Expr.byteCount cs)
  | .set isAscii s, c => if isAscii then c.addBytes s.ranges.length else addSet plan s c
  | .anchor _, c => c.addState
  | .times least most _ e, c => addTimes (addExpr plan e) least most e.takesBytes c
  | .capture _ e, c => do
    if plan.hasCaptures then
      let (start, c) ← c.addState
      let (p, c) ← addExpr plan e c
      let (stop, c) ← c.addState
      return (⟨start.first, stop.first, false⟩, ← c.follow p)
    else addExpr plan e c
  | .concat es, c => if plan.isBackward then addBackward plan es c else addForward plan none es c
  | .alt es, c =>
    match literals? es with
    | some ls => addLiterals plan ls c
    | none => addFirst plan es c

/-- Adds a sequence from its start, after a piece where there is one. -/
def addForward (plan : Plan) (before : Option Piece) : List Expr → Count → Build
  | [], c =>
    match before with
    | some p => .ok (p, c)
    | none => c.addState
  | e :: es, c =>
    match addExpr plan e c with
    | .error err => .error err
    | .ok (q, c) =>
      match before with
      | none => addForward plan (some q) es c
      | some p =>
        match c.follow p with
        | .error err => .error err
        | .ok c => addForward plan (some ⟨p.first, q.last, q.branches⟩) es c

/-- Adds a sequence from its end. -/
def addBackward (plan : Plan) : List Expr → Count → Build
  | [], c => c.addState
  | [e], c => addExpr plan e c
  | e :: es, c => do
    let (p, c) ← addBackward plan es c
    let (q, c) ← addExpr plan e c
    return (⟨p.first, q.last, q.branches⟩, ← c.follow p)

/-- Adds alternatives, of which there are at least two.  The state that leads to them and their
common end come after the first two. -/
def addFirst (plan : Plan) : List Expr → Count → Build
  | [], c => c.addState
  | [e], c => addExpr plan e c
  | e :: e' :: es, c => do
    let (p, c) ← addExpr plan e c
    let (q, c) ← addExpr plan e' c
    let (fork, c) ← c.addState
    let (stop, c) ← c.addState
    let c ← (← (← c.follow p).follow q).grow 0 0 2
    let c ← addOthers plan es c
    return (⟨fork.first, stop.first, false⟩, c)

/-- Adds the alternatives after the first two. -/
def addOthers (plan : Plan) : List Expr → Count → Except PatternError Count
  | [], c => .ok c
  | e :: es, c =>
    match addExpr plan e c with
    | .error err => .error err
    | .ok (p, c) =>
      match (c.follow p).bind (·.grow 0 0 1) with
      | .error err => .error err
      | .ok c => addOthers plan es c

end

/-- Lays a whole automaton out.  One that may begin anywhere starts with a state that skips bytes:
a fork, the state it leads to and the end of that one.  One that has to begin at the edge of the
text has a single state there. -/
def layOut (plan : Plan) (e : Expr) : Except PatternError Count := do
  let isBound := if plan.isBackward then e.endsWith .textEnd else e.beginsWith .textStart
  let c ← if isBound then Count.grow {} 1 0 0 else Count.grow {} 3 1 2
  let (p, c) ← addExpr plan (.capture 0 e) c
  (← c.follow p).grow 1 0 0

/-- How many literals are a choice that needs no automaton. -/
def manyLiterals : Nat := 3000

/-- Whether an expression is a choice among so many literals that no automaton is used. -/
def isManyLiterals : Expr → Bool
  | .alt es => manyLiterals ≤ es.length && (literals? es).isSome
  | _ => false

/-- Refuses an expression whose automata grow beyond the limit. -/
def check (e : Expr) : Except PatternError Unit := do
  if !isManyLiterals e then
    let _ ← layOut ⟨false, true⟩ e
    let _ ← layOut ⟨true, false⟩ e

end Conform.Pattern.Automaton
