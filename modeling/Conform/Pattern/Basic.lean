import Conform.Pattern.Automaton
import Conform.Pattern.Expr
import Conform.Pattern.Meaning
import Conform.Pattern.Reader

/-!
# Patterns

A pattern is read from a text, which may fail, and then says of any text whether a match lies in
it.  The matcher reads a text once.  It keeps the places where a match may stand as marks on the
leaves of the expression: a leaf is live when the character read last was matched by it.
-/

namespace Conform

/-- A regular expression.  A leaf is live when the character read last was matched by it; an
expression as written has no live leaf. -/
inductive Regex where
  | empty
  | leaf (live : Bool) (members : CharSet)
  | anchor (a : Anchor)
  | seq (r s : Regex)
  | alt (r s : Regex)
  | star (r : Regex)
  deriving Inhabited

namespace Regex

/-! ### Building -/

/-- Combines neighbours two by two. -/
def joinPairs (f : Regex → Regex → Regex) : List Regex → List Regex
  | r :: s :: rest => f r s :: joinPairs f rest
  | rs => rs

theorem length_joinPairs (f : Regex → Regex → Regex) (rs : List Regex) :
    (joinPairs f rs).length ≤ rs.length := by
  fun_induction joinPairs f rs with
  | case1 r s rest ih => simp only [List.length_cons]; omega
  | case2 rs => exact Nat.le_refl _

/-- Combines expressions in order, so that none lies deep. -/
def combine (f : Regex → Regex → Regex) : List Regex → Regex
  | [] => .empty
  | [r] => r
  | r :: s :: rest => combine f (f r s :: joinPairs f rest)
termination_by rs => rs.length
decreasing_by
  have := length_joinPairs f rest
  simp only [List.length_cons]
  omega

/-- So many copies of an expression, one after the other. -/
def power (r : Regex) (n : Nat) : Regex :=
  if n = 0 then .empty
  else if n = 1 then r
  else
    let half := power r (n / 2)
    if n % 2 = 0 then .seq half half else .seq (.seq half half) r
termination_by n
decreasing_by omega

/-- From `least` to `most` repetitions; without `most`, any number from `least` on. -/
def times (r : Regex) (least : Nat) (most : Option Nat) : Regex :=
  match most with
  | some most =>
    if least = most then power r least
    else .seq (power r least) (power (.alt r .empty) (most - least))
  | none => if least = 0 then .star r else .seq (power r (least - 1)) (.seq r (.star r))

mutual

/-- The regular expression of an expression. -/
def ofExpr : Expr → Regex
  | .empty => .empty
  | .literal cs => combine .seq (cs.map fun c => .leaf false (.single c))
  | .set _ s => .leaf false s
  | .anchor a => .anchor a
  | .times least most _ e => (ofExpr e).times least most
  | .capture _ e => ofExpr e
  | .concat es => combine .seq (ofExprs es)
  | .alt es => combine .alt (ofExprs es)

/-- The regular expressions of some expressions. -/
def ofExprs : List Expr → List Regex
  | [] => []
  | e :: es => ofExpr e :: ofExprs es

end

/-! ### Reading a text -/

/-- Whether the expression matches nothing at all at a place. -/
def nullable (s : Surroundings) : Regex → Bool
  | .empty => true
  | .leaf .. => false
  | .anchor a => a.holds s
  | .seq q r => q.nullable s && r.nullable s
  | .alt q r => q.nullable s || r.nullable s
  | .star _ => true

/-- Whether a match that stands at a live leaf is complete at a place. -/
def final (s : Surroundings) : Regex → Bool
  | .empty => false
  | .leaf live _ => live
  | .anchor _ => false
  | .seq q r => r.final s || (q.final s && r.nullable s)
  | .alt q r => q.final s || r.final s
  | .star r => r.final s

/-- Reads a character at a place.  `entering` says that a match may begin here. -/
def step (s : Surroundings) (c : Char) (entering : Bool) : Regex → Regex
  | .empty => .empty
  | .leaf _ members => .leaf (entering && members.mem c) members
  | .anchor a => .anchor a
  | .seq q r =>
    .seq (q.step s c entering) (r.step s c ((entering && q.nullable s) || q.final s))
  | .alt q r => .alt (q.step s c entering) (r.step s c entering)
  | .star r => .star (r.step s c (entering || r.final s))

/-- Whether a match begins or ends at a place: an empty one, or one at a live leaf. -/
def acceptsAt (s : Surroundings) (r : Regex) : Bool :=
  r.nullable s || r.final s

/-- Whether a match lies in the rest of a text after the character `before`. -/
def matchesFrom (r : Regex) (before : Option Char) : List Char → Bool
  | [] => r.acceptsAt ⟨before, none⟩
  | c :: rest =>
    let s : Surroundings := ⟨before, some c⟩
    r.acceptsAt s || matchesFrom (r.step s c true) (some c) rest

/-- Whether a match lies anywhere in a text. -/
def isMatch (r : Regex) (text : List Char) : Bool :=
  r.matchesFrom none text

end Regex

/-- A regular expression together with the text it was read from. -/
structure Pattern where
  source : String
  regex : Regex

namespace Pattern

def ofText (source : String) : Except PatternError Pattern := do
  let tree ← readTree source
  let (e, _) ← tree.toExpr {}
  Automaton.check e
  return { source, regex := .ofExpr e }

def isMatch (p : Pattern) (text : String) : Bool :=
  p.regex.isMatch text.toList

end Pattern

end Conform
