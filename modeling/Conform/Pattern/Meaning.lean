import Conform.Pattern.Expr
import Conform.Pattern.NamedClass
import Conform.Text.CaseFolding

/-!
# What patterns mean

A pattern as written becomes a plain expression under the flags that hold at each place.  Where
patterns are not about Unicode, sets hold ASCII characters alone; a set that would hold other bytes
is refused, since it could match what is not text.
-/

namespace Conform.Pattern

open Text

/-- The flags that hold at a place of a pattern. -/
structure Flags where
  caseless : Bool := false
  multiLine : Bool := false
  dotAll : Bool := false
  swapGreed : Bool := false
  crlf : Bool := false
  unicode : Bool := true

namespace Flags

/-- The flags with one of them set or cleared.  Whether a pattern is verbose matters to its reader
alone. -/
def assign (flags : Flags) (f : Flag) (on : Bool) : Flags :=
  match f with
  | .caseless => { flags with caseless := on }
  | .multiLine => { flags with multiLine := on }
  | .dotAll => { flags with dotAll := on }
  | .swapGreed => { flags with swapGreed := on }
  | .crlf => { flags with crlf := on }
  | .unicode => { flags with unicode := on }
  | .verbose => flags

def after (flags : Flags) (change : FlagChange) : Flags :=
  change.foldl (fun flags c => flags.assign c.1 c.2) flags

/-- A set under the flags, without the difference of upper and lower case where there is none. -/
def fold (flags : Flags) (s : CharSet) : CharSet :=
  if !flags.caseless then s
  else if flags.unicode then s.closeCase
  else s.closeAsciiCase

/-- A set under the flags or, where it is negated, all other characters. -/
def negate (flags : Flags) (negated : Bool) (s : CharSet) : Except PatternError CharSet :=
  if negated && !flags.unicode then .error .notText else .ok (s.negateIf negated)

end Flags

def NamedClass.members (flags : Flags) (negated : Bool) : NamedClass →
    Except PatternError CharSet
  | .shorthand kind => flags.negate negated (kind.members !flags.unicode)
  | .property name =>
    if !flags.unicode then .error .notText
    else
      match name.members? with
      | some s => .ok ((flags.fold s).negateIf negated)
      | none => .error .unknownProperty

/-- A character in a class.  Where patterns are not about Unicode, classes hold bytes. -/
def Literal.inClass (flags : Flags) (l : Literal) : Except PatternError Char :=
  if !flags.unicode && l.char.toNat ≥ 0x80 then .error .notText else .ok l.char

/-- The sets that an operation makes of two others. -/
def SetOp.apply (o : SetOp) (s t : CharSet) : CharSet :=
  match o with
  | .inter => s.inter t
  | .diff => s.diff t
  | .symmDiff => s.symmDiff t

namespace ClassTree

mutual

/-- The characters of what stands in brackets. -/
def members (flags : Flags) : ClassTree → Except PatternError CharSet
  | .empty => .ok .empty
  | .literal l => (l.inClass flags).map .single
  | .range a b => do return .range (← a.inClass flags) (← b.inClass flags)
  | .posix negated name => flags.negate negated (flags.fold (posixMembers name))
  | .named negated c => c.members flags negated
  | .bracketed negated body => do flags.negate negated (flags.fold (← body.members flags))
  | .union items => do return .unionOf (← membersOfAll flags items)
  | .op o left right => do
    return o.apply (flags.fold (← left.members flags)) (flags.fold (← right.members flags))

def membersOfAll (flags : Flags) : List ClassTree → Except PatternError (List CharSet)
  | [] => .ok []
  | c :: cs => do return (← c.members flags) :: (← membersOfAll flags cs)

end

end ClassTree

/-- The expression of a single character. -/
def Literal.toExpr (flags : Flags) (l : Literal) : Except PatternError Expr :=
  if !flags.unicode && l.isByte && l.char.toNat ≥ 0x80 then .error .notText
  else
    let s := flags.fold (.single l.char)
    match s.single? with
    | some _ => .ok (.literal [l.char])
    | none => .ok (.ofSet (!flags.unicode) s)

def dotMembers (flags : Flags) : CharSet :=
  if flags.dotAll then .all
  else if flags.crlf then (CharSet.ofRanges [(0x0A, 0x0A), (0x0D, 0x0D)]).complement
  else (CharSet.single '\n').complement

def Sign.toAnchor (flags : Flags) : Sign → Anchor
  | .lineStart =>
    if flags.multiLine then (if flags.crlf then .crlfLineStart else .lineStart) else .textStart
  | .lineEnd =>
    if flags.multiLine then (if flags.crlf then .crlfLineEnd else .lineEnd) else .textEnd
  | .textStart => .textStart
  | .textEnd => .textEnd
  | .word side => .word (!flags.unicode) side

namespace Tree

mutual

/-- The expression of a pattern, and the flags that hold after it. -/
def toExpr (flags : Flags) : Tree → Except PatternError (Expr × Flags)
  | .empty => .ok (.empty, flags)
  | .directive change => .ok (.empty, flags.after change)
  | .literal l => (l.toExpr flags).map (·, flags)
  | .dot =>
    if flags.unicode then .ok (.ofSet false (dotMembers flags), flags) else .error .notText
  | .named negated c =>
    (c.members flags negated).map fun s => (.ofSet (!flags.unicode) s, flags)
  | .sign s => .ok (.anchor (s.toAnchor flags), flags)
  | .bracketed negated body => do
    let s ← flags.negate negated (flags.fold (← body.members flags))
    return (.ofSet (!flags.unicode) s, flags)
  | .times least most isLazy t => do
    let (e, after) ← t.toExpr flags
    return (.repeated least most (isLazy != after.swapGreed) e, after)
  | .group (.capture index) t => do
    let (e, _) ← t.toExpr flags
    return (.capture index e, flags)
  | .group (.scope change) t => do
    let (e, _) ← t.toExpr (flags.after change)
    return (e, flags)
  | .concat ts => (exprsOf flags [] ts).map fun (es, flags) => (.sequence es.reverse, flags)
  | .alt ts => (exprsOf flags [] ts).map fun (es, flags) => (.anyOf es.reverse, flags)

/-- The expressions of patterns that follow one another, latest first, and the flags after them;
`es` are those before them. -/
def exprsOf (flags : Flags) (es : List Expr) : List Tree →
    Except PatternError (List Expr × Flags)
  | [] => .ok (es, flags)
  | t :: ts =>
    match t.toExpr flags with
    | .ok (e, flags) => exprsOf flags (e :: es) ts
    | .error err => .error err

end

end Tree

end Conform.Pattern
