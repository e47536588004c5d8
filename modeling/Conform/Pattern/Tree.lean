import Conform.Pattern.Anchor

/-!
# Patterns as written

The tree of a pattern before flags give it a meaning: literals, classes, anchors, groups,
alternatives and repetitions, and how deep they nest.
-/

namespace Conform.Pattern

/-- A flag that a pattern can set for a part of itself. -/
inductive Flag where
  | caseless
  | multiLine
  | dotAll
  | swapGreed
  | unicode
  | crlf
  | verbose
  deriving DecidableEq

abbrev FlagChange := List (Flag × Bool)

/-- A character as a pattern writes it.  Two hexadecimal digits after `\x` write a byte where
patterns are not about Unicode. -/
structure Literal where
  char : Char
  isByte : Bool := false
  deriving DecidableEq

/-- The classes that a letter after a backslash stands for. -/
inductive Shorthand where
  | digit
  | blank
  | word
  deriving DecidableEq

/-- The name of a property of characters: a name alone, or a property and a value. -/
inductive PropertyName where
  | alone (name : String)
  | valued (name value : String)
  deriving DecidableEq

/-- A class of characters with a name. -/
inductive NamedClass where
  | property (name : PropertyName)
  | shorthand (kind : Shorthand)
  deriving DecidableEq

/-- A condition on a place, as written. -/
inductive Sign where
  | lineStart
  | lineEnd
  | textStart
  | textEnd
  | word (side : WordSide)
  deriving DecidableEq

/-- The operations on sets in a class. -/
inductive SetOp where
  | inter
  | diff
  | symmDiff
  deriving DecidableEq

/-- What stands between the brackets of a class. -/
inductive ClassTree where
  | empty
  | literal (l : Literal)
  | range (first last : Literal)
  | posix (negated : Bool) (name : String)
  | named (negated : Bool) (c : NamedClass)
  | bracketed (negated : Bool) (body : ClassTree)
  | union (items : List ClassTree)
  | op (o : SetOp) (left right : ClassTree)

/-- The head of a group: the number of its capture, or the flags inside. -/
inductive GroupHead where
  | capture (index : Nat)
  | scope (change : FlagChange)

/-- A pattern as written. -/
inductive Tree where
  | empty
  | directive (change : FlagChange)
  | literal (l : Literal)
  | dot
  | named (negated : Bool) (c : NamedClass)
  | sign (s : Sign)
  | bracketed (negated : Bool) (body : ClassTree)
  | times (least : Nat) (most : Option Nat) (isLazy : Bool) (t : Tree)
  | group (head : GroupHead) (t : Tree)
  | concat (ts : List Tree)
  | alt (ts : List Tree)

/-- How deep patterns may nest. -/
def maxDepth : Nat := 250

namespace ClassTree

mutual

/-- How deep brackets, unions and operations nest. -/
def depth : ClassTree → Nat
  | .bracketed _ body => body.depth + 1
  | .union items => depthOfAll items + 1
  | .op _ left right => max left.depth right.depth + 1
  | _ => 0

/-- How deep the deepest of some classes nests. -/
def depthOfAll : List ClassTree → Nat
  | [] => 0
  | c :: cs => max c.depth (depthOfAll cs)

end

/-- Any of the items. -/
def unionOf : List ClassTree → ClassTree
  | [] => .empty
  | [c] => c
  | cs => .union cs

end ClassTree

namespace Tree

mutual

/-- How deep groups, classes, repetitions, alternatives and sequences nest. -/
def depth : Tree → Nat
  | .bracketed _ body => body.depth + 1
  | .times _ _ _ t => t.depth + 1
  | .group _ t => t.depth + 1
  | .concat ts => depthOfAll ts + 1
  | .alt ts => depthOfAll ts + 1
  | _ => 0

/-- How deep the deepest of some patterns nests. -/
def depthOfAll : List Tree → Nat
  | [] => 0
  | t :: ts => max t.depth (depthOfAll ts)

end

/-- The patterns one after the other. -/
def concatOf : List Tree → Tree
  | [] => .empty
  | [t] => t
  | ts => .concat ts

def altOf : List Tree → Tree
  | [] => .empty
  | [t] => t
  | ts => .alt ts

end Tree

end Conform.Pattern
