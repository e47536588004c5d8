import Conform.Text.Property

/-!
# Anchors

Conditions on a place in a text: its start and end, the start and end of a line, and the
boundaries of words.
-/

namespace Conform

/-- The characters next to a place in a text. -/
structure Surroundings where
  before : Option Char
  after : Option Char

/-- What the two sides of a place have to be for an anchor of words. -/
inductive WordSide where
  | boundary
  | inside
  | start
  | stop
  | startHalf
  | stopHalf
  deriving DecidableEq

/-- A condition on a place in a text. -/
inductive Anchor where
  | textStart
  | textEnd
  | lineStart
  | lineEnd
  | crlfLineStart
  | crlfLineEnd
  | word (ascii : Bool) (side : WordSide)
  deriving DecidableEq

namespace Anchor

def asciiWord : CharSet :=
  ⟨[(0x30, 0x39), (0x41, 0x5A), (0x5F, 0x5F), (0x61, 0x7A)]⟩

def wordChars (ascii : Bool) : CharSet :=
  if ascii then asciiWord else Text.Property.word

def isWordAt (ascii : Bool) (c : Option Char) : Bool :=
  c.any (wordChars ascii).mem

/-- Whether the condition holds at a place. -/
def holds : Anchor → Surroundings → Bool
  | .textStart, s => s.before.isNone
  | .textEnd, s => s.after.isNone
  | .lineStart, s => s.before.all (· == '\n')
  | .lineEnd, s => s.after.all (· == '\n')
  | .crlfLineStart, s =>
    match s.before with
    | none => true
    | some '\n' => true
    | some '\r' => s.after != some '\n'
    | _ => false
  | .crlfLineEnd, s =>
    match s.after with
    | none => true
    | some '\r' => true
    | some '\n' => s.before != some '\r'
    | _ => false
  | .word ascii side, s =>
    let before := isWordAt ascii s.before
    let after := isWordAt ascii s.after
    match side with
    | .boundary => before != after
    | .inside => before == after
    | .start => !before && after
    | .stop => before && !after
    | .startHalf => !before
    | .stopHalf => !after

end Anchor

end Conform
