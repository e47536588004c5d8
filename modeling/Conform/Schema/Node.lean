import Conform.Kind
import Conform.Pattern.Basic
import Conform.Schema.Visit

/-!
# Nodes

What a schema says about one place: the traits, which are plain data, the hooks, which are functions
of the state of a visit, and the children and options, over the type `σ` of the schemas in them.
-/

namespace Conform

/-- The plain data of a node. -/
structure Traits where
  kind : Kind
  format : Option String := none
  required : Bool := true
  nullable : Bool := false
  strict : Bool := false
  /-- Data attached under names, such as bounds. -/
  extra : Fields Json := []

/-- The value that stands in for an undefined one. -/
inductive Default where
  | literal (v : Json)
  | computed (f : Visit → Json)

def Default.resolve : Default → Visit → Json
  | .literal v, _ => v
  | .computed f, visit => f visit

/-- A check of a node: a pattern for its text, or one of the caller's own. -/
inductive Check where
  | pattern (p : Pattern)
  | custom (f : Visit → Option Violation)

namespace Check

/-- The violation of a text that a pattern does not match. -/
def patternViolation (p : Pattern) (text : String) : Violation :=
  { kind := .formatViolation, message := "must match pattern " ++ Text.tick p.source,
    expected := some (.str p.source), actual := some (.str text) }

/-- What the check finds.  A pattern has nothing to say about values that are no texts. -/
def run : Check → Visit → Option Violation
  | .pattern p, v =>
    match v.current with
    | .str text => if p.isMatch text then none else some (patternViolation p text)
    | _ => none
  | .custom f, v => f v

end Check

/-- A node of a schema: its traits and hooks. -/
structure Node extends Traits where
  default : Option Default := none
  /-- Whether the node applies as a conditional option. -/
  applies : Option (Visit → Bool) := none
  parse : Option (Visit → Option Json) := none
  coerce : Option (Visit → Option Json) := none
  checks : List Check := []

/-- The children of a node. -/
inductive Children (σ : Type) where
  | none
  | properties (ps : List (String × σ))
  | element (s : σ)

/-- The options of a node: one of some values, or the first schema that applies. -/
inductive Options (σ : Type) where
  | none
  | values (vs : List Json)
  | models (ss : List σ)

/-- Whether a node has schemas as its options. -/
def Options.isConditional {σ : Type} : Options σ → Bool
  | .models _ => true
  | _ => false

end Conform
