import Conform.Schema.Node

/-!
# Handlers

What extensions add to the phases of a node.  A handler is given the specification of the node that
it runs at and the state of the visit.  The schemas inside a specification are given as views: their
nodes, what their tables list, and what their own handlers do to them.
-/

namespace Conform

/-- The phases of validation that extensions can add to. -/
inductive Phase where
  | parse
  | coerce
  | validate
  deriving DecidableEq

/-- What a table lists.  Functions are listed by their names and places alone. -/
structure Inventory where
  extensions : List String
  formats : List (Kind × String)
  /-- The kind and format of each builder, and whether it is configured further. -/
  builders : List (String × Kind × Option String × Bool)
  handlers : List (Kind × Option String × Phase)
  hooks : List String

/-- What handlers do at a node, phase by phase. -/
structure Treatment where
  parse : List (Visit → Option Json)
  coerce : List (Visit → Option Json)
  validate : List (Visit → Option Violation)

/-- A schema as handlers see it. -/
structure View where
  node : Node
  inventory : Inventory
  treatment : Treatment
  children : Children View
  options : Options View

/-- The specification of a node, as its handlers are given it. -/
structure Spec extends Node where
  children : Children View
  options : Options View

/-- What an extension adds to a phase. -/
inductive Handler where
  | parse (f : Spec → Visit → Option Json)
  | coerce (f : Spec → Visit → Option Json)
  | validate (f : Spec → Visit → Option Violation)

namespace Handler

/-- The phase a handler belongs to. -/
def phase : Handler → Phase
  | .parse _ => .parse
  | .coerce _ => .coerce
  | .validate _ => .validate

/-- The transform of a handler that changes values. -/
def transform? : Handler → Option (Spec → Visit → Option Json)
  | .parse f | .coerce f => some f
  | .validate _ => none

/-- The assertion of a handler that checks values. -/
def assertion? : Handler → Option (Spec → Visit → Option Violation)
  | .validate f => some f
  | .parse _ | .coerce _ => none

end Handler

end Conform
