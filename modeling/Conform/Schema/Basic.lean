import Conform.Table.Basic

/-!
# Schemas

A schema is a tree of nodes.  Every node carries the capability table it dispatches through, so
that schemas of different contexts can be nested.
-/

namespace Conform

/-- A schema: a node, the capabilities it uses, its children and its options. -/
inductive Schema where
  | mk (node : Node) (table : Table Schema) (children : Children Schema)
      (options : Options Schema)

namespace Schema

/-- The node at the root. -/
def node : Schema → Node
  | .mk n _ _ _ => n

/-- The capabilities of the root. -/
def table : Schema → Table Schema
  | .mk _ t _ _ => t

/-- The children of the root. -/
def children : Schema → Children Schema
  | .mk _ _ c _ => c

/-- The options of the root. -/
def options : Schema → Options Schema
  | .mk _ _ _ o => o

/-- The schema of a bare node. -/
def ofNode (n : Node) (t : Table Schema) : Schema :=
  .mk n t .none .none

/-- The kind of the root. -/
def kind (s : Schema) : Kind :=
  s.node.kind

/-- The declared properties, in order. -/
def properties (s : Schema) : List (String × Schema) :=
  match s.children with
  | .properties ps => ps
  | _ => []

/-- The schema of a declared property. -/
def property? (s : Schema) (name : String) : Option Schema :=
  s.properties.lookup name

def element? (s : Schema) : Option Schema :=
  match s.children with
  | .element e => some e
  | _ => none

mutual

/-- The schema as handlers see it. -/
def view : Schema → View
  | .mk n t c o =>
    .mk n t.inventory (t.treat { n with children := viewChildren c, options := viewOptions o })
      (viewChildren c) (viewOptions o)

def viewChildren : Children Schema → Children View
  | .none => .none
  | .properties ps => .properties (viewProperties ps)
  | .element e => .element (view e)

def viewProperties : List (String × Schema) → List (String × View)
  | [] => []
  | (name, s) :: rest => (name, view s) :: viewProperties rest

def viewOptions : Options Schema → Options View
  | .none => .none
  | .values vs => .values vs
  | .models ss => .models (viewEach ss)

def viewEach : List Schema → List View
  | [] => []
  | s :: rest => view s :: viewEach rest

end

/-- The specification of the root, as its handlers are given it. -/
def spec : Schema → Spec
  | .mk n _ c o => { n with children := viewChildren c, options := viewOptions o }

@[simp] theorem toNode_spec (s : Schema) : s.spec.toNode = s.node := by
  cases s
  rfl

/-- What the handlers of the root do there. -/
def treatment (s : Schema) : Treatment :=
  s.table.treat s.spec

/-- The schema with a changed node. -/
def mapNode (f : Node → Node) : Schema → Schema
  | .mk n t c o => .mk (f n) t c o

/-- The schema with other children. -/
def withChildren (c : Children Schema) : Schema → Schema
  | .mk n t _ o => .mk n t c o

/-- The schema with other options. -/
def withOptions (o : Options Schema) : Schema → Schema
  | .mk n t c _ => .mk n t c o

end Schema

end Conform
