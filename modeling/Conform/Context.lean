import Conform.Defaults
import Conform.Schema.Build

/-!
# Contexts

A context collects extensions and defaults and then makes schemas.  The first schema, or the
first look at the capabilities, freezes it: from then on nothing can be registered, and all its
schemas share one table.
-/

namespace Conform

/-- Whether a context still takes registrations. -/
inductive ContextState where
  | registering
  | frozen
  deriving DecidableEq

/-- A maker of schemas. -/
structure Context where
  pending : Table Schema
  frozen : Option (Table Schema)
  defaults : Defaults

namespace ContextState

def dump : ContextState → String
  | .registering => "Registering"
  | .frozen => "Frozen"

end ContextState

namespace Context

/-- A context with nothing registered. -/
def empty : Context :=
  { pending := {}, frozen := none, defaults := {} }

/-- A context with extensions added without checks. -/
def ofExtensions (es : List (Extension Schema)) : Context :=
  { empty with pending := es.foldl Table.merge {} }

/-- Whether the context still takes registrations. -/
def state (c : Context) : ContextState :=
  if c.frozen.isSome then .frozen else .registering

def useExtension (c : Context) (e : Extension Schema) : Except BuildError Context :=
  match c.state with
  | .frozen => .error .contextFrozen
  | .registering =>
    match c.pending.register e with
    | .ok t => .ok { c with pending := t }
    | .error err => .error err

/-- Sets the flags of the nodes made from now on. -/
def useDefaults (c : Context) (d : Defaults) : Except BuildError Context :=
  match c.state with
  | .frozen => .error .contextFrozen
  | .registering => .ok { c with defaults := d }

/-- Applies a configuration. -/
def useConfig (c : Context) (config : Config) : Except BuildError Context :=
  c.useDefaults config.defaults

/-- The capabilities of the context, which freezes on the first look at them. -/
def capabilities (c : Context) : Context × Table Schema :=
  match c.frozen with
  | some t => (c, t)
  | none => ({ c with frozen := some c.pending }, c.pending)

/-- The first look at the capabilities freezes the context. -/
theorem state_capabilities (c : Context) : c.capabilities.1.state = .frozen := by
  rcases c with ⟨p, _ | t, d⟩ <;> rfl

/-- Every later look shows the same capabilities and changes nothing. -/
theorem capabilities_capabilities (c : Context) :
    c.capabilities.1.capabilities = c.capabilities := by
  rcases c with ⟨p, _ | t, d⟩ <;> rfl

/-- A bare node with the flags of the context. -/
def seeded (c : Context) (kind : Kind) : Node :=
  { kind, required := c.defaults.required, strict := c.defaults.strict,
    nullable := c.defaults.nullable }

/-- Makes a schema of a bare node. -/
def ofKind (c : Context) (kind : Kind) : Context × Schema :=
  let (c, t) := c.capabilities
  (c, .ofNode (c.seeded kind) t)

/-- Makes a schema with a named builder, where hooks may call one another as deep as that.  There
may be no answer, as with the configuration step of the builder. -/
def build (c : Context) (name : String) (depth : Nat) :
    Context × Option (Except BuildError Schema) :=
  let (c, t) := c.capabilities
  match t.builder name with
  | .ok b =>
    (c, (b.configured depth (.ofNode { c.seeded b.kind with format := b.format } t)).map .ok)
  | .error err => (c, some (.error err))

/-- Makes an object schema with properties. -/
def objectOf (c : Context) (ps : List (String × Schema)) : Context × Except BuildError Schema :=
  let (c, s) := c.ofKind .object
  (c, s.setProperties ps)

/-- Fails to make an object schema of a schema for elements. -/
def objectOfElement (c : Context) (e : Schema) : Context × Except BuildError Schema :=
  let (c, s) := c.ofKind .object
  (c, s.setElement e)

/-- Makes an array schema with a schema for every element. -/
def arrayOf (c : Context) (e : Schema) : Context × Schema :=
  let (c, s) := c.ofKind .array
  (c, s.withChildren (.element e))

def dump (c : Context) : String :=
  Text.Dump.record "ModelContext" [("state", c.state.dump), ("defaults", c.defaults.dump),
    ("extensions", Text.Dump.list (c.pending.extensions.map Text.Dump.quoted))]

end Context

end Conform
