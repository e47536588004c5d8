import Conform.Json.Basic
import Conform.Text.Dump

/-!
# Defaults and configurations

The flags that a context gives to the nodes it makes, and the configuration that holds them.
-/

namespace Conform

/-- The flags that a context gives to the nodes it makes. -/
structure Defaults where
  required : Bool := true
  strict : Bool := false
  nullable : Bool := false
  deriving DecidableEq

/-- What a context can be configured with from plain data. -/
structure Config where
  defaults : Defaults := {}
  deriving DecidableEq

namespace Defaults

/-- The names of the flags, in order. -/
def names : List String := ["required", "strict", "nullable"]

/-- The flags given by name; the others keep their defaults. -/
def ofFields (fs : Fields Bool) : Defaults :=
  { required := (fs.get? "required").getD true
    strict := (fs.get? "strict").getD false
    nullable := (fs.get? "nullable").getD false }

def toJson (d : Defaults) : Json :=
  .obj [("required", .bool d.required), ("strict", .bool d.strict), ("nullable", .bool d.nullable)]

def dump (d : Defaults) : String :=
  Text.Dump.record "ModelDefaults" [("required", Text.Dump.bool d.required),
    ("strict", Text.Dump.bool d.strict), ("nullable", Text.Dump.bool d.nullable)]

end Defaults

namespace Config

def names : List String := ["defaults"]

/-- The configuration of the fields that are given. -/
def ofFields (fs : Fields Defaults) : Config :=
  { defaults := (fs.get? "defaults").getD {} }

def toJson (c : Config) : Json :=
  .obj [("defaults", c.defaults.toJson)]

def dump (c : Config) : String :=
  Text.Dump.record "ContextConfig" [("defaults", c.defaults.dump)]

end Config

end Conform
