import Conform.Schema.Basic
import Conform.Text.Dump

/-!
# Dumps of schemas

The inspection form of schemas, capability tables and extensions.  Of hooks it shows only whether
they are there.
-/

namespace Conform

open Text

mutual

def Json.dump : Json → String
  | .null => "Null"
  | .bool b => Dump.apply "Bool" [Dump.bool b]
  | .num n => Dump.apply "Number" [n.text]
  | .str s => Dump.apply "String" [Dump.quoted s]
  | .arr items => "Array " ++ Dump.list (Json.dumpItems items)
  | .obj fields => "Object " ++ Dump.map (Json.dumpFields fields)

/-- The dumps of JSON values. -/
def Json.dumpItems : List Json → List String
  | [] => []
  | v :: rest => Json.dump v :: Json.dumpItems rest

/-- The dumps of the fields of an object. -/
def Json.dumpFields : List (String × Json) → List (String × String)
  | [] => []
  | (name, v) :: rest => (Dump.quoted name, Json.dump v) :: Json.dumpFields rest

end

namespace Default

def dump : Default → String
  | .literal v => Dump.apply "Literal" [v.dump]
  | .computed _ => "Computed(..)"

end Default

namespace Node

def dumpHooks (n : Node) : String :=
  Dump.record "CustomHooks" [("parse", Dump.bool n.parse.isSome),
    ("coerce", Dump.bool n.coerce.isSome), ("validate", toString n.checks.length)]

def dumpWith (n : Node) (children options : String) : String :=
  Dump.record "ModelSpec" [("kind", n.kind.dumpName),
    ("format", Dump.option (n.format.map Dump.quoted)), ("required", Dump.bool n.required),
    ("nullable", Dump.bool n.nullable), ("strict", Dump.bool n.strict),
    ("default", Dump.option (n.default.map Default.dump)), ("children", children),
    ("options", options), ("applies", Dump.bool n.applies.isSome), ("hooks", n.dumpHooks),
    ("extra_data", Dump.map (Json.dumpFields n.extra))]

end Node

namespace Schema

def dumpChild (key model : String) : String :=
  Dump.record "ModelChild" [("key", key), ("model", model)]

mutual

def dump : Schema → String
  | .mk n _ c o => n.dumpWith (dumpChildren c) (dumpOptions o)

def dumpChildren : Children Schema → String
  | .none => Dump.list []
  | .properties ps => Dump.list (dumpProperties ps)
  | .element s => Dump.list [dumpChild "Element" (dump s)]

def dumpProperties : List (String × Schema) → List String
  | [] => []
  | (name, s) :: rest =>
    dumpChild (Dump.apply "Property" [Dump.quoted name]) (dump s) :: dumpProperties rest

def dumpOptions : Options Schema → String
  | .none => Dump.option none
  | .values vs => Dump.option (some (Dump.apply "Values" [Dump.list (Json.dumpItems vs)]))
  | .models ss => Dump.option (some (Dump.apply "Models" [Dump.list (dumpAll ss)]))

def dumpAll : List Schema → List String
  | [] => []
  | s :: rest => dump s :: dumpAll rest

end

end Schema

namespace Handler

def dump (h : Handler) : String :=
  "Handler::" ++ match h.phase with
    | .parse => "Parse"
    | .coerce => "Coerce"
    | .validate => "Validate"

end Handler

variable {σ : Type}

def Builder.dump (b : Builder σ) : String :=
  Dump.record "BuilderDef" [("kind", b.kind.dumpName),
    ("format", Dump.option (b.format.map Dump.quoted)),
    ("configure", Dump.bool b.configure.isSome)]

def Extension.dump (e : Extension σ) : String :=
  Dump.record "Extension" [("name", Dump.quoted e.name),
    ("formats", Dump.list (e.formats.map fun (k, f) =>
      Dump.apply "" [k.dumpName, Dump.quoted f])),
    ("builders", Dump.list (e.builders.map fun b => Dump.quoted b.1)),
    ("handlers", toString e.handlers.length),
    ("extends", Dump.list (e.hooks.map fun h => Dump.quoted h.1))]

namespace Table

/-- The formats of every kind that has some. -/
def dumpFormats (t : Table σ) : String :=
  Dump.map (Kind.all.filterMap fun k =>
    match t.formatsOf k with
    | [] => none
    | fs => some (k.dumpName, Dump.set (fs.map Dump.quoted)))

/-- The dump of a table, which leaves the handlers out. -/
def dump (t : Table σ) : String :=
  Dump.record "CapabilityTable" [("extensions", Dump.list (t.extensions.map Dump.quoted)),
    ("builders", Dump.list (t.builderNames.map Dump.quoted)), ("formats", t.dumpFormats),
    ("extends", Dump.list ((Fields.keys t.hooks).map Dump.quoted))] true

end Table

end Conform
