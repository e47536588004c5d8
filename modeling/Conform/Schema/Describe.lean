import Conform.Schema.Basic

/-!
# Descriptions

The JSON description of a schema.  Of hooks it tells only that a default is computed; everything
else that decides about values stands in it.
-/

namespace Conform.Schema

/-- The field that tells a default, or that there is a computed one. -/
def defaultFields : Option Default → Fields Json
  | some (.literal v) => [("default", v)]
  | some (.computed _) => [("computedDefault", .bool true)]
  | none => []

/-- The fields that describe the node itself, before its children. -/
def nodeFields (n : Node) : Fields Json :=
  [("type", .str n.kind.name)] ++ Issue.optionalField "format" (n.format.map .str) ++
    [("required", .bool n.required), ("nullable", .bool n.nullable), ("strict", .bool n.strict)] ++
    defaultFields n.default

/-- The data attached to the node, if there is any. -/
def extraFields (n : Node) : Fields Json :=
  if n.extra.isEmpty then [] else [("extra", .obj n.extra)]

mutual

/-- The description of a schema. -/
def describe : Schema → Json
  | .mk n _ c o => .obj (nodeFields n ++ describeChildren n.kind c ++ describeOptions o ++
      extraFields n)

/-- The properties of an object or the elements of an array. -/
def describeChildren (kind : Kind) : Children Schema → Fields Json
  | .properties ps =>
    match kind with
    | .object => [("properties", .obj (describeProperties ps))]
    | _ => []
  | .element s =>
    match kind with
    | .array => [("items", describe s)]
    | _ => []
  | .none => []

/-- The descriptions of properties. -/
def describeProperties : List (String × Schema) → Fields Json
  | [] => []
  | (name, s) :: rest => (name, describe s) :: describeProperties rest

/-- The options of a node, if it has any. -/
def describeOptions : Options Schema → Fields Json
  | .none => []
  | .values vs => [("enum", .arr vs)]
  | .models ss => [("oneOf", .arr (describeAll ss))]

/-- The descriptions of schemas. -/
def describeAll : List Schema → List Json
  | [] => []
  | s :: rest => describe s :: describeAll rest

end

end Conform.Schema
