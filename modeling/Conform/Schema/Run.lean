import Conform.Schema.Basic

/-!
# Validation

Every node runs the same phases in the same order: parse, default, presence, coercion unless
strict, type, value, then the children, undeclared properties and the conditional option.  An
issue of one of the first six phases ends the phases of its node, and of that node only.
-/

namespace Conform

/-- Where the phases of a node stand: ended, or going on. -/
inductive Progress where
  | ended (v : Visit)
  | going (v : Visit)

namespace Progress

/-- The state, whether the phases have ended or not. -/
def visit : Progress → Visit
  | .ended v | .going v => v

/-- Goes on with the next phases, if any are left. -/
def andThen (p : Progress) (next : Visit → Progress) : Progress :=
  match p with
  | .ended v => .ended v
  | .going v => next v

end Progress

namespace Node

variable {σ : Type}

/-- The handlers that transform the raw value, then the node's own. -/
def runParse (n : Node) (t : Treatment) (v : Visit) : Visit :=
  v.transform (t.parse ++ n.parse.toList)

/-- An undefined value becomes the default. -/
def fillDefault (n : Node) (v : Visit) : Visit :=
  match v.value, n.default with
  | none, some d => v.set (d.resolve v)
  | _, _ => v

/-- The violation of a required value that is undefined. -/
def missingViolation : Violation :=
  { kind := .requiredValueMissing, message := "value is required" }

/-- An undefined value and an allowed `null` end the phases. -/
def checkPresence (n : Node) (v : Visit) : Progress :=
  match v.value with
  | none => if n.required then .ended (v.push missingViolation) else .ended v
  | some .null => if n.nullable then .ended v else .going v
  | some _ => .going v

/-- The handlers that coerce the value, then the node's own.  A strict node coerces nothing. -/
def runCoerce (n : Node) (t : Treatment) (v : Visit) : Visit :=
  if n.strict then v
  else v.transform (t.coerce ++ n.coerce.toList)

/-- The violation of a value that does not have the type of a kind. -/
def typeViolation (kind : Kind) (value : Json) : Violation :=
  { kind := .typeMismatch,
    message := "expected " ++ kind.name ++ ", got " ++ value.typeName,
    expected := some (.str kind.name), actual := some (.str value.typeName) }

/-- The value has to have the type of the kind. -/
def checkType (n : Node) (v : Visit) : Progress :=
  if n.kind.accepts v.current then .going v
  else .ended (v.push (typeViolation n.kind v.current))

/-- The violation of a value that is none of the options. -/
def enumViolation (options : List Json) (value : Json) : Violation :=
  { kind := .enumMembershipViolation,
    message := "must be one of " ++ (Json.arr options).text,
    expected := some (.arr options), actual := some value }

/-- The first violation that the handlers and then the checks of a node find. -/
def firstViolation (n : Node) (t : Treatment) (v : Visit) : Option Violation :=
  (t.validate ++ n.checks.map Check.run).findSome? fun f => f v

/-- The violation of a value among its options, the handlers and the checks. -/
def valueViolation (n : Node) (t : Treatment) (o : Options σ) (v : Visit) : Option Violation :=
  match o with
  | .values options =>
    if options.any fun x => x.sameOption v.current then n.firstViolation t v
    else some (enumViolation options v.current)
  | _ => n.firstViolation t v

/-- The value has to be one of the options and pass the handlers and the checks. -/
def checkValue (n : Node) (t : Treatment) (o : Options σ) (v : Visit) : Progress :=
  match n.valueViolation t o v with
  | some violation => .ended (v.push violation)
  | none => .going v

/-- The phases that can give an undefined value a value. -/
def prepare (n : Node) (t : Treatment) (v : Visit) : Visit :=
  n.fillDefault (n.runParse t v)

/-- The phases before the children. -/
def enter (n : Node) (t : Treatment) (o : Options σ) (v : Visit) : Progress :=
  (n.checkPresence (n.prepare t v)).andThen fun v =>
    (n.checkType (n.runCoerce t v)).andThen (n.checkValue t o)

end Node

namespace Visit

/-- The issue of a property that a strict object does not declare. -/
def unexpectedProperty (v : Visit) (name : String) : Issue :=
  .ofViolation (v.path ++ [.key name])
    { kind := .unexpectedProperty, message := "unexpected property \"" ++ name ++ "\"" }

/-- The fields that declared properties end with, in the order of declaration: those that are
defined. -/
def definedFields (declared : List (String × Visit)) : Fields Json :=
  declared.filterMap fun (name, r) => r.value.map fun x => (name, x)

/-- Rebuilds an object from the results of its declared properties: those that are defined, in
the order of declaration, then the undeclared fields as they were. -/
def rebuildObject (v : Visit) (declared : List (String × Visit)) (undeclared : Fields Json) :
    Visit :=
  { v with
    value := some (.obj (definedFields declared ++ undeclared))
    issues := v.issues ++ declared.flatMap fun (_, r) => r.issues }

/-- Refuses the properties with these names. -/
def refuse (v : Visit) (names : List String) : Visit :=
  { v with issues := v.issues ++ names.map v.unexpectedProperty }

/-- Rebuilds an array from the results of its elements. -/
def rebuildArray (v : Visit) (elements : List Visit) : Visit :=
  { v with
    value := some (.arr (elements.map Visit.current))
    issues := v.issues ++ elements.flatMap Visit.issues }

/-- The visits of the elements of an array. -/
def elements (v : Visit) (items : List Json) : List Visit :=
  items.zipIdx.map fun (x, i) => v.descend (.index i) (some x)

/-- The violation when no conditional option applies. -/
def noOptionViolation : Violation :=
  { kind := .noApplicableOption, message := "no conditional option applies to the value" }

end Visit

namespace Schema

/-- The fields of an object that are not declared. -/
def undeclaredFields (declared : List (String × Schema)) (fields : Fields Json) : Fields Json :=
  fields.distinct.filter fun f => (declared.lookup f.1).isNone

/-- The names of the properties that a strict object refuses, which are those it does not declare.
A conditional object leaves it to its options to refuse any. -/
def refusedNames (s : Schema) (v : Visit) : List String :=
  match s.kind, v.value with
  | .object, some (.obj fields) =>
    if s.node.strict && !s.options.isConditional then
      (undeclaredFields s.properties fields).map Prod.fst
    else []
  | _, _ => []

/-- Whether a schema applies as a conditional option. -/
def appliesTo (s : Schema) (v : Visit) : Bool :=
  s.node.applies.any fun f => f v

mutual

/-- Validates the value of a visit. -/
def run : Schema → Visit → Visit
  | .mk n t c o, v =>
    match n.enter (treatment (.mk n t c o)) o v with
    | .ended v => v
    | .going v => runOptions o ((runChildren n.kind c v).refuse (refusedNames (.mk n t c o) v))

/-- Validates the children.  An object that declares properties and an array with a schema for
its elements are rebuilt, all other values stay as they are. -/
def runChildren (kind : Kind) : Children Schema → Visit → Visit
  | .properties ps, v =>
    match kind, v.value with
    | .object, some (.obj fields) =>
      if ps.isEmpty then v
      else v.rebuildObject (runProperties ps fields v) (undeclaredFields ps fields)
    | _, _ => v
  | .element s, v =>
    match kind, v.value with
    | .array, some (.arr items) => v.rebuildArray ((v.elements items).map fun w => run s w)
    | _, _ => v
  | .none, v => v

/-- Validates the declared properties, each on its own. -/
def runProperties : List (String × Schema) → Fields Json → Visit → List (String × Visit)
  | [], _, _ => []
  | (name, s) :: rest, fields, v =>
    (name, run s (v.descend (.key name) (fields.get? name))) :: runProperties rest fields v

/-- Validates against the conditional options, where there are any. -/
def runOptions : Options Schema → Visit → Visit
  | .models ss, v => runFirst ss v
  | _, v => v

/-- Validates against the first option that applies. -/
def runFirst : List Schema → Visit → Visit
  | [], v => v.push Visit.noOptionViolation
  | s :: rest, v => if s.appliesTo v then run s v else runFirst rest v

end

/-- Validates an input, where none stands for undefined. -/
def validate (s : Schema) (input : Option Json) : Visit :=
  s.run (.start input)

end Schema

end Conform
