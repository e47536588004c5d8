import Conform.Schema.Basic

/-!
# Building schemas

The calls on schemas.  Each answers a new schema or says why the call does not fit.  Extend hooks
and the configuration steps of builders make further calls.
-/

namespace Conform.Schema

/-- The first name that comes a second time. -/
def firstRepeated (seen : List String) : List String → Option String
  | [] => none
  | name :: rest => if seen.contains name then some name else firstRepeated (name :: seen) rest

/-- Replaces the children of an object by named properties. -/
def setProperties (s : Schema) (ps : List (String × Schema)) : Except BuildError Schema :=
  match s.kind with
  | .object =>
    match firstRepeated [] (ps.map Prod.fst) with
    | some name =>
      .error (.invalidChildren .object ("duplicate property " ++ Text.tick name))
    | none => .ok (s.withChildren (.properties ps))
  | .array =>
    .error (.invalidChildren .array "expected a single element model, got named properties")
  | kind => .error (.notComposite "children" kind)

/-- Replaces the children of an array by a schema for every element. -/
def setElement (s e : Schema) : Except BuildError Schema :=
  match s.kind with
  | .array => .ok (s.withChildren (.element e))
  | .object =>
    .error (.invalidChildren .object "expected named properties, got a single element model")
  | kind => .error (.notComposite "children" kind)

/-- Keeps the properties of an object whose names are in the list, or those whose names are not.
Every name of the list has to be declared. -/
def select (s : Schema) (operation : String) (names : List String) (keep : Bool) :
    Except BuildError Schema :=
  match s.kind with
  | .object =>
    match names.find? fun name => (s.property? name).isNone with
    | some name => .error (.unknownProperty name)
    | none =>
      .ok (s.withChildren (.properties (s.properties.filter fun p => names.contains p.1 == keep)))
  | kind => .error (.notComposite operation kind)

/-- Keeps the named properties of an object. -/
def pick (s : Schema) (names : List String) : Except BuildError Schema :=
  s.select "pick" names true

/-- Drops the named properties of an object. -/
def drop (s : Schema) (names : List String) : Except BuildError Schema :=
  s.select "omit" names false

/-- Makes a node conditional on schemas, each of which has a predicate. -/
def setModels (s : Schema) (ss : List Schema) : Except BuildError Schema :=
  match ss.findIdx? fun o => o.node.applies.isNone with
  | some i => .error (.missingPredicate i)
  | none => .ok (s.withOptions (.models ss))

/-- Selects a format that is declared for the kind. -/
def setFormat (s : Schema) (name : String) : Except BuildError Schema :=
  if s.table.hasFormat s.kind name then .ok (s.mapNode fun n => { n with format := some name })
  else .error (.unknownFormat s.kind name)

/-- Attaches data under a name. -/
def setExtra (s : Schema) (name : String) (v : Json) : Schema :=
  s.mapNode fun n => { n with extra := n.extra.insert name v }

def addCheck (s : Schema) (c : Check) : Schema :=
  s.mapNode fun n => { n with checks := n.checks ++ [c] }

/-- Requires texts to match a pattern, which is also attached as data. -/
def setPattern (s : Schema) (source : String) : Except BuildError Schema :=
  match Pattern.ofText source with
  | .ok p => .ok ((s.setExtra "pattern" (.str source)).addCheck (.pattern p))
  | .error err => .error (.invalidPattern source err.message)

/-- Makes a building call. -/
def edit (s : Schema) : Edit Schema → Except BuildError Schema
  | .required on => .ok (s.mapNode fun n => { n with required := on })
  | .nullable on => .ok (s.mapNode fun n => { n with nullable := on })
  | .strict on => .ok (s.mapNode fun n => { n with strict := on })
  | .default d => .ok (s.mapNode fun n => { n with default := some d })
  | .properties ps => s.setProperties ps
  | .element e => s.setElement e
  | .pick names => s.pick names
  | .drop names => s.drop names
  | .enumValues vs => .ok (s.withOptions (.values vs))
  | .enumModels ss => s.setModels ss
  | .applies f => .ok (s.mapNode fun n => { n with applies := some f })
  | .parse f => .ok (s.mapNode fun n => { n with parse := some f })
  | .coerce f => .ok (s.mapNode fun n => { n with coerce := some f })
  | .validation f => .ok (s.addCheck (.custom f))
  | .format name => s.setFormat name
  | .extra name v => .ok (s.setExtra name v)
  | .pattern source => s.setPattern source
  | .toProperty name =>
    match s.property? name with
    | some p => .ok p
    | none => .error (.unknownProperty name)
  | .toElement =>
    match s.element? with
    | some e => .ok e
    | none => .error (.invalidChildren s.kind "no element model")

/-- Makes building calls one after the other, up to the first that fails. -/
def edits (s : Schema) (es : List (Edit Schema)) : Except BuildError Schema :=
  es.foldlM edit s

section

variable (call : Schema → String → Json → Option (Except BuildError Schema))

/-- Takes a step, where `call` answers the calls for extend hooks. -/
def step (s : Schema) : Step Schema → Option (Except BuildError Schema)
  | .edit e => some (s.edit e)
  | .extend name arg => call s name arg

/-- What a script makes of a schema. -/
def perform (s : Schema) (script : Script Schema) : Option (Except BuildError Schema) :=
  script.run view (step call) [s] s

end

/-- Extends a schema by the hook of a name.  Hooks may call hooks, so that there is no answer where
more of these calls are under way than the depth allows. -/
def extend : Nat → Schema → String → Json → Option (Except BuildError Schema)
  | 0, _, _, _ => none
  | depth + 1, s, name, arg =>
    match s.table.extendHook name with
    | .ok hook => perform (extend depth) s (hook.script s.view arg)
    | .error err => some (.error err)

end Conform.Schema

namespace Conform

/-- What a builder makes of a bare node, where hooks may call one another as deep as that.  There is
no answer either when the configuration step fails, as nobody takes its error. -/
def Builder.configured (b : Builder Schema) (depth : Nat) (s : Schema) : Option Schema :=
  match b.configure with
  | none => some s
  | some configure =>
    (Schema.perform (Schema.extend depth) s (configure s.view)).bind Except.toOption

end Conform
