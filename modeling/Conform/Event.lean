import Conform.Schema.Dump
import Conform.Schema.Run
import Conform.Context

/-!
# Events

What happens while a context is configured and values are validated, as a log for people.  The
events are computed beside the results and never change them.
-/

namespace Conform

/-- Something worth a line in a log. -/
inductive Event where
  | registering (name : String) (formats builders handlers hooks : Nat)
  | hookReplaced (hook name : String)
  | freezing (extensions : List String)
  | visiting (path : Path) (kind : Kind)
  | severalApply (path : Path) (count selected : Nat)
  | optionSelected (path : Path) (index : Nat)
  | finished (kind : Kind) (issues : Nat)

namespace Event

/-- How much an event matters. -/
def level : Event → String
  | .registering .. | .freezing _ | .finished .. => "DEBUG"
  | .hookReplaced .. | .severalApply .. => "WARN"
  | .visiting .. | .optionSelected .. => "TRACE"

def message : Event → String
  | .registering .. => "registering extension"
  | .hookReplaced .. => "extend hook replaced"
  | .freezing _ => "freezing model context"
  | .visiting .. => "validating node"
  | .severalApply .. => "more than one conditional option applies, using the first"
  | .optionSelected .. => "conditional option selected"
  | .finished .. => "validation finished"

def fields : Event → List (String × String)
  | .registering name formats builders handlers hooks =>
    [("extension", name), ("formats", toString formats), ("builders", toString builders),
      ("handlers", toString handlers), ("extends", toString hooks)]
  | .hookReplaced hook name => [("extend", hook), ("extension", name)]
  | .freezing extensions =>
    [("extensions", Text.Dump.list (extensions.map Text.Dump.quoted))]
  | .visiting path kind => [("path", path.display), ("kind", kind.name)]
  | .severalApply path count selected =>
    [("path", path.display), ("matches", toString count), ("selected", toString selected)]
  | .optionSelected path index => [("path", path.display), ("option", toString index)]
  | .finished kind issues =>
    [("kind", kind.name), ("issues", toString issues),
      ("conforms", Text.Dump.bool (issues == 0))]

def line (e : Event) : String :=
  e.level ++ " " ++ e.message ++ " \x7b" ++
    String.intercalate ", " (e.fields.map fun (k, v) => k ++ "=" ++ v) ++ "\x7d"

end Event

namespace Table

variable {σ : Type}

/-- The events of hooks that replace others, where `names` are the hooks so far. -/
def replacements (extension : String) (names : List String) :
    List (String × ExtendHook σ) → List Event
  | [] => []
  | (name, _) :: rest =>
    (if names.contains name then [.hookReplaced name extension] else []) ++
      replacements extension (name :: names) rest

def mergeEvents (t : Table σ) (e : Extension σ) : List Event :=
  .registering e.name e.formats.length e.builders.length e.handlers.length e.hooks.length ::
    replacements e.name (t.hooks.map Prod.fst) e.hooks

/-- The events of adding extensions one after the other. -/
def mergeAllEvents (t : Table σ) : List (Extension σ) → List Event
  | [] => []
  | e :: es => t.mergeEvents e ++ mergeAllEvents (t.merge e) es

end Table

namespace Context

/-- The events of looking at the capabilities. -/
def freezeEvents (c : Context) : List Event :=
  match c.state with
  | .registering => [.freezing c.pending.extensions]
  | .frozen => []

def useExtensionEvents (c : Context) (e : Extension Schema) : List Event :=
  match c.useExtension e with
  | .ok _ => c.pending.mergeEvents e
  | .error _ => []

end Context

namespace Schema

mutual

def events : Schema → Visit → List Event
  | .mk n t c o, v =>
    .visiting v.path n.kind ::
      match n.enter (treatment (.mk n t c o)) o v with
      | .ended _ => []
      | .going v =>
        eventsOfChildren n c v ++
          eventsOfOptions o ((runChildren n.kind c v).refuse (refusedNames (.mk n t c o) v))

def eventsOfChildren (n : Node) : Children Schema → Visit → List Event
  | .properties ps, v =>
    match n.kind, v.value with
    | .object, some (.obj fields) => eventsOfProperties ps fields v
    | _, _ => []
  | .element s, v =>
    match n.kind, v.value with
    | .array, some (.arr items) => (v.elements items).flatMap fun w => events s w
    | _, _ => []
  | .none, _ => []

/-- The events of validating the declared properties. -/
def eventsOfProperties : List (String × Schema) → Fields Json → Visit → List Event
  | [], _, _ => []
  | (name, s) :: rest, fields, v =>
    events s (v.descend (.key name) (fields.get? name)) ++ eventsOfProperties rest fields v

/-- The events of choosing a conditional option and validating against it. -/
def eventsOfOptions : Options Schema → Visit → List Event
  | .models ss, v => eventsOfFirst 0 ss v
  | _, _ => []

/-- The events of the first option that applies, where `index` options came before. -/
def eventsOfFirst (index : Nat) : List Schema → Visit → List Event
  | [], _ => []
  | s :: rest, v =>
    if s.appliesTo v then
      let others := rest.countP fun o => o.appliesTo v
      (if 0 < others then [.severalApply v.path (others + 1) index] else []) ++
        .optionSelected v.path index :: events s v
    else eventsOfFirst (index + 1) rest v

end

def validateEvents (s : Schema) (input : Option Json) : List Event :=
  s.events (.start input) ++ [.finished s.kind (s.validate input).issues.length]

end Schema

end Conform
