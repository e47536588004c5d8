import Conform.Schema.Edit

/-!
# Capability tables

A table holds what the extensions of a context contribute, in the order of registration: formats,
named builders, handlers of the phases and extend hooks.  An extension is accepted or refused as
a whole.
-/

namespace Conform

/-- What a named builder makes: a node of a kind, with an optional format and a last configuration
step. -/
structure Builder (σ : Type) where
  kind : Kind
  format : Option String := none
  configure : Option (View → Script σ) := none

/-- A handler with the nodes it is for: those of a kind, or only those with a format. -/
structure HandlerEntry where
  kind : Kind
  format : Option String
  handler : Handler

/-- A function that extends a schema by an argument. -/
structure ExtendHook (σ : Type) where
  script : View → Json → Script σ

/-- A named bundle of capabilities. -/
structure Extension (σ : Type) where
  name : String
  formats : List (Kind × String) := []
  builders : List (String × Builder σ) := []
  handlers : List HandlerEntry := []
  hooks : List (String × ExtendHook σ) := []

/-- The capabilities of a context. -/
structure Table (σ : Type) where
  extensions : List String := []
  formats : List (Kind × String) := []
  builders : List (String × Builder σ) := []
  handlers : List HandlerEntry := []
  hooks : List (String × ExtendHook σ) := []

namespace Table

variable {σ : Type}

/-- Whether a format is declared for a kind. -/
def hasFormat (t : Table σ) (kind : Kind) (format : String) : Bool :=
  t.formats.contains (kind, format)

def builder (t : Table σ) (name : String) : Except BuildError (Builder σ) :=
  match Fields.get? t.builders name with
  | some b => .ok b
  | none => .error (.unknownBuilder name)

def extendHook (t : Table σ) (name : String) : Except BuildError (ExtendHook σ) :=
  match Fields.get? t.hooks name with
  | some h => .ok h
  | none => .error (.unknownExtend name)

/-- Names in ascending order, each once. -/
def sortedNames (names : List String) : List String :=
  (names.mergeSort fun a b => !(b < a)).eraseDups

/-- The names of the builders, in ascending order. -/
def builderNames (t : Table σ) : List String :=
  sortedNames (Fields.keys t.builders)

/-- The formats declared for a kind, in ascending order. -/
def formatsOf (t : Table σ) (kind : Kind) : List String :=
  sortedNames ((t.formats.filter fun f => f.1 == kind).map Prod.snd)

/-- The handlers registered for a kind and exactly this format, in order of registration. -/
def handlersAt (t : Table σ) (kind : Kind) (format : Option String) : List Handler :=
  (t.handlers.filter fun h => h.kind == kind && h.format == format).map HandlerEntry.handler

/-- The handlers of a node: those of its format, then those of its kind. -/
def handlersFor (t : Table σ) (kind : Kind) (format : Option String) (phase : Phase) :
    List Handler :=
  let specific := match format with
    | some f => t.handlersAt kind (some f)
    | none => []
  (specific ++ t.handlersAt kind none).filter fun h => h.phase == phase

/-- The transforms of a node in a phase. -/
def transforms (t : Table σ) (x : Spec) (phase : Phase) : List (Visit → Option Json) :=
  (t.handlersFor x.kind x.format phase).filterMap fun h => h.transform?.map fun f => f x

/-- The assertions of a node. -/
def assertions (t : Table σ) (x : Spec) : List (Visit → Option Violation) :=
  (t.handlersFor x.kind x.format .validate).filterMap fun h => h.assertion?.map fun f => f x

/-- What the handlers of a node do there. -/
def treat (t : Table σ) (x : Spec) : Treatment :=
  { parse := t.transforms x .parse, coerce := t.transforms x .coerce, validate := t.assertions x }

/-- What the table lists. -/
def inventory (t : Table σ) : Inventory :=
  { extensions := t.extensions
    formats := t.formats
    builders := t.builders.map fun b => (b.1, b.2.kind, b.2.format, b.2.configure.isSome)
    handlers := t.handlers.map fun h => (h.kind, h.format, h.handler.phase)
    hooks := t.hooks.map Prod.fst }

/-- Whether a format is declared for a kind by the table or by an extension. -/
def declares (t : Table σ) (e : Extension σ) (kind : Kind) (format : String) : Bool :=
  t.hasFormat kind format || e.formats.contains (kind, format)

/-- Refuses an optional format that is not declared. -/
def checkFormat (t : Table σ) (e : Extension σ) (kind : Kind) (format : Option String) :
    Except BuildError Unit :=
  match format with
  | some f => if t.declares e kind f then .ok () else .error (.unknownFormat kind f)
  | none => .ok ()

/-- Refuses the first builder whose name is taken, by the table or by a builder before it, or
whose format is not declared. -/
def checkBuilders (t : Table σ) (e : Extension σ) (seen : List String) :
    List (String × Builder σ) → Except BuildError Unit
  | [] => .ok ()
  | (name, b) :: rest =>
    if Fields.contains t.builders name || seen.contains name then
      .error (.builderConflict name e.name)
    else
      match t.checkFormat e b.kind b.format with
      | .error err => .error err
      | .ok () => checkBuilders t e (name :: seen) rest

/-- Refuses the first handler whose format is not declared. -/
def checkHandlers (t : Table σ) (e : Extension σ) : List HandlerEntry → Except BuildError Unit
  | [] => .ok ()
  | h :: rest =>
    match t.checkFormat e h.kind h.format with
    | .error err => .error err
    | .ok () => checkHandlers t e rest

/-- Whether an extension can be added, and if not, the first offence: builders come before
handlers. -/
def check (t : Table σ) (e : Extension σ) : Except BuildError Unit :=
  match t.checkBuilders e [] e.builders with
  | .error err => .error err
  | .ok () => t.checkHandlers e e.handlers

/-- Adds an extension without checks.  A later extend hook replaces an earlier one of its name. -/
def merge (t : Table σ) (e : Extension σ) : Table σ :=
  { extensions := t.extensions ++ [e.name]
    formats := t.formats ++ e.formats
    builders := e.builders.foldl (fun bs b => Fields.insert bs b.1 b.2) t.builders
    handlers := t.handlers ++ e.handlers
    hooks := e.hooks.foldl (fun hs h => Fields.insert hs h.1 h.2) t.hooks }

/-- After an extension is added, its formats are declared beside the earlier ones. -/
theorem hasFormat_merge (t : Table σ) (e : Extension σ) (kind : Kind) (format : String) :
    (t.merge e).hasFormat kind format = t.declares e kind format := by
  simp [merge, hasFormat, declares, List.contains_eq_mem]

/-- The extensions are listed in the order of their addition. -/
@[simp] theorem extensions_merge (t : Table σ) (e : Extension σ) :
    (t.merge e).extensions = t.extensions ++ [e.name] := rfl

/-- Adds an extension, or refuses it as a whole. -/
def register (t : Table σ) (e : Extension σ) : Except BuildError (Table σ) :=
  match t.check e with
  | .ok () => .ok (t.merge e)
  | .error err => .error err

end Table

namespace Extension

variable {σ : Type}

/-- Declares a format for a kind. -/
def withFormat (e : Extension σ) (kind : Kind) (format : String) : Extension σ :=
  { e with formats := e.formats ++ [(kind, format)] }

/-- Declares a named builder. -/
def withBuilder (e : Extension σ) (name : String) (b : Builder σ) : Extension σ :=
  { e with builders := e.builders ++ [(name, b)] }

/-- Adds a handler for the nodes of a kind, or of a kind and format. -/
def withHandler (e : Extension σ) (kind : Kind) (format : Option String) (h : Handler) :
    Extension σ :=
  { e with handlers := e.handlers ++ [⟨kind, format, h⟩] }

/-- Adds a named extend hook. -/
def withHook (e : Extension σ) (name : String) (h : ExtendHook σ) : Extension σ :=
  { e with hooks := e.hooks ++ [(name, h)] }

end Extension

end Conform
