import Conform.BuildError
import Conform.Defaults
import Conform.Json.Writer

/-!
# Configuration

A configuration as JSON: an object with the flags under `defaults`, all of them optional.  An
array may stand for an object; it gives the values of the fields in order.
-/

namespace Conform

/-- What is wrong with a configuration. -/
inductive ConfigProblem where
  | unexpected (found : Json) (expected : String)
  | unknownField (name : String) (known : List String)
  | repeatedField (name : String)
  | tooManyItems (count : Nat)
  | malformed (reason : String)

/-- A problem, and its line and column when the configuration is a text. -/
structure ConfigError where
  problem : ConfigProblem
  place : Option (Nat × Nat) := none

namespace ConfigProblem

def message : ConfigProblem → String
  | .unexpected found expected => found.unexpectedMessage expected
  | .unknownField name known =>
    "unknown field " ++ Text.tick name ++ ", expected " ++ Text.alternatives known
  | .repeatedField name => "duplicate field " ++ Text.tick name
  | .tooManyItems count =>
    "invalid length " ++ toString count ++ ", expected fewer elements in array"
  | .malformed reason => reason

end ConfigProblem

namespace ConfigError

/-- An error in words, with its place. -/
def message (e : ConfigError) : String :=
  e.problem.message ++
    match e.place with
    | some (line, column) => " at line " ++ toString line ++ " column " ++ toString column
    | none => ""

def toBuildError (e : ConfigError) : BuildError :=
  .config e.message

end ConfigError

/-- What is expected where the flags stand. -/
def Defaults.expected : String := "struct ModelDefaults"

namespace Config

/-- What is expected where a configuration stands. -/
def expected : String := "struct ContextConfig"

def flagExpected : String := "a boolean"

variable {α : Type}

/-- Reads the entries of a record from those of an object, in order. -/
def entriesOfJson (names : List String) (item : Json → Except ConfigError α) :
    Fields Json → Except ConfigError (Fields α)
  | [] => .ok []
  | (name, v) :: rest =>
    if names.contains name then do
      let a ← item v
      let fs ← entriesOfJson names item rest
      return (name, a) :: fs
    else .error ⟨.unknownField name names, none⟩

/-- Reads the values of an array as those of the names, in order. -/
def itemsOfJson (item : Json → Except ConfigError α) :
    List String → List Json → Except ConfigError (Fields α)
  | name :: names, v :: rest => do
    let a ← item v
    let fs ← itemsOfJson item names rest
    return (name, a) :: fs
  | _, _ => .ok []

/-- Reads a record: an object with some of the names, or an array of at most as many values. -/
def recordOfJson (expected : String) (names : List String) (item : Json → Except ConfigError α) :
    Json → Except ConfigError (Fields α)
  | .obj fields => entriesOfJson names item (Fields.distinct fields)
  | .arr items => do
    let fs ← itemsOfJson item names items
    if items.length ≤ names.length then return fs
    else throw ⟨.tooManyItems items.length, none⟩
  | v => .error ⟨.unexpected v expected, none⟩

def flagOfJson : Json → Except ConfigError Bool
  | .bool b => .ok b
  | v => .error ⟨.unexpected v flagExpected, none⟩

def defaultsOfJson (v : Json) : Except ConfigError Defaults :=
  (recordOfJson Defaults.expected Defaults.names flagOfJson v).map Defaults.ofFields

/-- Reads a configuration from its JSON form. -/
def ofJson (v : Json) : Except ConfigError Config :=
  (recordOfJson expected names defaultsOfJson v).map ofFields

end Config

end Conform
