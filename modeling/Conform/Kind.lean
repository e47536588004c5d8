import Conform.Date.Reader
import Conform.Json.Basic
import Conform.Text.Words

/-!
# Kinds

The closed set of types a schema node can declare, and which values have them.
-/

namespace Conform

/-- The type that a schema node declares. -/
inductive Kind where
  | any
  | object
  | array
  | string
  | number
  | integer
  | boolean
  | date
  deriving DecidableEq, Inhabited

namespace Kind

/-- Every kind, in order of declaration. -/
def all : List Kind :=
  [.any, .object, .array, .string, .number, .integer, .boolean, .date]

/-- The name of a kind, which is also the name of its builder. -/
def name : Kind → String
  | .any => "any"
  | .object => "object"
  | .array => "array"
  | .string => "string"
  | .number => "number"
  | .integer => "integer"
  | .boolean => "boolean"
  | .date => "date"

def dumpName : Kind → String
  | .any => "Any"
  | .object => "Object"
  | .array => "Array"
  | .string => "String"
  | .number => "Number"
  | .integer => "Integer"
  | .boolean => "Boolean"
  | .date => "Date"

def ofName? (s : String) : Option Kind :=
  all.find? fun k => k.name == s

def unknownMessage (s : String) : String :=
  "unknown variant " ++ Text.tick s ++ ", expected " ++ Text.alternatives (all.map name)

/-- Whether nodes of the kind may have children. -/
def isComposite : Kind → Bool
  | .object | .array => true
  | _ => false

/-- Whether a value has the type of the kind.  `null` has no kind, and a date is a string that
reads as an RFC 3339 date-time. -/
def accepts : Kind → Json → Bool
  | .any, .null => false
  | .any, _ => true
  | .object, .obj _ => true
  | .array, .arr _ => true
  | .string, .str _ => true
  | .number, .num _ => true
  | .integer, .num (.int ..) => true
  | .boolean, .bool _ => true
  | .date, .str s => (Instant.rfc3339? s).isSome
  | _, _ => false

/-- `null` has no kind. -/
theorem accepts_null (k : Kind) : k.accepts .null = false := by
  cases k <;> rfl

theorem ofName?_name (k : Kind) : ofName? k.name = some k := by
  cases k <;> rfl

end Kind

end Conform
