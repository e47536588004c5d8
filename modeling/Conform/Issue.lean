import Conform.Path
import Conform.Text.Words

/-!
# Issues

What validation reports: a violation is what a check found, an issue is a violation at a place.
Issues have a one-line form for people and a JSON form for programs; the JSON text is also
written directly, without building the JSON form.
-/

namespace Conform

/-- The kind of a failure found while validating. -/
inductive IssueKind where
  | requiredValueMissing
  | typeMismatch
  | unexpectedProperty
  | formatViolation
  | rangeViolation
  | enumMembershipViolation
  | noApplicableOption
  | ruleViolation
  deriving DecidableEq, Inhabited

namespace IssueKind

def all : List IssueKind :=
  [.requiredValueMissing, .typeMismatch, .unexpectedProperty, .formatViolation, .rangeViolation,
    .enumMembershipViolation, .noApplicableOption, .ruleViolation]

/-- The name of a kind, as one word of capitalised parts. -/
def name : IssueKind → String
  | .requiredValueMissing => "RequiredValueMissing"
  | .typeMismatch => "TypeMismatch"
  | .unexpectedProperty => "UnexpectedProperty"
  | .formatViolation => "FormatViolation"
  | .rangeViolation => "RangeViolation"
  | .enumMembershipViolation => "EnumMembershipViolation"
  | .noApplicableOption => "NoApplicableOption"
  | .ruleViolation => "RuleViolation"

def code : IssueKind → String
  | .requiredValueMissing => "required_value_missing"
  | .typeMismatch => "type_mismatch"
  | .unexpectedProperty => "unexpected_property"
  | .formatViolation => "format_violation"
  | .rangeViolation => "range_violation"
  | .enumMembershipViolation => "enum_membership_violation"
  | .noApplicableOption => "no_applicable_option"
  | .ruleViolation => "rule_violation"

def ofCode? (s : String) : Option IssueKind :=
  all.find? fun k => k.code == s

end IssueKind

/-- What a check found, without the place. -/
structure Violation where
  kind : IssueKind
  message : String
  expected : Option Json := none
  actual : Option Json := none

namespace Violation

/-- A failed check of a named format. -/
def format (name : String) (actual : Json) : Violation :=
  { kind := .formatViolation, message := "must be a valid " ++ name,
    expected := some (.str name), actual := some actual }

/-- A failed check of a bound. -/
def range (message : String) : Violation :=
  { kind := .rangeViolation, message }

/-- A failed check of the caller's own. -/
def rule (message : String) : Violation :=
  { kind := .ruleViolation, message }

end Violation

/-- A failure at a place inside the validated value. -/
structure Issue where
  kind : IssueKind
  message : String
  path : Path
  actual : Option Json
  expected : Option Json

namespace Issue

def ofViolation (path : Path) (v : Violation) : Issue :=
  { kind := v.kind, message := v.message, path, actual := v.actual, expected := v.expected }

/-- The one-line form; the place is left out at the root. -/
def display (i : Issue) : String :=
  (if i.path = [] then "" else "[" ++ Path.display i.path ++ "] ") ++ i.kind.code ++ ": " ++
    i.message

def optionalField (name : String) (v : Option Json) : List (String × Json) :=
  (v.map fun v => (name, v)).toList

def toJson (i : Issue) : Json :=
  .obj ([("kind", .str i.kind.code), ("message", .str i.message),
    ("path", Path.toJson i.path)] ++
      optionalField "actual" i.actual ++ optionalField "expected" i.expected)

/-- The text of an optional field after other fields. -/
def encodeOptional (name : String) : Option Json → List Char
  | none => []
  | some v => ',' :: (Json.writeString name ++ ':' :: Json.write v)

/-- The compact JSON text, written field by field.  The kind is written by its name. -/
def encode (i : Issue) : List Char :=
  '\x7b' :: (Json.writeString "kind" ++ ':' :: (Json.writeString (Text.snakeCase i.kind.name) ++
    ',' :: (Json.writeString "message" ++ ':' :: (Json.writeString i.message ++
      ',' :: (Json.writeString "path" ++ ':' :: (Path.encode i.path ++
        encodeOptional "actual" i.actual ++ encodeOptional "expected" i.expected ++
          ['\x7d']))))))

end Issue

/-- All issues of one validation, as one error. -/
structure AggregateError where
  issues : List Issue

namespace AggregateError

def numberedLines (n : Nat) : List Issue → String
  | [] => ""
  | i :: rest => "\n  " ++ toString n ++ ". " ++ i.display ++ numberedLines (n + 1) rest

/-- The message: how many issues there are, and one numbered line each. -/
def message (e : AggregateError) : String :=
  "validation failed with " ++ toString e.issues.length ++ " issue(s):" ++
    numberedLines 1 e.issues

end AggregateError

end Conform
