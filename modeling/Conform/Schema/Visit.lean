import Conform.Issue

/-!
# Visits

The state of one validation call at one node: the value there, which may be undefined, the value
the call began with, the place and the issues found so far.  Undefined and `null` are different.
-/

namespace Conform

/-- The state of a validation call at one node. -/
structure Visit where
  value : Option Json
  root : Json
  path : Path
  issues : List Issue

namespace Visit

/-- The state at the start of a call. -/
def start (input : Option Json) : Visit :=
  { value := input, root := input.getD .null, path := [], issues := [] }

/-- The value, with undefined read as `null`. -/
def current (v : Visit) : Json :=
  v.value.getD .null

/-- Whether no issue was found. -/
def conforms (v : Visit) : Bool :=
  v.issues.isEmpty

/-- The state with another value. -/
def set (v : Visit) (value : Json) : Visit :=
  { v with value := some value }

/-- Records a violation at this place. -/
def push (v : Visit) (violation : Violation) : Visit :=
  { v with issues := v.issues ++ [.ofViolation v.path violation] }

/-- The state at a child: the same root, a longer path and no issues yet. -/
def descend (v : Visit) (segment : Segment) (value : Option Json) : Visit :=
  { value, root := v.root, path := v.path ++ [segment], issues := [] }

/-- The value under a chain of transforms, each of which sees what the one before it left.  A
transform without an answer keeps the value. -/
def transform (fs : List (Visit → Option Json)) (v : Visit) : Visit :=
  fs.foldl (fun v f => ((f v).map v.set).getD v) v

@[simp] theorem current_set (v : Visit) (x : Json) : (v.set x).current = x := rfl

@[simp] theorem root_descend (v : Visit) (s : Segment) (x : Option Json) :
    (v.descend s x).root = v.root := rfl

@[simp] theorem transform_nil (v : Visit) : v.transform [] = v := rfl

/-- The first transform runs first, and the others see what it left. -/
theorem transform_cons (f : Visit → Option Json) (fs : List (Visit → Option Json)) (v : Visit) :
    v.transform (f :: fs) = (((f v).map v.set).getD v).transform fs := rfl

/-- The JSON form of a finished validation; an undefined value is left out. -/
def toJson (v : Visit) : Json :=
  .obj ([("conforms", .bool v.conforms)] ++ Issue.optionalField "value" v.value ++
    [("errors", .arr (v.issues.map Issue.toJson))])

/-- The compact JSON text of a finished validation, written field by field. -/
def encode (v : Visit) : List Char :=
  '\x7b' :: (Json.writeString "conforms" ++ ':' ::
    ((if v.conforms then "true" else "false").toList ++ Issue.encodeOptional "value" v.value ++
      ',' :: (Json.writeString "errors" ++ ':' :: '[' ::
        (List.intercalate [','] (v.issues.map Issue.encode) ++ [']', '\x7d']))))

/-- The value of a conforming validation, or all its issues as one error.  An undefined value
reads as `null`. -/
def toExcept (v : Visit) : Except AggregateError Json :=
  if v.conforms then .ok v.current else .error ⟨v.issues⟩

end Visit

end Conform
