import Conform.Fields
import Conform.Number.Basic

/-!
# JSON values

The value type of the library.  Objects keep the order of their entries, numbers keep the form
they were given in, and `Json.same` is the equality that looks through the order of entries.
-/

namespace Conform

/-- A JSON value.  The fields of an object are in insertion order, and their names differ in every
value that is read. -/
inductive Json where
  | null
  | bool (b : Bool)
  | num (n : Number)
  | str (s : String)
  | arr (items : List Json)
  | obj (fields : List (String × Json))

namespace Json

instance : Inhabited Json := ⟨.null⟩

def ofNat (n : Nat) : Json := .num (Number.ofNat n)

def ofInt (i : Int) : Json := .num (Number.ofInt i)

def ofDouble (x : Double) : Json := .num (.float x)

def text? : Json → Option String
  | .str s => some s
  | _ => none

def number? : Json → Option Number
  | .num n => some n
  | _ => none

/-- The double nearest to a numeric value. -/
def double? (v : Json) : Option Double :=
  v.number?.map Number.toDouble

/-- A numeric value as a signed 64-bit whole number. -/
def int64? (v : Json) : Option Int :=
  v.number?.bind Number.toInt64?

/-- The name of the type of a value.  Whole numbers in float form count as `number`. -/
def typeName : Json → String
  | .null => "null"
  | .bool _ => "boolean"
  | .num (.float _) => "number"
  | .num (.int ..) => "integer"
  | .str _ => "string"
  | .arr _ => "array"
  | .obj _ => "object"

mutual

/-- Equality of values: numbers by form and value, objects without regard to order. -/
def same : Json → Json → Bool
  | .null, .null => true
  | .bool a, .bool b => a == b
  | .num a, .num b => a.same b
  | .str a, .str b => a == b
  | .arr as, .arr bs => sameItems as bs
  | .obj fs, .obj gs =>
    (Fields.keys fs).length == (Fields.keys gs).length && sameFields [] fs gs
  | _, _ => false

/-- Equality of values item by item. -/
def sameItems : List Json → List Json → Bool
  | [], [] => true
  | a :: as, b :: bs => same a b && sameItems as bs
  | _, _ => false

/-- Whether every field of the first list whose name is not in `seen` has an equal value in the
second one. -/
def sameFields (seen : List String) : List (String × Json) → List (String × Json) → Bool
  | [], _ => true
  | (name, v) :: rest, gs =>
    (seen.contains name ||
      (match Fields.get? gs name with
        | some w => same v w
        | none => false)) &&
      sameFields (name :: seen) rest gs

end

/-- Equality of values in which numbers of different form, at the top, are compared by value. -/
def sameOption : Json → Json → Bool
  | .num a, .num b => a.sameValue b
  | a, b => same a b

end Json

end Conform
