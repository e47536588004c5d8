import Conform.Json.Writer

/-!
# Paths

The place of a node inside a value: object keys and array indices from the root inwards.  A path
has a dotted form for people and a JSON form for programs.
-/

namespace Conform

/-- One step into a value.  Arrays are lists of any length, so that an index is any number; where
its bytes count, it has to be an unsigned 64-bit number. -/
inductive Segment where
  | key (name : String)
  | index (i : Nat)
  deriving DecidableEq

/-- A place inside a value, from the root inwards. -/
abbrev Path := List Segment

/-- Why a JSON value is not the JSON form of a path. -/
inductive PathError where
  | notArray (v : Json)
  | notSegment

/-- Why a value is not the JSON form of a path, in words. -/
def PathError.message : PathError → String
  | .notArray v => v.unexpectedMessage "a sequence"
  | .notSegment => "data did not match any variant of untagged enum PathSegment"

namespace Segment

/-- A segment on its own: the key, or the index in brackets. -/
def display : Segment → String
  | .key name => name
  | .index i => "[" ++ toString i ++ "]"

def toJson : Segment → Json
  | .key name => .str name
  | .index i => Json.ofNat i

/-- The compact JSON text of a segment. -/
def encode : Segment → List Char
  | .key name => Json.writeString name
  | .index i => Nat.toDigits 10 i

/-- The segment with the given JSON form. -/
def ofJson? : Json → Option Segment
  | .str name => some (.key name)
  | .num n => n.toNat?.map .index
  | _ => none

end Segment

namespace Path

/-- The segments after the first: keys follow a dot, indices nothing. -/
def displayTail : Path → String
  | [] => ""
  | .key name :: rest => "." ++ name ++ displayTail rest
  | .index i :: rest => (Segment.index i).display ++ displayTail rest

/-- The dotted form, such as `items[2].name`. -/
def display : Path → String
  | [] => ""
  | s :: rest => s.display ++ displayTail rest

/-- The JSON form: an array of keys and indices. -/
def toJson (p : Path) : Json :=
  .arr (p.map Segment.toJson)

/-- The compact JSON text, written without building the JSON form. -/
def encode (p : Path) : List Char :=
  '[' :: (List.intercalate [','] (p.map Segment.encode) ++ [']'])

def ofJson : Json → Except PathError Path
  | .arr items => match items.mapM Segment.ofJson? with
    | some p => .ok p
    | none => .error .notSegment
  | v => .error (.notArray v)

end Path

end Conform
