import Conform.Context
import Conform.Json.Reader
import Conform.Standard.Constraints

/-!
# The standard context

The extension with a builder for every kind and the coercions of the kinds, and the context that has
it together with the bounds and patterns.  A coercion makes a value one of another type; it answers
nothing when it has nothing to change or does not know how.
-/

namespace Conform.Coercion

open Text Numeral

/-- A text that is a signed 64-bit whole number or a decimal numeral becomes that number. -/
def toNumber : Json → Option Json
  | .str s =>
    let cs := trim s.toList
    ((int64Of? cs).map Json.ofInt) <|>
      ((Numeral.ofText? cs).bind Numeral.toDouble?).map Json.ofDouble
  | _ => none

/-- A text that is a signed 64-bit whole number, or a numeral or double with a whole value,
becomes that whole number. -/
def toInteger : Json → Option Json
  | .str s =>
    let cs := trim s.toList
    ((int64Of? cs) <|>
      ((Numeral.ofText? cs).bind Numeral.toDouble?).bind Double.toInt?).map Json.ofInt
  | .num (.float x) => x.toInt?.map Json.ofInt
  | _ => none

/-- The usual texts and numbers for truth values become them. -/
def toBoolean : Json → Option Json
  | .str s =>
    let s := String.ofList ((trim s.toList).map lowerAscii)
    if s = "true" ∨ s = "1" then some (.bool true)
    else if s = "false" ∨ s = "0" then some (.bool false)
    else none
  | .num n =>
    match n.toInt64? with
    | some 1 => some (.bool true)
    | some 0 => some (.bool false)
    | _ => none
  | _ => none

/-- A text that reads as a date, or a number of milliseconds, becomes the canonical text. -/
def toDate : Json → Option Json
  | .str s =>
    match Instant.lenient? s with
    | some t => if t.text = s then none else some (.str t.text)
    | none => none
  | .num n => (n.toInt64?.bind Instant.ofMillis?).map fun t => .str t.text
  | _ => none

/-- A text that is JSON for a value of the kind becomes that value. -/
def ofJsonText (kind : Kind) : Json → Option Json
  | .str s => (Json.parse? s).filter kind.accepts
  | _ => none

end Conform.Coercion

namespace Conform

namespace Standard

/-- A handler that coerces by the value alone. -/
def coercion (f : Json → Option Json) : Handler :=
  .coerce fun _ v => f v.current

def coreTypes : Extension Schema :=
  { name := "core-types"
    builders := Kind.all.map fun k => (k.name, { kind := k })
    handlers :=
      [⟨.number, none, coercion Coercion.toNumber⟩,
        ⟨.integer, none, coercion Coercion.toInteger⟩,
        ⟨.boolean, none, coercion Coercion.toBoolean⟩,
        ⟨.date, none, coercion Coercion.toDate⟩,
        ⟨.object, none, coercion (Coercion.ofJsonText .object)⟩,
        ⟨.array, none, coercion (Coercion.ofJsonText .array)⟩] }

/-- The extensions of the standard context, in order. -/
def extensions : List (Extension Schema) :=
  [coreTypes, constraints]

/-- The capabilities of the standard context. -/
def table : Table Schema :=
  extensions.foldl Table.merge {}

end Standard

/-- A context with the core types and the bounds. -/
def Context.standard : Context :=
  ofExtensions Standard.extensions

end Conform
