import Conform.Schema.Basic

/-!
# Bounds and patterns

The extension that enforces the bounds attached to a node under `min` and `max`: of the value of
a number, the characters of a string or the items of an array.
-/

namespace Conform.Standard

/-- What a bound is compared with: a number, and the unit of a count. -/
structure Measure where
  amount : Double
  unit : Option String := none

/-- The bound attached under a name. -/
def bound? (t : Traits) (name : String) : Option Double :=
  (t.extra.get? name).bind Json.double?

/-- A bound in words: with its unit, where it has one. -/
def boundText (b : Double) (unit : Option String) : String :=
  match unit with
  | some u => Number.floatMessageText b ++ " " ++ u ++ (if b.same Double.one then "" else "s")
  | none => Number.floatMessageText b

/-- A bound in a violation; `null` where there is none. -/
def boundJson (b : Option Double) : Json :=
  (b.map .ofDouble).getD .null

/-- The violation of bounds, in words for people and as data. -/
def boundViolation (words : String) (least most : Option Double) (value : Json) : Violation :=
  { Violation.range words with
    expected := some (.obj [("min", boundJson least), ("max", boundJson most)])
    actual := some value }

/-- Compares a measure with the bounds of a node, the lower one first. -/
def checkBounds (t : Traits) (value : Json) (m : Measure) : Option Violation :=
  let least := bound? t "min"
  let most := bound? t "max"
  match least.filter fun b => m.amount.less b, most.filter fun b => b.less m.amount with
  | some b, _ => some (boundViolation ("must be at least " ++ boundText b m.unit) least most value)
  | none, some b =>
    some (boundViolation ("must be at most " ++ boundText b m.unit) least most value)
  | none, none => none

def checkRange (t : Traits) (v : Visit) : Option Violation :=
  v.current.double?.bind fun x => checkBounds t v.current { amount := x }

/-- Checks the characters of a string or the items of an array. -/
def checkLength (t : Traits) (v : Visit) : Option Violation :=
  match v.current with
  | .str s =>
    checkBounds t v.current { amount := Double.ofInt s.length, unit := some "character" }
  | .arr items =>
    checkBounds t v.current { amount := Double.ofInt items.length, unit := some "item" }
  | _ => none

/-- The handler that checks numbers by the bounds of their node. -/
def rangeCheck : Handler :=
  .validate fun x => checkRange x.toTraits

/-- The handler that checks strings and arrays by the bounds of their node. -/
def lengthCheck : Handler :=
  .validate fun x => checkLength x.toTraits

/-- The number that an extend hook was given. -/
def numberArgument (hook : String) (arg : Json) : Except BuildError Double :=
  match arg.double? with
  | some x => .ok x
  | none => .error (.invalidArgument hook ("expected a number, got " ++ arg.text))

/-- A hook that makes one call, where its argument is right for that. -/
def callHook (call : Json → Except BuildError (Edit (Ref Schema))) : ExtendHook Schema where
  script _ arg :=
    match call arg with
    | .ok e => .inOrder [.edit e]
    | .error err => .fail err

/-- The hook that attaches a lower bound. -/
def minHook : ExtendHook Schema :=
  callHook fun arg => (numberArgument "min" arg).map fun x => .min (some x)

/-- The hook that attaches an upper bound. -/
def maxHook : ExtendHook Schema :=
  callHook fun arg => (numberArgument "max" arg).map fun x => .max (some x)

/-- The hook that requires a pattern. -/
def patternHook : ExtendHook Schema :=
  callHook fun arg =>
    match arg with
    | .str source => .ok (.pattern source)
    | _ => .error (.invalidArgument "pattern" "expected a string")

def constraints : Extension Schema :=
  { name := "constraints"
    handlers :=
      [⟨.number, none, rangeCheck⟩, ⟨.integer, none, rangeCheck⟩, ⟨.string, none, lengthCheck⟩,
        ⟨.array, none, lengthCheck⟩]
    hooks := [("min", minHook), ("max", maxHook), ("pattern", patternHook)] }

end Conform.Standard
