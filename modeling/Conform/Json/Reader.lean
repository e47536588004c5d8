import Conform.Json.Basic

/-!
# Reading JSON text

Reads a whole text as one value.  Objects take a repeated name at its first place with its last
value, arrays and objects nest at most `maxDepth` deep, and a number too large for a double is
refused.
-/

namespace Conform.Json

open Text Numeral

/-- How deep arrays and objects may nest. -/
def maxDepth : Nat := 127

/-- Reads something at the start of a text and returns what follows it. -/
abbrev Reader (α : Type) := List Char → Option (α × List Char)

/-- Whether a character may stand between tokens. -/
def isSpace (c : Char) : Bool :=
  c == ' ' || c == '\n' || c == '\t' || c == '\r'

/-- The text after the spaces at its start. -/
def skipSpace (cs : List Char) : List Char :=
  cs.dropWhile isSpace

/-- The number written by four hexadecimal digits. -/
def hexQuad? (a b c d : Char) : Option Nat := do
  return ((← hexValue? a) * 16 + (← hexValue? b)) * 256 + (← hexValue? c) * 16 + (← hexValue? d)

/-- The character after a backslash stands for. -/
def simpleEscape? (c : Char) : Option Char :=
  if c = '"' ∨ c = '\\' ∨ c = '/' then some c
  else if c = 'b' then some '\x08'
  else if c = 'f' then some '\x0c'
  else if c = 'n' then some '\n'
  else if c = 'r' then some '\r'
  else if c = 't' then some '\t'
  else none

def pairChar (high low : Nat) : Char :=
  Char.ofNat (0x10000 + (high - 0xD800) * 0x400 + (low - 0xDC00))

/-- Reads the characters of a string up to its closing quote.  `high` is the first half of a
surrogate pair whose second half has to come next. -/
def stringBody (high : Option Nat) : Reader (List Char)
  | '"' :: rest => if high.isSome then none else some ([], rest)
  | '\\' :: 'u' :: a :: b :: c :: d :: rest => do
    let n ← hexQuad? a b c d
    match high with
    | some h =>
      if 0xDC00 ≤ n ∧ n ≤ 0xDFFF then
        let (s, rest) ← stringBody none rest
        return (pairChar h n :: s, rest)
      else none
    | none =>
      if 0xDC00 ≤ n ∧ n ≤ 0xDFFF then none
      else if 0xD800 ≤ n ∧ n ≤ 0xDBFF then stringBody (some n) rest
      else
        let (s, rest) ← stringBody none rest
        return (Char.ofNat n :: s, rest)
  | '\\' :: c :: rest =>
    if high.isSome then none
    else do
      let c ← simpleEscape? c
      let (s, rest) ← stringBody none rest
      return (c :: s, rest)
  | c :: rest =>
    if high.isSome ∨ c = '\\' ∨ c.toNat < 0x20 then none
    else do
      let (s, rest) ← stringBody none rest
      return (c :: s, rest)
  | [] => none

def quoted : Reader String
  | '"' :: rest => do
    let (s, rest) ← stringBody none rest
    return (String.ofList s, rest)
  | _ => none

/-- Reads the whole part of a number: one zero, or digits that begin with another one. -/
def wholePart : Reader (List Char)
  | '0' :: rest => if (splitDigits rest).1 = [] then some (['0'], rest) else none
  | cs => match splitDigits cs with
    | ([], _) => none
    | split => some split

/-- Reads the fraction of a number, if there is one: a point and at least one digit. -/
def fractionPart : Reader (Option (List Char))
  | '.' :: cs => match splitDigits cs with
    | ([], _) => none
    | (ds, rest) => some (some ds, rest)
  | cs => some (none, cs)

/-- Reads the exponent of a number, if there is one. -/
def exponentPart : Reader (Option Int)
  | [] => some (none, [])
  | c :: cs =>
    if c = 'e' ∨ c = 'E' then
      let (negative, cs) := splitSign cs
      match splitDigits cs with
      | ([], _) => none
      | (ds, rest) =>
        some (some (if negative then -(decimalValue ds : Int) else decimalValue ds), rest)
    else some (none, c :: cs)

/-- Reads digits on from a number as long as it fits 64 bits, and returns the digits that are
left. -/
def significand (n : Nat) : List Char → Nat × List Char
  | [] => (n, [])
  | d :: ds =>
    let next := 10 * n + digitValue d
    if next < 18446744073709551616 then significand next ds else (n, d :: ds)

/-- The double nearest to a power of ten, for exponents up to 308. -/
def powerOfTen (e : Nat) : Double :=
  (Double.ofDecimal? false 1 e).getD default

/-- A double times a power of ten, by one product or by quotients.  Each of them rounds, so that the
result need not be the nearest double. -/
def scaled? (x : Double) (e : Int) : Option Double :=
  if e.natAbs ≤ 308 then
    if 0 ≤ e then x.mul? (powerOfTen e.natAbs) else x.div? (powerOfTen e.natAbs)
  else if x.significand = 0 then some x
  else if 0 ≤ e then none
  else (x.div? (powerOfTen 308)).bind fun y => scaled? y (e + 308)
termination_by e.natAbs

/-- The number with the given parts.  Without fraction and exponent it is a whole number where
it can be one, except for a zero with a minus sign.  Of the digits of a double the first ones count,
as many as fit 64 bits; those after them only count for the place of the point. -/
def numberOf? (negative : Bool) (whole : List Char) (fraction : Option (List Char))
    (exponent : Option Int) : Option Number :=
  let decimals := fraction.getD []
  let (n, more) := significand 0 whole
  let (n, ignored) := significand n decimals
  let shift : Int := more.length + ignored.length - decimals.length
  let float := (scaled? (Double.ofInt n) (exponent.getD 0 + shift)).map fun x =>
    Number.float { x with negative }
  if fraction.isSome ∨ exponent.isSome ∨ more ≠ [] ∨ (negative ∧ n = 0) then float
  else Number.ofInt? (if negative then -(n : Int) else n) <|> float

/-- Splits an optional minus sign off. -/
def splitMinus : List Char → Bool × List Char
  | '-' :: cs => (true, cs)
  | cs => (false, cs)

def number : Reader Number := fun cs => do
  let (negative, cs) := splitMinus cs
  let (whole, cs) ← wholePart cs
  let (fraction, cs) ← fractionPart cs
  let (exponent, cs) ← exponentPart cs
  return (← numberOf? negative whole fraction exponent, cs)

/-- Reads values with commas between them up to a closing bracket.  Every value takes at least
one character, so the length of the text bounds their number. -/
def itemsWith (item : Reader Json) : Nat → Reader (List Json)
  | 0, _ => none
  | fuel + 1, cs => do
    let (v, cs) ← item cs
    match skipSpace cs with
    | ']' :: rest => return ([v], rest)
    | ',' :: rest =>
      let (vs, rest) ← itemsWith item fuel rest
      return (v :: vs, rest)
    | _ => none

/-- Reads what follows the opening bracket of an array. -/
def arrayWith (item : Reader Json) : Reader Json := fun cs =>
  match skipSpace cs with
  | ']' :: rest => some (.arr [], rest)
  | _ => do
    let (vs, rest) ← itemsWith item cs.length cs
    return (.arr vs, rest)

/-- Reads entries with commas between them up to a closing brace. -/
def entriesWith (item : Reader Json) : Nat → Reader (List (String × Json))
  | 0, _ => none
  | fuel + 1, cs => do
    let (name, cs) ← quoted (skipSpace cs)
    match skipSpace cs with
    | ':' :: cs =>
      let (v, cs) ← item cs
      match skipSpace cs with
      | '\x7d' :: rest => return ([(name, v)], rest)
      | ',' :: rest =>
        let (es, rest) ← entriesWith item fuel rest
        return ((name, v) :: es, rest)
      | _ => none
    | _ => none

/-- Reads what follows the opening brace of an object. -/
def objectWith (item : Reader Json) : Reader Json := fun cs =>
  match skipSpace cs with
  | '\x7d' :: rest => some (.obj [], rest)
  | _ => do
    let (es, rest) ← entriesWith item cs.length cs
    return (.obj (Fields.ofEntries es), rest)

/-- Reads a value whose items are read by `nested`; without it, arrays and objects are refused. -/
def valueWith (nested : Option (Reader Json)) : Reader Json := fun cs =>
  match skipSpace cs with
  | 'n' :: 'u' :: 'l' :: 'l' :: rest => some (.null, rest)
  | 't' :: 'r' :: 'u' :: 'e' :: rest => some (.bool true, rest)
  | 'f' :: 'a' :: 'l' :: 's' :: 'e' :: rest => some (.bool false, rest)
  | '"' :: rest => do
    let (s, rest) ← stringBody none rest
    return (.str (String.ofList s), rest)
  | '[' :: rest => nested.bind (arrayWith · rest)
  | '\x7b' :: rest => nested.bind (objectWith · rest)
  | cs => do
    let (n, rest) ← number cs
    return (.num n, rest)

/-- Reads a value that nests at most `depth` deep. -/
def value : Nat → Reader Json
  | 0 => valueWith none
  | depth + 1 => valueWith (some (value depth))

def parse? (s : String) : Option Json := do
  let (v, rest) ← value maxDepth s.toList
  if skipSpace rest = [] then some v else none

end Conform.Json
