import Conform.Config.Basic
import Conform.Json.Reader

/-!
# Reading a configuration from text

Reads a configuration straight from JSON text, so that every error has a place.  A text is read
from left to right and the first error ends it; an error about the meaning of a value is placed
where reading has come to by then.
-/

namespace Conform.Config

open Text Numeral

/-- What is left of a text, with the line and column reached.  Columns count bytes from the last
line break on. -/
structure Cursor where
  rest : List Char
  line : Nat := 1
  column : Nat := 0

/-- Reading from a cursor; an error leaves the cursor where it arose. -/
abbrev Scanner := ExceptT ConfigError (StateM Cursor)

namespace Scanner

/-- Fails with a problem that has no place yet. -/
def raise {α : Type} (p : ConfigProblem) : Scanner α :=
  throw ⟨p, none⟩

def peek : Scanner (Option Char) := do
  return (← get).rest.head?

def take : Scanner Unit :=
  modify fun c =>
    match c.rest with
    | [] => c
    | '\n' :: rest => { rest, line := c.line + 1, column := 0 }
    | d :: rest => { c with rest, column := c.column + d.utf8Size }

/-- Takes characters while they pass a test. -/
def takeWhile (p : Char → Bool) : Scanner (List Char) := do
  let ds := (← get).rest.takeWhile p
  for _ in ds do take
  return ds

/-- Skips spaces and looks at the next character. -/
def peekToken : Scanner (Option Char) := do
  let _ ← takeWhile Json.isSpace
  peek

/-- Fails at the place reached. -/
def failHere {α : Type} (reason : String) : Scanner α := do
  let c ← get
  throw ⟨.malformed reason, some (c.line, c.column)⟩

/-- The place just after the first byte of the next character. -/
def nextPlace (c : Cursor) : Nat × Nat :=
  match c.rest with
  | [] => (c.line, c.column)
  | '\n' :: _ => (c.line + 1, 0)
  | _ => (c.line, c.column + 1)

def failNext {α : Type} (reason : String) : Scanner α := do
  throw ⟨.malformed reason, some (nextPlace (← get))⟩

/-- Gives an error without a place the place reached. -/
def placed {α : Type} (s : Scanner α) : Scanner α :=
  tryCatch s fun e => do
    let c ← get
    throw { e with place := e.place <|> some (c.line, c.column) }

/-- Reads something and what closes it.  What closes it is also tried after an error, which moves
the place that the error will get. -/
def closedBy {α : Type} (body : Scanner α) (close : Scanner Unit) : Scanner α := do
  let outcome : Except ConfigError α ← tryCatch (body.map .ok) fun e => return .error e
  let closing : Except ConfigError Unit ← tryCatch (close.map .ok) fun e => return .error e
  match outcome, closing with
  | .ok a, .ok () => return a
  | .error e, _ => throw e
  | _, .error e => throw e

def word : List Char → Scanner Unit
  | [] => return
  | c :: cs => do
    match ← peek with
    | none => failHere "EOF while parsing a value"
    | some d => if d = c then take else failNext "expected ident"
    word cs

/-- The place after so many bytes from a place on, which may lie inside a character; nothing when
the text has fewer. -/
def placeAfter? (line column bytes : Nat) (cs : List Char) : Option (Nat × Nat) :=
  if bytes = 0 then some (line, column)
  else
    match cs with
    | [] => none
    | '\n' :: rest => placeAfter? (line + 1) 0 (bytes - 1) rest
    | c :: rest =>
      if c.utf8Size ≤ bytes then placeAfter? line (column + c.utf8Size) (bytes - c.utf8Size) rest
      else some (line, column + bytes)

/-- Reads four hexadecimal digits.  The four bytes where they should be are taken together, so an
error is placed after them. -/
def hexQuad : Scanner Nat := do
  let c ← get
  match placeAfter? c.line c.column 4 c.rest with
  | none =>
    let _ ← takeWhile fun _ => true
    failHere "EOF while parsing a string"
  | some place =>
    let ds := c.rest.take 4
    match ds with
    | [w, x, y, z] =>
      match Json.hexQuad? w x y z with
      | some n =>
        for _ in ds do take
        return n
      | none => throw ⟨.malformed "invalid escape", some place⟩
    | _ => throw ⟨.malformed "invalid escape", some place⟩

/-- Takes a character that has to come next in an escape. -/
def escapePart (c : Char) : Scanner Unit := do
  match ← peek with
  | none => failHere "EOF while parsing a string"
  | some d => if d = c then take else failNext "unexpected end of hex escape"

/-- Reads the code of an escape, with the second half of a surrogate pair where it needs one. -/
def codeEscape : Scanner Char := do
  let n ← hexQuad
  if 0xDC00 ≤ n ∧ n ≤ 0xDFFF then failHere "lone leading surrogate in hex escape"
  else if 0xD800 ≤ n ∧ n ≤ 0xDBFF then
    escapePart '\\'
    escapePart 'u'
    let low ← hexQuad
    if 0xDC00 ≤ low ∧ low ≤ 0xDFFF then return Json.pairChar n low
    else failHere "lone leading surrogate in hex escape"
  else return Char.ofNat n

/-- Reads an escape after its backslash. -/
def escape : Scanner Char := do
  match ← peek with
  | none => failHere "EOF while parsing a string"
  | some 'u' => take; codeEscape
  | some c =>
    match Json.simpleEscape? c with
    | some d => take; return d
    | none => failNext "invalid escape"

/-- Reads the characters of a string up to its closing quote, latest first in `read`. -/
def stringBody : Nat → List Char → Scanner String
  | 0, _ => failHere "EOF while parsing a string"
  | fuel + 1, read => do
    match ← peek with
    | none => failHere "EOF while parsing a string"
    | some '"' => take; return String.ofList read.reverse
    | some '\\' =>
      take
      stringBody fuel ((← escape) :: read)
    | some c =>
      if c.toNat < 0x20 then
        failNext "control character (\\u0000-\\u001F) found while parsing a string"
      else
        take
        stringBody fuel (c :: read)

def string : Scanner String := do
  take
  stringBody ((← get).rest.length + 1) []

/-- Reads the fraction of a number after its point. -/
def fraction : Scanner (List Char) := do
  match ← takeWhile isDigit with
  | [] =>
    match ← peek with
    | some _ => failNext "invalid number"
    | none => failNext "EOF while parsing a value"
  | ds => return ds

/-- The largest exponent that is read to its end. -/
def maxExponent : Nat := 2147483647

/-- Fails at the first digit that makes an exponent larger than `maxExponent`, where the digits
begin at a given place. -/
def checkExponent (start : Cursor) (ds : List Char) : Scanner Unit :=
  match (List.range (ds.length + 1)).find? fun n => maxExponent < decimalValue (ds.take n) with
  | some n => throw ⟨.malformed "number out of range", some (start.line, start.column + n)⟩
  | none => return

/-- Reads the exponent of a number after its letter.  The exponent of a zero, and a negative one,
can be of any size. -/
def exponent (isZero : Bool) : Scanner Int := do
  let sign ← peek
  if sign = some '+' ∨ sign = some '-' then take
  let start ← get
  let digits ← takeWhile isDigit
  if sign ≠ some '-' ∧ !isZero then checkExponent start digits
  match digits with
  | [] =>
    match ← peek with
    | some _ => failNext "invalid number"
    | none => failHere "EOF while parsing a value"
  | ds => return if sign = some '-' then -(decimalValue ds : Int) else decimalValue ds

def wholePart : Scanner (List Char) := do
  match ← peek with
  | none => failHere "EOF while parsing a value"
  | some '0' =>
    take
    if (← peek).any isDigit then failNext "invalid number"
    return ['0']
  | some _ =>
    match ← takeWhile isDigit with
    | [] => failNext "invalid number"
    | ds => return ds

def number : Scanner Number := do
  let negative := (← peek) == some '-'
  if negative then take
  let whole ← wholePart
  let frac ← (do if (← peek) = some '.' then take; return some (← fraction) else return none)
  let letter ← peek
  let isZero := decimalValue (whole ++ frac.getD []) = 0
  let exp ← (do
    if letter = some 'e' ∨ letter = some 'E' then take; return some (← exponent isZero)
    else return none)
  match Json.numberOf? negative whole frac exp with
  | some n => return n
  | none => failHere "number out of range"

/-- Fails because the value that comes next is not what is expected.  The value is read as far as
is needed to name it. -/
def unexpected {α : Type} (expected : String) : Scanner α := do
  let v : Json ← (do
    match ← peek with
    | some 'n' => take; word ['u', 'l', 'l']; return .null
    | some 't' => take; word ['r', 'u', 'e']; return .bool true
    | some 'f' => take; word ['a', 'l', 's', 'e']; return .bool false
    | some '"' => return .str (← string)
    | some '[' => return .arr []
    | some '\x7b' => return .obj []
    | some c => if c = '-' || isDigit c then return .num (← number) else failNext "expected value"
    | none => failNext "expected value")
  raise (.unexpected v expected)

/-- Fails where a value is missing at the end of the text. -/
def endOfText {α : Type} : Scanner α :=
  failNext "EOF while parsing a value"

def closeArray : Scanner Unit := do
  match ← peekToken with
  | some ']' => take
  | some ',' =>
    take
    match ← peekToken with
    | some ']' => failNext "trailing comma"
    | _ => failNext "trailing characters"
  | some _ => failNext "trailing characters"
  | none => failNext "EOF while parsing a list"

def closeObject : Scanner Unit := do
  match ← peekToken with
  | some '\x7d' => take
  | some ',' => failNext "trailing comma"
  | some _ => failNext "trailing characters"
  | none => failNext "EOF while parsing an object"

/-- Goes on to the next item of an array, if there is one. -/
def nextItem (first : Bool) : Scanner Bool := do
  match ← peekToken with
  | none => failNext "EOF while parsing a list"
  | some ']' => return false
  | some c =>
    if first then return true
    else if c = ',' then
      take
      match ← peekToken with
      | some ']' => failNext "trailing comma"
      | some _ => return true
      | none => endOfText
    else failNext "expected `,` or `]`"

/-- Goes on to the next key of an object, if there is one. -/
def nextKey (first : Bool) : Scanner Bool := do
  match ← peekToken with
  | none => failNext "EOF while parsing an object"
  | some '\x7d' => return false
  | some c =>
    if first then
      if c = '"' then return true else failNext "key must be a string"
    else if c = ',' then
      take
      match ← peekToken with
      | some '"' => return true
      | some '\x7d' => failNext "trailing comma"
      | some _ => failNext "key must be a string"
      | none => endOfText
    else failNext "expected `,` or `\x7d`"

/-- Skips the colon after a key. -/
def colon : Scanner Unit := do
  match ← peekToken with
  | some ':' => take
  | some _ => failNext "expected `:`"
  | none => failNext "EOF while parsing an object"

variable {α : Type}

/-- Reads the items of an array as those of the names, in order; further ones stay. -/
def items (item : Scanner α) (first : Bool) : List String → Scanner (Fields α)
  | [] => return []
  | name :: names => do
    if ← nextItem first then
      let a ← item
      return (name, a) :: (← items item false names)
    else return []

/-- Reads the entries of an object, each name at most once; the entries so far are in `read`,
latest first. -/
def entries (names : List String) (item : Scanner α) :
    Nat → Bool → Fields α → Scanner (Fields α)
  | 0, _, read => return read
  | fuel + 1, first, read => do
    if ← nextKey first then
      let name ← string
      if !names.contains name then raise (.unknownField name names)
      if read.contains name then raise (.repeatedField name)
      colon
      let a ← item
      entries names item fuel false ((name, a) :: read)
    else return read

/-- Reads a record: an object with some of the names, or an array of at most as many values. -/
def record (expected : String) (names : List String) (item : Scanner α) :
    Scanner (Fields α) := do
  match ← peekToken with
  | none => endOfText
  | some '[' => placed (do take; closedBy (items item true names) closeArray)
  | some '\x7b' => placed (do
      take
      closedBy (entries names item (names.length + 1) true []) closeObject)
  | some _ => placed (unexpected expected)

def flag : Scanner Bool := do
  match ← peekToken with
  | none => endOfText
  | some 't' => take; word ['r', 'u', 'e']; return true
  | some 'f' => take; word ['a', 'l', 's', 'e']; return false
  | some _ => placed (unexpected flagExpected)

/-- Reads a configuration and nothing after it. -/
def config : Scanner Config := do
  let fs ← record expected Config.names
    (do return Defaults.ofFields (← record Defaults.expected Defaults.names flag))
  match ← peekToken with
  | none => return ofFields fs
  | some _ => failNext "trailing characters"

end Scanner

/-- Reads a configuration from JSON text. -/
def ofText (s : String) : Except ConfigError Config :=
  (Scanner.config.run { rest := s.toList }).1

end Conform.Config
