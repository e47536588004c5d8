import Conform.Pattern.Error
import Conform.Pattern.Tree
import Conform.Text.Words

/-!
# Escapes of patterns

What a backslash and the characters after it stand for: a character, a class of characters or a
condition on a place.  A verbose pattern may hold blanks and comments between the characters of an
escape.
-/

namespace Conform.Pattern

open Text

/-- Something read at the start of a pattern, and what follows it. -/
abbrev AndRest (α : Type) := α × List Char

/-- Skips blanks and comments; `inComment` says that a comment has begun. -/
def skipBlanks (inComment : Bool) : List Char → List Char
  | [] => []
  | c :: rest =>
    if inComment then skipBlanks (c ≠ '\n') rest
    else if isBlank c then skipBlanks false rest
    else if c = '#' then skipBlanks true rest
    else c :: rest

/-- The part of a pattern that counts at a place: a verbose one may hold blanks and comments. -/
def skip (verbose : Bool) (cs : List Char) : List Char :=
  if verbose then skipBlanks false cs else cs

/-- Something that an escape or a single character can stand for. -/
inductive Primitive where
  | literal (l : Literal)
  | named (negated : Bool) (c : NamedClass)
  | sign (s : Sign)

/-- Whether a backslash before the character stands for the character itself. -/
def isEscapable (c : Char) : Bool :=
  c.toNat < 0x80 && !isAsciiLetter c && !isDigit c && c != '<' && c != '>'

/-- The character of a code in hexadecimal digits. -/
def charOfDigits (ds : List Char) : Except PatternError Char :=
  let code? := ds.foldlM (fun n d =>
    (hexValue? d).bind fun v => if n ≤ 0x10FFFF then some (16 * n + v) else none) 0
  match code? with
  | some n => if n.isValidChar then .ok (Char.ofNat n) else .error .badCharacterCode
  | none => .error .badCharacterCode

/-- Reads exactly so many characters, with what a verbose pattern may hold between them. -/
def takeSpaced (verbose : Bool) : Nat → List Char → Except PatternError (AndRest (List Char))
  | 0, cs => .ok ([], cs)
  | n + 1, cs =>
    match skip verbose cs with
    | [] => .error .badEscape
    | c :: rest => (takeSpaced verbose n rest).map fun (ds, rest) => (c :: ds, rest)

/-- Reads the characters up to a closing brace, without what a verbose pattern may hold between
them.  Every round takes at least one character, which bounds their number. -/
def takeBraced (verbose : Bool) : Nat → List Char → Except PatternError (AndRest (List Char))
  | 0, _ => .error .badEscape
  | fuel + 1, cs =>
    match skip verbose cs with
    | [] => .error .badEscape
    | '\x7d' :: rest => .ok ([], rest)
    | c :: rest => (takeBraced verbose fuel rest).map fun (ds, rest) => (c :: ds, rest)

/-- Reads a character code after its letter: so many digits, or any number of them in braces. -/
def readCode (verbose : Bool) (width : Nat) (cs : List Char) :
    Except PatternError (AndRest Literal) := do
  match skip verbose cs with
  | '\x7b' :: rest =>
    let (ds, rest) ← takeBraced verbose (rest.length + 1) rest
    if ds = [] then throw .badCharacterCode
    else return ({ char := ← charOfDigits ds }, rest)
  | cs =>
    let (ds, rest) ← takeSpaced verbose width cs
    return ({ char := ← charOfDigits ds, isByte := width = 2 }, rest)

/-- The name between the braces of a property, and whether it asks for all other characters: a
name, or a name and a value with `!=`, `:` or `=` between them, the first of these that there
is. -/
def propertyNameOf (cs : List Char) : PropertyName × Bool :=
  let text := String.ofList cs
  match text.splitOn "!=" with
  | name :: value :: more => (.valued name (String.intercalate "!=" (value :: more)), true)
  | _ =>
    let splitAt (sep : Char) : Option PropertyName :=
      let name := cs.takeWhile (· ≠ sep)
      match cs.drop name.length with
      | _ :: value => some (.valued (String.ofList name) (String.ofList value))
      | [] => none
    ((splitAt ':' <|> splitAt '=').getD (.alone text), false)

/-- Reads a property after its letter: one character, or a name in braces. -/
def readProperty (verbose negated : Bool) (cs : List Char) :
    Except PatternError (AndRest Primitive) :=
  match skip verbose cs with
  | [] | '\\' :: _ => .error .badEscape
  | '\x7b' :: rest =>
    (takeBraced verbose (rest.length + 1) rest).map fun (ds, rest) =>
      let (name, unequal) := propertyNameOf ds
      (.named (negated != unequal) (.property name), rest)
  | c :: rest => .ok (.named negated (.property (.alone (String.ofList [c]))), rest)

/-- The side of a word boundary of a name in braces. -/
def wordSide? : String → Option WordSide
  | "start" => some .start
  | "end" => some .stop
  | "start-half" => some .startHalf
  | "end-half" => some .stopHalf
  | _ => none

/-- Whether a character may stand in the name of a word boundary. -/
def isSideChar (c : Char) : Bool :=
  isAsciiLetter c || c == '-'

/-- Reads what may follow the escape of a word boundary: a name in braces.  Braces that begin
with anything but a letter or a hyphen belong to a repetition. -/
def readWordSide (verbose : Bool) (cs : List Char) : Except PatternError (AndRest WordSide) :=
  match cs with
  | '\x7b' :: rest =>
    match skip verbose rest with
    | [] => .error .unclosedCount
    | c :: rest' =>
      if isSideChar c then do
        let (name, rest) ← takeBraced verbose (rest.length + 1) (c :: rest')
        match wordSide? (String.ofList name) with
        | some side => return (side, rest)
        | none => throw .badEscape
      else .ok (.boundary, cs)
  | _ => .ok (.boundary, cs)

/-- Reads an escape after its backslash. -/
def readEscape (verbose : Bool) (cs : List Char) : Except PatternError (AndRest Primitive) :=
  let code (width : Nat) (rest : List Char) : Except PatternError (AndRest Primitive) :=
    (readCode verbose width rest).map fun (l, rest) => (.literal l, rest)
  let control (c : Char) (rest : List Char) : Except PatternError (AndRest Primitive) :=
    .ok (.literal { char := c }, rest)
  let shorthand (negated : Bool) (kind : Shorthand) (rest : List Char) :
      Except PatternError (AndRest Primitive) :=
    .ok (.named negated (.shorthand kind), rest)
  let sign (s : Sign) (rest : List Char) : Except PatternError (AndRest Primitive) :=
    .ok (.sign s, rest)
  match cs with
  | [] => .error .badEscape
  | c :: rest =>
    match c with
    | 'x' => code 2 rest
    | 'u' => code 4 rest
    | 'U' => code 8 rest
    | 'p' => readProperty verbose false rest
    | 'P' => readProperty verbose true rest
    | 'd' => shorthand false .digit rest
    | 's' => shorthand false .blank rest
    | 'w' => shorthand false .word rest
    | 'D' => shorthand true .digit rest
    | 'S' => shorthand true .blank rest
    | 'W' => shorthand true .word rest
    | 'a' => control '\x07' rest
    | 'f' => control '\x0c' rest
    | 't' => control '\t' rest
    | 'n' => control '\n' rest
    | 'r' => control '\r' rest
    | 'v' => control '\x0b' rest
    | 'A' => sign .textStart rest
    | 'z' => sign .textEnd rest
    | 'b' => (readWordSide verbose rest).map fun (side, rest) => (.sign (.word side), rest)
    | 'B' => sign (.word .inside) rest
    | '<' => sign (.word .start) rest
    | '>' => sign (.word .stop) rest
    | _ => if isEscapable c then .ok (.literal { char := c }, rest) else .error .badEscape

end Conform.Pattern
