import Conform.Text.Property

/-!
# Dumps

The notation in which values of any type are shown for inspection: quoted texts, lists, records
with named fields and constructors with arguments.
-/

namespace Conform.Text.Dump

/-- Whether a character shows in a quoted text as it is.  The plain space does, as the half-width
voicing marks do; characters that extend the one before them, hidden ones and the fillers of
Hangul do not. -/
def isShown (c : Char) : Bool :=
  let n := c.toNat
  c == ' ' || n == 0xFF9E || n == 0xFF9F ||
    !(Property.extendsGrapheme c || hasCategory Category.hidden c ||
      [0x115F, 0x1160, 0x3164, 0xFFA0].contains n)

/-- A character inside a quoted text.  Characters that do not show on their own are written as
their code point. -/
def escapeChar (c : Char) : List Char :=
  if c = '\x00' then ['\\', '0']
  else if c = '\t' then ['\\', 't']
  else if c = '\r' then ['\\', 'r']
  else if c = '\n' then ['\\', 'n']
  else if c = '"' then ['\\', '"']
  else if c = '\\' then ['\\', '\\']
  else if !isShown c then
    ['\\', 'u', '\x7b'] ++ Nat.toDigits 16 c.toNat ++ ['\x7d']
  else [c]

def quoted (s : String) : String :=
  String.ofList ('"' :: (s.toList.flatMap escapeChar ++ ['"']))

/-- Items with commas between them. -/
def commas (items : List String) : String :=
  String.intercalate ", " items

def list (items : List String) : String :=
  "[" ++ commas items ++ "]"

def set (items : List String) : String :=
  "\x7b" ++ commas items ++ "\x7d"

/-- A map of keys to values. -/
def map (entries : List (String × String)) : String :=
  set (entries.map fun (k, v) => k ++ ": " ++ v)

/-- A constructor with its arguments. -/
def apply (name : String) (args : List String) : String :=
  name ++ "(" ++ commas args ++ ")"

def option (o : Option String) : String :=
  match o with
  | some s => apply "Some" [s]
  | none => "None"

/-- A record, of which `more` says that not all fields are shown. -/
def record (name : String) (fields : List (String × String)) (more : Bool := false) : String :=
  let shown := fields.map fun (k, v) => k ++ ": " ++ v
  name ++ " \x7b " ++ commas (shown ++ if more then [".."] else []) ++ " \x7d"

def bool (b : Bool) : String :=
  if b then "true" else "false"

end Conform.Text.Dump
