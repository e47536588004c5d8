import Conform.Json.Basic
import Conform.Text.Words
import Conform.Text.Dump

/-!
# Compact JSON text

Writes a value without any white space, the fields of an object in their order, and names a value in
a message that says another one was expected.
-/

namespace Conform.Json

/-- A character inside a quoted string. -/
def escapeChar (c : Char) : List Char :=
  if c = '"' then ['\\', '"']
  else if c = '\\' then ['\\', '\\']
  else if c = '\x08' then ['\\', 'b']
  else if c = '\x0c' then ['\\', 'f']
  else if c = '\n' then ['\\', 'n']
  else if c = '\r' then ['\\', 'r']
  else if c = '\t' then ['\\', 't']
  else if c.toNat < 0x20 then '\\' :: 'u' :: (Text.hexDigits 4 c.toNat).toList
  else [c]

def writeString (s : String) : List Char :=
  '"' :: (s.toList.flatMap escapeChar ++ ['"'])

mutual

def write : Json → List Char
  | .null => ['n', 'u', 'l', 'l']
  | .bool true => ['t', 'r', 'u', 'e']
  | .bool false => ['f', 'a', 'l', 's', 'e']
  | .num n => n.text.toList
  | .str s => writeString s
  | .arr items => '[' :: (writeItems items ++ [']'])
  | .obj fields => '\x7b' :: (writeFields fields ++ ['\x7d'])

/-- Values with commas between them. -/
def writeItems : List Json → List Char
  | [] => []
  | [v] => write v
  | v :: w :: rest => write v ++ ',' :: writeItems (w :: rest)

/-- Fields with commas between them. -/
def writeFields : List (String × Json) → List Char
  | [] => []
  | [(name, v)] => writeString name ++ ':' :: write v
  | (name, v) :: f :: rest => writeString name ++ ':' :: (write v ++ ',' :: writeFields (f :: rest))

end

def text (v : Json) : String :=
  String.ofList (write v)

/-- How a value is named where another one was expected. -/
def found : Json → String
  | .null => "null"
  | .bool b => "boolean `" ++ (if b then "true" else "false") ++ "`"
  | .num (.int i _) => "integer `" ++ toString i ++ "`"
  | .num (.float x) => "floating point `" ++ Number.floatText x ++ "`"
  | .str s => "string " ++ Text.Dump.quoted s
  | .arr _ => "sequence"
  | .obj _ => "map"

/-- The message that a value was found where something else was expected. -/
def unexpectedMessage (v : Json) (expected : String) : String :=
  "invalid type: " ++ v.found ++ ", expected " ++ expected

end Conform.Json
