/-!
# Characters and words

White space in the sense of the Unicode property `White_Space`, and trimming it from both ends of a
text; ASCII letters and digits; how messages quote names and list alternatives, and how names of
joined words and texts with a separator, such as domain names, are split up.
-/

namespace Conform.Text

/-- Whether a character has the property `White_Space`. -/
def isBlank (c : Char) : Bool :=
  let n := c.toNat
  (0x09 ≤ n && n ≤ 0x0D) || n == 0x20 || n == 0x85 || n == 0xA0 || n == 0x1680 ||
    (0x2000 ≤ n && n ≤ 0x200A) || n == 0x2028 || n == 0x2029 || n == 0x202F || n == 0x205F ||
    n == 0x3000

/-- Characters without the blanks at their start. -/
def dropBlanks (cs : List Char) : List Char :=
  cs.dropWhile isBlank

/-- Characters without the blanks at either end. -/
def trim (cs : List Char) : List Char :=
  (dropBlanks (dropBlanks cs).reverse).reverse

/-- A text without the blanks at either end. -/
def trimmed (s : String) : String :=
  String.ofList (trim s.toList)

/-- An ASCII upper-case letter becomes lower case; every other character stays. -/
def lowerAscii (c : Char) : Char :=
  if 'A' ≤ c ∧ c ≤ 'Z' then Char.ofNat (c.toNat + 32) else c

/-- An ASCII lower-case letter becomes upper case; every other character stays. -/
def upperAscii (c : Char) : Char :=
  if 'a' ≤ c ∧ c ≤ 'z' then Char.ofNat (c.toNat - 32) else c

def isAsciiLetter (c : Char) : Bool :=
  ('a' ≤ c && c ≤ 'z') || ('A' ≤ c && c ≤ 'Z')

def isDigit (c : Char) : Bool :=
  '0' ≤ c && c ≤ '9'

def digitValue (c : Char) : Nat :=
  c.toNat - '0'.toNat

/-- The value of an ASCII hexadecimal digit of either case. -/
def hexValue? (c : Char) : Option Nat :=
  if isDigit c then some (digitValue c)
  else if 'a' ≤ c ∧ c ≤ 'f' then some (c.toNat - 'a'.toNat + 10)
  else if 'A' ≤ c ∧ c ≤ 'F' then some (c.toNat - 'A'.toNat + 10)
  else none

/-- The number that a list of decimal digits writes. -/
def decimalValue (ds : List Char) : Nat :=
  ds.foldl (fun n d => 10 * n + digitValue d) 0

/-- The lower-case hexadecimal digits of a number, at least `width` of them. -/
def hexDigits (width n : Nat) : String :=
  let ds := Nat.toDigits 16 n
  String.ofList (List.replicate (width - ds.length) '0' ++ ds)

/-- The decimal digits of a number, at least `width` of them. -/
def decimalDigits (width n : Nat) : String :=
  let ds := Nat.toDigits 10 n
  String.ofList (List.replicate (width - ds.length) '0' ++ ds)

/-- A text between backquotes. -/
def tick (s : String) : String :=
  "`" ++ s ++ "`"

def alternatives (names : List String) : String :=
  match names.map tick with
  | [] => "nothing"
  | [a] => a
  | [a, b] => a ++ " or " ++ b
  | ns => "one of " ++ String.intercalate ", " ns

/-- A name of joined capitalised words, such as `TypeMismatch`, in small letters with a low line
before every word but the first. -/
def snakeCase (s : String) : String :=
  match s.toList with
  | [] => ""
  | c :: rest =>
    String.ofList (lowerAscii c :: rest.flatMap fun c =>
      if c.isUpper then ['_', lowerAscii c] else [lowerAscii c])

/-- The parts of a text between the occurrences of a character; there is always one more of them
than occurrences. -/
def splitAtEach (sep : Char) : List Char → List (List Char)
  | [] => [[]]
  | c :: cs =>
    if c = sep then [] :: splitAtEach sep cs
    else
      match splitAtEach sep cs with
      | [] => [[c]]
      | part :: parts => (c :: part) :: parts

end Conform.Text
