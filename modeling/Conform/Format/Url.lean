import Conform.Format.Host

/-!
# Absolute URLs

Which texts parse as a URL on their own.  A few schemes are special: they need a host, and take a
backslash for a slash.  For all others the host may be empty.
-/

namespace Conform.Url

open Text

/-- The text that counts: without spaces and control characters at its ends, and without tabs and
line breaks anywhere. -/
def relevant (cs : List Char) : List Char :=
  let isEdge (c : Char) : Bool := c.toNat ≤ 0x20
  let trimmed := ((cs.dropWhile isEdge).reverse.dropWhile isEdge).reverse
  trimmed.filter fun c => c != '\t' && c != '\n' && c != '\r'

/-- Whether a character may follow the first letter of a scheme. -/
def isSchemeChar (c : Char) : Bool :=
  isAsciiLetter c || isDigit c || c == '+' || c == '-' || c == '.'

/-- Splits the scheme off, in lower case, and the colon after it. -/
def scheme? (cs : List Char) : Option (String × List Char) :=
  let name := cs.takeWhile isSchemeChar
  match name, cs.drop name.length with
  | first :: _, ':' :: rest =>
    if isAsciiLetter first then some (String.ofList (name.map lowerAscii), rest) else none
  | _, _ => none

/-- Whether a scheme needs a host. -/
def isSpecial (scheme : String) : Bool :=
  ["http", "https", "ws", "wss", "ftp"].contains scheme

/-- Whether a character is taken for a slash by special schemes. -/
def isSlash (c : Char) : Bool :=
  c == '/' || c == '\\'

def endsAuthority (special : Bool) (c : Char) : Bool :=
  c == '/' || c == '?' || c == '#' || (special && c == '\\')

/-- Splits the host off: up to a colon outside brackets or the end of the authority. -/
def splitHost (special : Bool) (inBrackets : Bool) : List Char → List Char × List Char
  | [] => ([], [])
  | c :: rest =>
    if (c == ':' && !inBrackets) || endsAuthority special c then ([], c :: rest)
    else
      let inBrackets := if c = '[' then true else if c = ']' then false else inBrackets
      let (host, rest) := splitHost special inBrackets rest
      (c :: host, rest)

/-- Whether what follows the colon after a host is a number up to 65535, perhaps without digits, and
then nothing or the end of the authority. -/
def isHostNumber (cs : List Char) : Bool :=
  let ds := cs.takeWhile isDigit
  decimalValue ds ≤ 65535 &&
    match cs.drop ds.length with
    | [] => true
    | c :: _ => endsAuthority true c

/-- Whether a host, perhaps its number after a colon, and a rest follow, after credentials that may
need a host. -/
def isHostWithNumber (special hasCredentials : Bool) (cs : List Char) : Bool :=
  let (host, rest) := splitHost special false cs
  let hostAllowed :=
    if special then !host.isEmpty && Host.isSpecialHost host else Host.isOpaqueHost host
  let numberAllowed := match rest with
    | ':' :: digits => !host.isEmpty && isHostNumber digits
    | _ => true
  hostAllowed && numberAllowed && !(host.isEmpty && hasCredentials)

/-- Splits credentials off before the last at sign of an authority; none when there is no at
sign. -/
def splitCredentials? (authority : List Char) : Option (List Char) :=
  if authority.contains '@' then
    some (authority.reverse.dropWhile (· ≠ '@')).tail.reverse
  else none

/-- Whether an authority and a rest follow. -/
def isAuthority (special : Bool) (cs : List Char) : Bool :=
  match splitCredentials? (cs.takeWhile fun c => !endsAuthority special c) with
  | none => isHostWithNumber special false cs
  | some credentials =>
    let rest := cs.drop (credentials.length + 1)
    if credentials.isEmpty then
      !(rest.head?.any (endsAuthority special)) && isHostWithNumber special false rest
    else isHostWithNumber special (credentials != [':']) rest

def isDriveLetter : List Char → Bool
  | [c, d] => isAsciiLetter c && (d == ':' || d == '|')
  | _ => false

/-- Whether the rest of a URL follows the scheme of files. -/
def isFileRest : List Char → Bool
  | a :: b :: rest =>
    if isSlash a && isSlash b then
      let host := rest.takeWhile fun c => !endsAuthority true c
      isDriveLetter host || host.isEmpty || Host.isSpecialHost host
    else true
  | _ => true

def isAbsolute (s : String) : Bool :=
  match scheme? (relevant s.toList) with
  | none => false
  | some (scheme, rest) =>
    if scheme = "file" then isFileRest rest
    else if isSpecial scheme then isAuthority true (rest.dropWhile isSlash)
    else
      match rest with
      | '/' :: '/' :: rest => isAuthority false rest
      | _ => true

end Conform.Url
