import Conform.Text.Words

/-!
# Network addresses

Which texts are addresses of version 4, as one number or up to four with dots between them, and
of version 6, as pieces of 16 bits with colons between them.
-/

namespace Conform.Address

open Text

/-- The number of a part of an address of version 4: decimal, octal after a zero, or hexadecimal
after `0x`. -/
def addressNumber? (cs : List Char) : Option Nat :=
  let (base, ds) : Nat × List Char := match cs with
    | '0' :: 'x' :: rest | '0' :: 'X' :: rest => (16, rest)
    | '0' :: c :: rest => (8, c :: rest)
    | _ => (10, cs)
  if cs = [] then none
  else ds.foldlM (fun n d =>
    (hexValue? d).bind fun v => if v < base then some (base * n + v) else none) 0

/-- The parts of a domain between its dots, without an empty one at the end. -/
def domainParts (domain : List Char) : List (List Char) :=
  let parts := splitAtEach '.' domain
  if parts.length > 1 ∧ parts.getLast? = some [] then parts.dropLast else parts

/-- Whether a domain has to be an address, because its last part is a number. -/
def endsInNumber (domain : List Char) : Bool :=
  match (domainParts domain).getLast? with
  | some part => !part.isEmpty && (part.all isDigit || (addressNumber? part).isSome)
  | none => false

/-- Whether a domain is an address of version 4.  The last of at most four numbers takes the bytes
that the others leave. -/
def isIpv4 (domain : List Char) : Bool :=
  match (domainParts domain).mapM addressNumber? with
  | some numbers =>
    match numbers.reverse with
    | last :: others =>
      others.length ≤ 3 && others.all (· ≤ 255) && last < Nat.pow 256 (4 - others.length)
    | [] => false
  | none => false

/-- Whether characters are one byte in decimal, without leading zeros. -/
def isDecimalByte (cs : List Char) : Bool :=
  !cs.isEmpty && cs.all isDigit && decimalValue cs ≤ 255 &&
    (cs.length == 1 || cs.head? != some '0')

/-- Whether characters are four decimal bytes with dots between them. -/
def isDottedBytes (cs : List Char) : Bool :=
  let parts := splitAtEach '.' cs
  parts.length == 4 && parts.all isDecimalByte

/-- Whether characters are a piece of an address of version 6. -/
def isHexPiece (cs : List Char) : Bool :=
  1 ≤ cs.length && cs.length ≤ 4 && cs.all fun c => (hexValue? c).isSome

/-- How many pieces of 16 bits the parts between colons give, where the last one may be four
decimal bytes. -/
def pieceCount? : List (List Char) → Option Nat
  | [] => some 0
  | [part] => if isHexPiece part then some 1 else if isDottedBytes part then some 2 else none
  | part :: parts => if isHexPiece part then (pieceCount? parts).map (· + 1) else none

/-- Splits characters at the first double colon. -/
def splitDoubleColon : List Char → Option (List Char × List Char)
  | ':' :: ':' :: rest => some ([], rest)
  | c :: rest => (splitDoubleColon rest).map fun (a, b) => (c :: a, b)
  | [] => none

/-- The pieces of one side of a double colon, which may be empty. -/
def sideCount? (cs : List Char) : Option Nat :=
  if cs = [] then some 0 else pieceCount? (splitAtEach ':' cs)

/-- Whether characters are an address of version 6: eight pieces, or fewer around one double
colon. -/
def isIpv6 (cs : List Char) : Bool :=
  match splitDoubleColon cs with
  | some (left, right) =>
    match sideCount? left, sideCount? right with
    | some a, some b => !left.contains '.' && a + b ≤ 7
    | _, _ => false
  | none => pieceCount? (splitAtEach ':' cs) == some 8

end Conform.Address
