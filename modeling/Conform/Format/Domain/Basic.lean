import Conform.Format.Domain.Mapping
import Conform.Format.Punycode
import Conform.Text.Category
import Conform.Text.Composition
import Conform.Text.Direction
import Conform.Text.Joining
import Conform.Text.Words

/-!
# Domain names

The normal form of a domain name, and which names have one.  A name may hold characters of any
script; a label that begins with `xn--` encodes one with characters beyond ASCII.  The labels of a
name are checked one by one, and then together when any of them is written from right to left.
-/

namespace Conform.Domain

open Text

/-- Whether a character cannot stand in a domain name. -/
def isForbidden (c : Char) : Bool :=
  c.toNat ≤ 0x20 || c.toNat == 0x7F || "#/:<>?@[\\]^|%".toList.contains c

/-- How many characters an encoded label may have after its marker. -/
def maxEncoded : Nat := 2000

/-- How many characters a label may have that has to be encoded. -/
def maxPlain : Nat := 1000

/-! ### Joiners -/

/-- Whether a character before a place joins what follows, past transparent characters; `before`
holds the characters before the place, latest first. -/
def joinsOnLeft (before : List Char) : Bool :=
  match before.map Joining.ofChar |>.dropWhile (· == .transparent) with
  | j :: _ => j.joinsNext
  | [] => false

/-- Whether a character after a place joins what comes before, past transparent characters. -/
def joinsOnRight (after : List Char) : Bool :=
  match after.map Joining.ofChar |>.dropWhile (· == .transparent) with
  | j :: _ => j.joinsPrevious
  | [] => false

/-- The combining class of the signs that leave a consonant without a vowel. -/
def viramaClass : Nat := 9

/-- Whether the joiners of a label stand where they change how it is written: after a consonant
without a vowel, and a non-joiner also between characters that would join.  `before` holds the
characters before the rest of the label, latest first. -/
def joinersFit (before : List Char) : List Char → Bool
  | [] => true
  | c :: rest =>
    let follows := before.head?.any fun d => Composition.combiningClass d.toNat == viramaClass
    let fits :=
      if c = '\u200D' then follows
      else if c = '\u200C' then follows || (joinsOnLeft before && joinsOnRight rest)
      else true
    fits && joinersFit (c :: before) rest

/-! ### Directions -/

/-- Whether a label makes its name one that is written from right to left. -/
def isBidirectional (label : List Char) : Bool :=
  label.any fun c => [.rightToLeft, .arabicNumber].contains (Direction.ofChar c)

/-- Whether a label keeps its parts apart from those of its neighbours in a name that is written
from right to left: it begins with a letter, holds no letters of the other direction and no two
kinds of digits, and ends with a letter or a digit, marks apart. -/
def directionsFit (label : List Char) : Bool :=
  let ds := label.map Direction.ofChar
  let last := (ds.reverse.dropWhile (· == .mark)).head?
  match ds with
  | [] => true
  | .rightToLeft :: _ =>
    ds.all (· ≠ .leftToRight) && !(ds.contains .arabicNumber && ds.contains .europeanNumber) &&
      last.any [.rightToLeft, .arabicNumber, .europeanNumber].contains
  | .leftToRight :: _ =>
    ds.all (fun d => d ≠ .rightToLeft ∧ d ≠ .arabicNumber) &&
      last.any [.leftToRight, .europeanNumber].contains
  | _ => false

/-! ### Labels -/

/-- The label that an encoded label stands for.  It has to hold what the mapping keeps, in composed
form, and something beyond ASCII. -/
def decoded? (encoded : List Char) : Option (List Char) :=
  if maxEncoded < encoded.length ∨ encoded.getLast? = some '-' then none
  else
    match Punycode.decode? encoded with
    | some label =>
      if label.any (0x80 ≤ ·.toNat) ∧ label.all isKept ∧ '.' ∉ label ∧
          Composition.compose label = label then
        some label
      else none
    | none => none

/-- What a label of a mapped name stands for. -/
def meaning? (label : List Char) : Option (List Char) :=
  match label with
  | 'x' :: 'n' :: '-' :: '-' :: encoded =>
    if encoded.all (·.toNat < 0x80) then decoded? encoded else none
  | _ => some label

/-- Whether a label is allowed wherever it stands. -/
def isLabelAllowed (label : List Char) : Bool :=
  !(maxPlain < label.length && label.any (0x80 ≤ ·.toNat)) &&
    label.all (!isForbidden ·) && !(label.head?.any (hasCategory Category.marks)) &&
    joinersFit [] label

/-- The normal form of a domain name, if it is allowed. -/
def ofText? (cs : List Char) : Option (List Char) := do
  let name := Composition.compose (← cs.mapM mapped?).flatten
  let labels ← (splitAtEach '.' name).mapM meaning?
  if labels.all isLabelAllowed ∧
      (labels.any isBidirectional → labels.all directionsFit) then
    some name
  else none

end Conform.Domain
