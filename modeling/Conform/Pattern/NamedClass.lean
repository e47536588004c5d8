import Conform.Pattern.Error
import Conform.Pattern.Tree
import Conform.Text.Age
import Conform.Text.Words
import Conform.Text.Break
import Conform.Text.Property
import Conform.Text.Script

/-!
# Classes with names

The sets of characters that the names in patterns stand for: properties, general categories,
scripts, ASCII classes and the classes of a single letter.
-/

namespace Conform.Pattern

open Text

/-- A name of a property without case, spaces, hyphens, underscores, a leading `is` and whatever is
not ASCII.  The name `isc` stays as it is, since `c` is another name. -/
def normalizeName (name : String) : String :=
  let cs := name.toList.map lowerAscii
  let (hasIs, cs') := match cs with
    | 'i' :: 's' :: rest => (true, rest)
    | _ => (false, cs)
  let plain := cs'.filter fun c => c ≠ ' ' ∧ c ≠ '_' ∧ c ≠ '-' ∧ c.toNat < 0x80
  if hasIs ∧ plain = ['c'] then "isc" else String.ofList plain

def categoryGroups : List (List String × List Category) :=
  [(["l", "letter"], Category.letters),
    (["lc", "casedletter"], [.uppercaseLetter, .lowercaseLetter, .titlecaseLetter]),
    (["m", "mark", "combiningmark"], Category.marks),
    (["n", "number"], Category.numbers),
    (["p", "punctuation", "punct"],
      [.connectorPunctuation, .dashPunctuation, .openPunctuation, .closePunctuation,
        .initialPunctuation, .finalPunctuation, .otherPunctuation]),
    (["s", "symbol"], [.mathSymbol, .currencySymbol, .modifierSymbol, .otherSymbol]),
    (["z", "separator"], [.spaceSeparator, .lineSeparator, .paragraphSeparator]),
    (["c", "other"], [.control, .format, .privateUse, .unassigned, .surrogate]),
    (["digit"], [.decimalNumber]), (["cntrl"], [.control])]

/-- The general categories of a normalized name.  No character is a surrogate. -/
def categories? (name : String) : Option (List Category) :=
  match categoryGroups.find? fun g => g.1.contains name with
  | some g => some g.2
  | none =>
    (Category.all.find? fun c => c ≠ .surrogate ∧
      (normalizeName c.code = name ∨ normalizeName c.longName = name)).map fun c => [c]

/-- The characters of the general categories of a normalized name. -/
def categoryMembers? (name : String) : Option CharSet :=
  match name with
  | "any" => some .all
  | "ascii" => some .ascii
  | "assigned" => some (Category.members [.unassigned]).complement
  | _ => (categories? name).map Category.members

/-- The characters with the property of a name.  A name alone is looked for among the properties,
then among the general categories and then among the scripts. -/
def PropertyName.members? : PropertyName → Option CharSet
  | .alone name =>
    let name := normalizeName name
    Property.named? name <|> categoryMembers? name <|> (Script.index? name).map Script.members
  | .valued name value =>
    let value := normalizeName value
    match normalizeName name with
    | "gc" | "generalcategory" => categoryMembers? value
    | "sc" | "script" => (Script.index? value).map Script.members
    | "scx" | "scriptextensions" => (Script.index? value).map Script.users
    | "age" => Age.named? value
    | "gcb" | "graphemeclusterbreak" => Break.grapheme.named? value
    | "wb" | "wordbreak" => Break.word.named? value
    | "sb" | "sentencebreak" => Break.sentence.named? value
    | _ => none

/-- The ASCII characters of a class with a name between colons. -/
def posixMembers : String → CharSet
  | "alnum" => ⟨[(0x30, 0x39), (0x41, 0x5A), (0x61, 0x7A)]⟩
  | "alpha" => ⟨[(0x41, 0x5A), (0x61, 0x7A)]⟩
  | "ascii" => .ascii
  | "blank" => ⟨[(0x09, 0x09), (0x20, 0x20)]⟩
  | "cntrl" => ⟨[(0x00, 0x1F), (0x7F, 0x7F)]⟩
  | "digit" => ⟨[(0x30, 0x39)]⟩
  | "graph" => ⟨[(0x21, 0x7E)]⟩
  | "lower" => ⟨[(0x61, 0x7A)]⟩
  | "print" => ⟨[(0x20, 0x7E)]⟩
  | "punct" => ⟨[(0x21, 0x2F), (0x3A, 0x40), (0x5B, 0x60), (0x7B, 0x7E)]⟩
  | "space" => ⟨[(0x09, 0x0D), (0x20, 0x20)]⟩
  | "upper" => ⟨[(0x41, 0x5A)]⟩
  | "word" => Anchor.asciiWord
  | "xdigit" => ⟨[(0x30, 0x39), (0x41, 0x46), (0x61, 0x66)]⟩
  | _ => .empty

/-- The characters of the class of a letter, among all characters or those of ASCII. -/
def Shorthand.members (ascii : Bool) : Shorthand → CharSet
  | .digit => if ascii then posixMembers "digit" else Category.members [.decimalNumber]
  | .blank => if ascii then posixMembers "space" else Property.whiteSpace
  | .word => Anchor.wordChars ascii

end Conform.Pattern
