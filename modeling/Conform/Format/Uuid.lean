import Conform.Text.Words

/-!
# UUIDs

A UUID is a number of 128 bits.  Its canonical text has 32 lower-case hexadecimal digits with
hyphens after the 8th, 12th, 16th and 20th; other texts can leave the hyphens out, or put the
hyphenated form in braces or after `urn:uuid:`.
-/

namespace Conform

/-- A number of 128 bits. -/
structure Uuid where
  value : Nat
  lt : value < Nat.pow 2 128
  deriving DecidableEq

namespace Uuid

open Text

/-- The UUID with the low 128 bits of a number. -/
def ofNat (n : Nat) : Uuid :=
  ⟨n % Nat.pow 2 128, Nat.mod_lt _ (by decide)⟩

/-- The canonical text. -/
def text (u : Uuid) : String :=
  let ds := (hexDigits 32 u.value).toList
  let part (start count : Nat) : List Char := (ds.drop start).take count
  String.ofList (part 0 8 ++ '-' :: part 8 4 ++ '-' :: part 12 4 ++ '-' :: part 16 4 ++
    '-' :: part 20 12)

/-- The UUID with 32 given hexadecimal digits. -/
def ofDigits? (ds : List Char) : Option Uuid :=
  if ds.length = 32 then
    (ds.foldlM (fun n d => (hexValue? d).map (16 * n + ·)) 0).map ofNat
  else none

/-- Reads the hyphenated form. -/
def ofHyphenated? (cs : List Char) : Option Uuid :=
  if cs.length = 36 ∧ cs[8]? = some '-' ∧ cs[13]? = some '-' ∧ cs[18]? = some '-' ∧
      cs[23]? = some '-' then
    ofDigits? (cs.take 8 ++ (cs.drop 9).take 4 ++ (cs.drop 14).take 4 ++ (cs.drop 19).take 4 ++
      cs.drop 24)
  else none

/-- Reads a UUID in any of its forms. -/
def ofText? (s : String) : Option Uuid :=
  let cs := s.toList
  if cs.length = 38 ∧ cs.head? = some '\x7b' ∧ cs.getLast? = some '\x7d' then
    ofHyphenated? ((cs.drop 1).take 36)
  else if (cs.take 9).map lowerAscii = "urn:uuid:".toList then ofHyphenated? (cs.drop 9)
  else ofDigits? cs <|> ofHyphenated? cs

/-- The random UUID made of a number: the version is 4 and the variant bits are `10`. -/
def random (n : Nat) : Uuid :=
  let ds := Nat.toDigits 16 (Nat.pow 2 128 + n % Nat.pow 2 128)
  let ds := ds.drop 1
  let variant := match ds[16]?.bind hexValue? with
    | some v => Nat.toDigits 16 (8 + v % 4)
    | none => ['8']
  ((ofDigits? (ds.take 12 ++ '4' :: (ds.drop 13).take 3 ++ variant ++ ds.drop 17))).getD (ofNat 0)

end Uuid

end Conform
