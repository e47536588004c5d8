import Conform.Format.Address
import Conform.Format.Domain.Basic

/-!
# Hosts of URLs

Which texts name a host: a domain name, a number or dotted numbers for an address of version 4,
an address of version 6 in brackets, or, where the scheme gives no meaning to hosts, any text
without delimiters.
-/

namespace Conform.Host

open Text

/-- Whether a character cannot stand in a host without meaning. -/
def isForbiddenOpaque (c : Char) : Bool :=
  "\x00\t\n\r #/:<>?@[\\]^|".toList.contains c

/-- The byte that a percent sign and two hexadecimal digits write. -/
def escapedByte? (percent high low : UInt8) : Option UInt8 :=
  if percent = 37 ∧ high < 128 ∧ low < 128 then do
    let h ← hexValue? (Char.ofNat high.toNat)
    let l ← hexValue? (Char.ofNat low.toNat)
    return UInt8.ofNat (16 * h + l)
  else none

/-- Replaces each percent sign and the two hexadecimal digits after it by the byte they write. -/
def percentDecode : List UInt8 → List UInt8
  | a :: b :: c :: rest =>
    match escapedByte? a b c with
    | some byte => byte :: percentDecode rest
    | none => a :: percentDecode (b :: c :: rest)
  | bytes => bytes

/-- A text with its percent escapes decoded, if the bytes are text. -/
def percentDecoded? (cs : List Char) : Option (List Char) :=
  let bytes := percentDecode (String.ofList cs).toUTF8.toList
  (String.fromUTF8? ⟨bytes.toArray⟩).map String.toList

/-- Whether characters in brackets are an address of version 6. -/
def isBracketed (cs : List Char) : Bool :=
  cs.getLast? == some ']' && Address.isIpv6 (cs.drop 1).dropLast

/-- Whether a text names a host of a scheme that gives a meaning to hosts. -/
def isSpecialHost (cs : List Char) : Bool :=
  match cs with
  | '[' :: _ => isBracketed cs
  | _ =>
    match (percentDecoded? cs).bind Domain.ofText? with
    | some domain => !domain.isEmpty && (!Address.endsInNumber domain || Address.isIpv4 domain)
    | none => false

/-- Whether a text can stand as a host of a scheme that gives no meaning to hosts. -/
def isOpaqueHost (cs : List Char) : Bool :=
  match cs with
  | '[' :: _ => isBracketed cs
  | _ => !cs.any isForbiddenOpaque

end Conform.Host
