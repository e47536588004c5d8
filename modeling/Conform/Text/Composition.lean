import Conform.Text.RunLength

/-!
# Canonical composition

The normal form in which a base character and the marks after it are a single character where there
is one, and the remaining marks stand in the order of their classes.  The tables hold what has this
form itself: characters that stand for another single character, or that are always written apart,
are not among them.
-/

namespace Conform.Text.Composition

/-- The characters that are composed with one before them, the most frequent first. -/
def seconds : List Nat :=
  tableNumbers [
    "bdPbdObgFbdWbdVskNbdSbfSbeXbeAbdQbdUbgCbdRbdXbfBbfLbeIbeDbeHbeFbfHkhXbfCskObdYbdZckIbfKbePbf",
    "AfdsXdmYewJdzhIealLfijVemPelQfaKffUbeZbfIbeYdzlNealEebeDfdsYckHckJdrYdsXehQegSehRerMewKevQfb",
    "JffZfgPgdIeagCeahBeakXeakUeauSeauIeauVecmQfdsWfdtH"]

/-- The triples of a table of gaps, distances and places of second characters: a character, and the
two that it is composed of. -/
def triplesFrom (start : Nat) : List Nat → List (Nat × Nat × Nat)
  | gap :: d :: i :: rest =>
    let n := start + gap
    (n, displaced n d, seconds[i]?.getD 0) :: triplesFrom (n + 1) rest
  | _ => []

/-- The characters that are composed of two others. -/
def triples : List (Nat × Nat × Nat) :=
  triplesFrom 0 (tableNumbers [
    "hKjTBAjVAAjXKAjZNAkBDAkDZBkDPAkBBAkDAAkFKAkHDAkBBAkDAAkFKAkHDBkBNAkBBAkDAAkFKAkHNAkJDCkDBAkF",
    "AAkHKAkJDAkDACjTBAjVAAjXKAjZNAkBDAkDZBkDPAkBBAkDAAkFKAkHDAkBBAkDAAkFKAkHDBkBNAkBBAkDAAkFKAkH",
    "NAkJDCkDBAkFAAkHKAkJDAkDABkHDAoRGAmHGAoVLAmLLAoZXAmPXAoZAAmPAApDKAmTKApHEAmXEApLJAnBJApNJAnD",
    "JCpTGAnJGApXLAnNLAqBEAnREAqFXAnVXAqJJAnZJAqJKAnZKAqNLAoDLAqREAoHEAqVPAoLPAqXKAoNKCrDNAoTNArH",
    "GAoXGArLLApBLArPXApFXArTEDrZKApPKAsBPApRPBsFAApVAAsJPApZPAsNJAqDJEsVAAqLAAsZPAqPPAtDJAqTJDtL",
    "GArBGAtPLArFLAtTbAArJbACtVAArLAAtZPArPPAuDJArTJAuFAArVAAuJKArZKAuNPAsDPAuRJAsHJAuTPAsJPAuXJA",
    "sNJCvDNAsTNAvHGAsXGAvLLAtBLAvPZAtFZAvTbAAtJbAAvXXAtNXAvXKAtNKAvXKAtNKAwBDAwBAAtRAAwFEAtVEAwJ",
    "JAtZJbHzXbDAxNbDNbaPbDAyFbDbCbeLJAbcBJAbdZJAbbPJAbdRJAbbHJAbdJJAbaZJAtDGAqTGAtHAAqXAAtLJArBJ",
    "AtPBArFBBvRGAtHGAfKGAfKGAvVGAtLGCbfXJAbdNJAbfTJAbdJJAbfPXAbdFXADGADGAeFJAmOJAbdZJDbgZAAbePAC",
    "bgTBAbeJBAxTAAvJAAxVAAvLAAwPAAuFAAbiJSAbfZSAbiNUAbgDUAbiJSAbfZSAbiNUAbgDUAbiJSAbfZSAbiNUAbgD",
    "UAbiFSAbfVSAbiJUAbfZUAbiHSAbfXSAbiLUAbgBUAbiJSAbfZSAbiNUAbgDUAbiVbEAbgLbEAbiXbEAbgNbECbkDJAb",
    "hTJGblHEAbiXEAblDPAbiTPAbaDGAxTGAbaJGAxZGAbkVEAbiLEADGADGAbkJGAbhZGmZceJAAWABbAAAbCAAbEABbMA",
    "BbUAAcAAAeMAZbHDALDAKAAQAASAAUAAcCAZbHDALDAZAAPAAJAEBAADDbRbQBAbODBbGADBDEbCAAWBAbQLKBLbFBLW",
    "cBBAcDDBcLADBDEcPAAcVBAcBLXDSADScVnDLAkTLNoTLAmJLAoXDAmNDCoVLAmLLCDDADDApFDAmVDApHDAmXDCpNGA",
    "nDGApRDAnHDApJDAmZDCDDADDAoRDAmHDApPGAnFGApTDAnJDApXbAAnNbAApTDAnJDCpTDAnJDlKKbWAIbBAcUbBAEb",
    "XAcUbBfXbQbBBBbBQBbBwZBbGHBbGCBbGfUHbYAJbZoPBcACHcBAJcCcTDbLcBHbMAHbMALbLeTDcDePBbHGBbHADcEB",
    "HcFABbHeWHbNAHbNALcGfLBbOBFcHABbOAJcIwLBcJedBBWBBWBBWBBWBBWDBWbOBWBBWCDWADWBBWbaYwnTbPAwlJbP",
    "AwnVEAwlLEAwnZIAwlPIAwoDQAwlTQAweBAAwbRAAwoHEAwlXEAwoLIAwmBIAwoPQAwmFQAwoTPAwmJPAwoXVAwmNVAv",
    "zFBAvzFBAvzJAAvzJAAwpHVAwmXVAwpLbCAwnBbCAveLLAveLLAwpREAwnHEAwpTGAwnJGAwpVEAwnLEAwpZIAwnPIAw",
    "qDDAwnTDAwqHPAwnXPAwqLbQAwoBbQAwqNbCAwoDbCAwgJAAwdZAAwqRAAwoHAAwqVIAwoLIAwqZQAwoPQAwrBIAwoRI",
    "ADGADGAwrJQAwoZQAwrNVAwpDVAwrPAAwpFAAwrTEAwpJEAwrXIAwpNIAwrZEAwpPEAwsDIAwpTIAwsHQAwpXQAwsLVA",
    "wqBVAwiFAAwfVAAwiJDAwfZDAvzJBAvzJBAvzNAAvzNAAwtBAAwqRAAwtFEAwqVEAwtFEAwqVEAwtJIAwqZIADGADGAw",
    "tRQAwrHQAwtTEAwrJEAwtXIAwrNIAvzVEAvzVEAvzNEAvzNEALEALEAwuLEAwsBEAwuPIAwsFIAwuTQAwsJQAwuXVAws",
    "NVAwuZbRAwsPbRAwvDbCAwsTbCAwvHVAwsXVAwaHAAwaHAAwaHDAwaHDAwvRNAwtHNAwvVIAwtLIAwvXBAwtNBAwwBAA",
    "wtRAAwwFDAwtVDAwwJEAwtZEAwwNIAwuDIAwwPEAwuFEAwwTDAwuJDAwwVEAwuLEAwwXKAwuNKAwxBIAwuRIAwxFQAwu",
    "VQAwwHQAwvLDAwvHZAwvFZBwbFEExaBIAwxRIAxaFOAwxVOAwqLAAwoBAAwqPBAwoFBAwqTOAwoJOAwqXNAwoNNAXKAX",
    "KAwmHAAwmHAAwmLBAwmLBAwmPOAwmPOAwmTNAwmTNAbRLAbRLAxbPIAwzFIAxbTOAwzJOAxbXNAwzNNAwrVAAwpLAAwr",
    "ZBAwpPBAwsDOAwpTOAwsHNAwpXNAbBKAbBKAxcNOAxaDOAxcRIAxaHIAxcJIAwzZIAxcNOAxaDOAwsLAAwqBAAwsPBAw",
    "qFBAwsTOAwqJOAwsXNAwqNNAXKAXKAwdNAAwdNAAwdRBAwdRBAwdVOAwdVOAwdZNAwdZNAweDIAweDIAxdTIAxbJIAxd",
    "XOAxbNOAwdLAAwdLAAwdPBAwdPBAwdTOAwdTOAwdXNAwdXNAweBIAweBIAxeNBAxcDBAxeRIAxcHIAxeVOAxcLOAxeZN",
    "AxcPNGurTTAurVRADBADBAHAAHAALMALMAuuVTAuuXRADBADBAHAAHAALMALMAusRTAusTRADBADBAHAAHACuvTTAuvV",
    "RADBADBAHAAHACutTTAutVRADBADBAHAAHAALMALMAuwVTAuwXRADBADBAHAAHAALMALMAuuVTAuuXRADBADBAHAAHAA",
    "LMALMAuxXTAuxZRADBADBAHAAHAALMALMAuvPTAuvRRADBADBAHAAHACuyRTAuyTRADBADBAHAAHACuwJTAuwLRADBAD",
    "BAHAAHAALMALMBuzNRBDBBHABLMAuxHTAuxJRADBADBAHAAHAALMALMAvaJTAvaLRADBADBAHAAHAALMALMAvaJBBvaF",
    "BBvaFBBvaFBBuzXBBuzPBBuzLBDjVCAjVCAjVCAjVCAjVCAjVCAjVCAjVCAjVCAjVCAjVCAjVCAjVCAjVCAjVCAjVCAi",
    "PCAiPCAiPCAiPCAiPCAiPCAiPCAiPCAiPCAiPCAiPCAiPCAiPCAiPCAiPCAiPCAeXCAeXCAeXCAeXCAeXCAeXCAeXCAe",
    "XCAeXCAeXCAeXCAeXCAeXCAeXCAeXCAeXCAvfHLAvfJGAfBCAvfNCAvfZCBvfTMABCAviJLAviLGAviNBBviRCExoJMA",
    "fZCAvgHCAvhBCBvgNMABCAvjHBBvjHBBvjLCAbBBAbDAAbFMAvhDLAvhFGAvfZBDvhPMAvgJMAvkFLAvkHGAvkJBCcOB",
    "AcMAAcKMAvhLLAvhNGAvhDBBviBTAviDRAvhXMAvhNMAvkNLAvkPGAvkRBBvlDRAxrTBEjBCAviPCAviHCBviVMABCAv",
    "mFBBvlPBBvlTCpXTHARHSbZHbEGHAMHAGHcABHEBHCBHXBHBBHbAJHCBHCDHBBHWzwFHBBHKcLHAzxJHAzxHHAXHAXHC",
    "DHADHCDHADHGLHALHCDHADHCDHADHbITHAJHAJHAHHbWhRHAhRHAgFHAgFHGeHHAeHHAeHHAeHHfbQBFBBFBBFBBFBBF",
    "BBFBBFBBFBBFBBFBBFBBFCBFBBFBBFGBFADYBBFADYBBFADYBBFADYBBFADYWfZFJBFNBFBBFBBFBBFBBFBBFBBFBBFB",
    "BFBBFBBFBBFCBFBBFBBFGBFADYBBFADYBBFADYBBFADYBBFADYWfZFCPFAPFAPFAPFDBFdcpESEbATEebLBbIBBbIOLb",
    "IfAGbSAGbSuTHcKAJcLcCBbJBBcMIFbTCBbJbZFbTBJcNALbJjIDcOAFcPBJcQjRDbUADbUbiIFcRbbgAFcSAHcTAJbF",
    "AKbFANbVAJbFAJbFANbVeqPBbKALbKABbK"])

/-- The runs of equal combining class over all code points. -/
def classRuns : List (CodeRange × Nat) :=
  valueRuns 0 (tableNumbers [
    "bdOAViWBiYEiMBiYBiIFiMChUEiMChULiMFBEiMIiWBjGBiWDiMDiWCiMBADiWEiMBiWBiYCiMBiWBiZCjABiZCjABiZ",
    "NiWkPAFiWkFABiMEiWBiMDiWBiOBiMGiWGiMCiWBiMCiWBiOBiUBiWBKBLBMBNBOBPBQBRBSCTBUBVBWBABXBABYBZBA",
    "BiWBiMBABScUAIiWBbEBbFBbGbWABbBBbCBbDBbEBbFBbGBbHBbICiWCiMFiWBiMCiWBiMQABbJdXAHiWCAEiWBiMBiW",
    "CACiWBABiMCiWBiMbJABbKbEABiWBiMCiWBiMCiWDiMBiWCiMBiWBiMDiWBiMBiWBiMBiWBiMBiWBiMCiWgEAHiWBiMB",
    "iWJABiMYAEiWBAJiWBADiWBAFiWbRADiMcHACiWDiMEiWbQAFiWFiMOiWBABiMCiWBiMCiWBiMDiWDiMBbBBbCBbDDiW",
    "BiMCiWCiMFiWcIABHQABJDABiWBiMCiWdZABHQABJbWABiWcJABHQABJeGABHQABJeGABHQABJeXABJeGABHQABJHABd",
    "GBdNdXABHQABJeFACJQABJeUABJeFACdZBJNAEeDeEACeOBJNAEeScYACiMbBABiMBABiMBABiIcDABeZBfABABfCFAE",
    "fACABfABACiWBJBACiWcKABiMeIABHBACJdEABiMbbRADiWbkMACJbEABJgBABJKABiWhVABiUfNABiOBiWBiMiLABiW",
    "BiMcTABJUAIiWCABiMbWAFiWGiMCiWBiMBACiMCiWCiMFiWBiMSiWBiMCAGiWBiMEiWBjAcUABHPABJbMABiWBiMHiWc",
    "CACJcGABHLACJcPABHfWADiWBABBFiMCiWEiMBiWBAHBEABiMGABiWDACiWhQACiWBiMHiWBiMCiWBjABiGBiMBhUbLi",
    "WBiYCiUBiMBiKBiWBiZBiMBiWBiMbbSACiWCBEiWDBCiWEABiWDACBBiWBiMBiWCBEiMBiWeoCADiWfLABJdSAbGiWvI",
    "ABiKBiUBiYBiOCiQeBACIbsqEABiWEAKiWbGACiWdCACiWkQABJbLABJfVABJbBASiWcFADiMbLABJdRABHMABJjFABi",
    "WBACiWBiMCACiWFACiWBABiWcAABJjMABJbdzSABbAbdPAHiWHiMCiWblLABiMiSABiMfTAFiWcmSABiMBABiWbOABiW",
    "BBBiMEABJgJABiWBiMwBAEiWcNAFiWmFACiWcZACiMBADiMcSACiMDiWBiMBiWEiMbXABiWBiMBiWBiMhKABJbPABJOA",
    "BJcFABJBHcRADiWbWACJcKABHcYABJJABHeCABJBHgWABHBJdCACHQABJYAHiWDAFiWdLADJeJABJDABHXABiWdVABJB",
    "HjRABJBHeWABJeOABJBHeLABJkJABJBHjYACJEABHgAABJdFABJSABJdDABJqFABJjYABHBACJdDABJqJACJyzCABJds",
    "AAFBcHAHiWbuNACGbdaYABBhwOACiIDBDABiSFiIIAIiMCAFiWCiMbEAEiWfSADiWffFAHiWBARiWCAHiWBACiWBAFiW",
    "dWABiWgEAHiWoLABiWcJAEiWtOACiYBiMBiWjUABiWBiMjJABiWCABiWHACiWFABiWsGAHiMeFAGiWBHceguVA"])

/-- The combining class of a code point: zero for a character that begins anew, and for marks their
place among the marks of a character. -/
def combiningClass (n : Nat) : Nat :=
  (valueAt? classRuns n).getD 0

/-! ### Syllables of Hangul -/

/-- The parts that a syllable of Hangul is composed of. -/
def syllableParts? (n : Nat) : Option (List Nat) :=
  if 0xAC00 ≤ n ∧ n ≤ 0xD7A3 then
    let i := n - 0xAC00
    let head := [0x1100 + i / 588, 0x1161 + i % 588 / 28]
    some (if i % 28 = 0 then head else head ++ [0x11A7 + i % 28])
  else none

/-- The syllable of Hangul that is composed of two parts: a lead and a vowel, or a syllable without
a tail and a tail. -/
def syllable? (a b : Nat) : Option Nat :=
  if 0x1100 ≤ a ∧ a ≤ 0x1112 ∧ 0x1161 ≤ b ∧ b ≤ 0x1175 then
    some (0xAC00 + (a - 0x1100) * 588 + (b - 0x1161) * 28)
  else if 0xAC00 ≤ a ∧ a ≤ 0xD7A3 ∧ (a - 0xAC00) % 28 = 0 ∧ 0x11A8 ≤ b ∧ b ≤ 0x11C2 then
    some (a + (b - 0x11A7))
  else none

/-! ### Taking apart and composing -/

/-- The two characters that a character is composed of. -/
def pair? (n : Nat) : Option (Nat × Nat) :=
  (triples.find? fun t => t.1 == n).map Prod.snd

/-- The character that is composed of two others. -/
def composed? (a b : Nat) : Option Nat :=
  syllable? a b <|> (triples.find? fun t => t.2.1 == a && t.2.2 == b).map Prod.fst

/-- How many times a character can be taken apart. -/
def maxSteps : Nat := 4

/-- What a character is composed of in the end.  A second character is never composed. -/
def decompose : Nat → Nat → List Nat
  | 0, n => [n]
  | fuel + 1, n =>
    match syllableParts? n with
    | some parts => parts
    | none =>
      match pair? n with
      | some (a, b) => decompose fuel a ++ [b]
      | none => [n]

/-- Puts a character before others whose marks are in order, behind the marks of lower class. -/
def place (n : Nat) : List Nat → List Nat
  | [] => [n]
  | m :: rest =>
    if 0 < combiningClass m ∧ combiningClass m < combiningClass n then m :: place n rest
    else n :: m :: rest

/-- Puts the marks after each character into the order of their classes. -/
def reorder (ns : List Nat) : List Nat :=
  ns.foldr place []

/-- Composes the rest of a text with the character before it, where there is one; `marks` are those
after it that were not composed with it, latest first. -/
def composeAfter : Option Nat → List Nat → List Nat → List Nat
  | base, marks, [] => base.toList ++ marks.reverse
  | none, _, n :: rest =>
    if combiningClass n = 0 then composeAfter (some n) [] rest else n :: composeAfter none [] rest
  | some base, marks, n :: rest =>
    let isBlocked := marks.head?.any fun m => combiningClass n ≤ combiningClass m
    match if isBlocked then none else composed? base n with
    | some c => composeAfter (some c) marks rest
    | none =>
      if combiningClass n = 0 then base :: marks.reverse ++ composeAfter (some n) [] rest
      else composeAfter (some base) (n :: marks) rest

def compose (cs : List Char) : List Char :=
  let parts := cs.flatMap fun c => decompose maxSteps c.toNat
  (composeAfter none [] (reorder parts)).map Char.ofNat

end Conform.Text.Composition
