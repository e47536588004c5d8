import Conform.Text.CharSet

/-!
# Simple case folding

The folding of single characters that makes upper and lower case alike.  Two characters are the
same up to case when they fold to the same character.
-/

namespace Conform.Text

/-- The pairs of a table of gaps, lengths less one and distances, from `start` on: each character
that does not fold to itself, and what it folds to. -/
def foldPairsFrom (start : Nat) (table : List Nat) : List (Nat × Nat) :=
  (gapRuns start table).flatMap fun r =>
    (List.range (r.1.2 + 1 - r.1.1)).map fun i => (r.1.1 + i, displaced r.1.1 r.2 + i)

/-- Every character that does not fold to itself, with the one it folds to. -/
def foldPairs : List (Nat × Nat) :=
  foldPairsFrom 0 (tableNumbers [
    "cNZcMdMAchQKWcMBGcMbHACBACBACBACBACBACBACBACBACBACBACBACBACBACBACBACBACBACBACBACBACBACBACBAC",
    "DACBACBACCACBACBACBACBACBACBACBACCACBACBACBACBACBACBACBACBACBACBACBACBACBACBACBACBACBACBACBA",
    "CBACBACBACBAjHAACBACBACBAuPBAqEAACBACBApWAACBBpUAACCAgCAApOAApQAACBApUAApYBAqGAAqCAACDAqGAAq",
    "KBAqMAACBACBACBAqUAACBAqUCACBAqUAACBBqSAACBACBAqWAACDACHAEAACBAEAACBAEAACBACBACBACBACBACBACB",
    "ACBACCACBACBACBACBACBACBACBACBACCAEAACBACBAhLAAeHAACBACBACBACBACBACBACBACBACBACBACBACBACBACB",
    "ACBACBACBACBACBACBAjZBACBACBACBACBACBACBACBACBACHAbfyKAACBAmNAAbfyECACBAoZAAfIAAfMAACBACBACB",
    "ACBACjMAiYbQACBACDACIAiYGAcYBCcWBAeYBBeWBQcMBIcMWACMAQAAcHAAbXDAbDAAbRBACBACBACBACBACBACBACB",
    "ACBACBACBACBACBAeDAAdRCAePAAeXBACBANAACCCjZAPgEAbFcMbWACBACBACBACBACBACBACBACBACBACBACBACBAC",
    "BACBACBACBACJACBACBACBACBACBACBACBACBACBACBACBACBACBACBACBACBACBACBACBACBACBACBACBACBACBACBA",
    "CBAbEAACBACBACBACBACBACBACCACBACBACBACBACBACBACBACBACBACBACBACBACBACBACBACBACBACBACBACBACBAC",
    "BACBACBACBACBACBACBACBACBACBACBACBACBACBACBACBACBACBACBACBACBACBACBACBACBACBACCbLdSehDbLvmUB",
    "AvmUFAvmUbfEFPdfUAskPAAskNAAsjVABsjRAAsjTAAsjFAAshJAAeaiWAACGbQixJCCixJmIACBACBACBACBACBACBA",
    "CBACBACBACBACBACBACBACBACBACBACBACBACBACBACBACBACBACBACBACBACBACBACBACBACBACBACBACBACBACBACB",
    "ACBACBACBACBACBACBACBACBACBACBACBACBACBACBACBACBACBACBACBACBACBACBACBACBACBACBACBACBACBACBAC",
    "BACBACBACBACBACBACBACGAeLCAwnTBACBACBACBACBACBACBACBACBACBACBACBACBACBACBACBACBACBACBACBACBA",
    "CBACBACBACBACBACBACBACBACBACBACBACBACBACBACBACBACBACBACBACBACBACBACBACBACBACBACBACJHPIFPKHPI",
    "HPIFPLAPBAPBAPBAPIHPYHPIHPIHPIBPABfRAARBAvfTJDgPAARGAvkNEBPABhRHAvjHEBPABiPAANLBjVABjRAARlLA",
    "wgFDAyuVAAylNGAcEbTPbGTACbfMZcAcsUbVdSbWACBAbfuJAAlhJAAbftDCACBACBACBAbfxFAAbfuVAAbfxLAAbfxJ",
    "BACCACIBbfzXAACBACBACBACBACBACBACBACBACBACBACBACBACBACBACBACBACBACBACBACBACBACBACBACBACBACBA",
    "CBACBACBACBACBACBACBACBACBACBACBACBACBACBACBACBACBACBACBACBACBACBACBACIACBACEACbtyJACBACBACB",
    "ACBACBACBACBACBACBACBACBACBACBACBACBACBACBACBACBACBACBACBACTACBACBACBACBACBACBACBACBACBACBAC",
    "BACBACBACfFACBACBACBACBACBACBACDACBACBACBACBACBACBACBACBACBACBACBACBACBACBACBACBACBACBACBACB",
    "ACBACBACBACBACBACBACBACBACBACBACKACBACBAeanVAACBACBACBACBACEACBAevcHCACBACDACBACBACBACBACBAC",
    "BACBACBACBACBAeveLAAevfHAAeveZAAeveFAAeveLBAevaPAAevcLAAevaVAActKAACBACBACBACBACBACBACBACBAd",
    "RAAeveJAAearVAACBACBAevhDAACDACFACBACBACBAevxXYACbiGdBekzNbeaNACboLZcMbuZbNdCfGbJdCgAKdABOdA",
    "BGdABBdAcqCbYeYgBVcMegObFcMbgjWbFcMbulKbHcQ"])

end Conform.Text

namespace Conform.CharSet

open Text

def ofCodes (ns : List Nat) : CharSet :=
  ofRanges (ns.map fun n => (n, n))

/-- Every character that is the same up to case as a member: first what the members fold to, then
what folds to a member. -/
def closeCase (s : CharSet) : CharSet :=
  let foldsOf := foldPairs.filterMap fun p => if s.has p.1 then some p.2 else none
  let folded := s.union (ofCodes foldsOf)
  let foldingTo := foldPairs.filterMap fun p => if folded.has p.2 then some p.1 else none
  folded.union (ofCodes foldingTo)

/-- Every character that is the same up to case as a member, where only the letters of ASCII have
a case. -/
def closeAsciiCase (s : CharSet) : CharSet :=
  let shifted (first : Nat) (target : Nat) : CharSet :=
    ofCodes ((List.range 26).filterMap fun i =>
      if s.has (first + i) then some (target + i) else none)
  unionOf [s, shifted 0x41 0x61, shifted 0x61 0x41]

end Conform.CharSet
