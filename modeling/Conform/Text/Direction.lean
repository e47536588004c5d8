import Conform.Text.Words
import Conform.Text.RunLength

/-!
# Directions

In which direction a character is written, as far as domain names ask for it.  The table holds the
characters that can stand in one.
-/

namespace Conform.Text

/-- The direction of a character. -/
inductive Direction where
  | leftToRight
  | rightToLeft
  | arabicNumber
  | europeanNumber
  | mark
  | neutral
  deriving DecidableEq

namespace Direction

def tabled : List Direction :=
  [.rightToLeft, .arabicNumber, .europeanNumber, .mark, .neutral]

/-- The runs of equal direction beyond ASCII, where it is not from left to right. -/
def runs : List (CodeRange × Nat) :=
  gapRuns 0 (tableNumbers [
    "gFcCEbFAErHBEHNECbBEBQEAeHDFAEeYAEfKGDjWFEBbSDAAAAADAAAABDAAAABDAAAAADIbKARBEAAAABEAAAAAEAAA",
    "ABEAKDAbVAAUDAJBAAEABBACAAADAdWAAGDBAEAFDABAABDAAEADDABAAJCAWAAADAbDAAbADCdKAAKDAcFAAIDABAAD",
    "EAAACADAXAADDAAAAIDAAAACDAAAAEDCbOAACDCbXAHIDAbPAAcEDcDADBADEHDEADDGDKBDbDADcGADEDDIADUBDOBE",
    "HAECEDcFADEQDbEBDDADLBDcFADEHDEADUBDNAEIHDcGADCADBDDIJDLBDbEADcJADMADbLHEFADDADcDADBCDFQDLBD",
    "UGECADcGADPBDUBDbCBDcFBDEDDIADUBDbDADcUADHEDdMADCGDEAEHHDdUADCIDLGDcVBDbBADBADBADADEbZNDBEDB",
    "BDFbVDJADdYDDBFDBBDCBDZBDECDQDDNADCBDGADPADbbBCDbWJEdYAEzQBEeNCDbDBDbEBDbEBDcPGDIADCKDHAEBAD",
    "SbAEeSBDbIADeOCDEBDJADGCDEFEfWbHEXBDCADcGADBIDBADCHDGMDbWdFDbWADBEDBADFADbOIDMBDbGDDCBDBCDcE",
    "ADBBDDADBCDcGHDCBDfWCDBMDBGDEADGADDBDhQcLDuEgZEObGDTcVEcIqLEcRZEBbeJEBnAEjWbdNEiVFEECDHGEeXA",
    "DdSbFDAtWEDYEJDDCAEGAEFCEdLBDFAEdMAEhObLEkoGcLEbguIcCEmOCEdRDDAAEAJDABEbEBDdCBDObHEdYAEeRADD",
    "ADEADZBDBDEAADLBEcGDEcYBDbARDNADbMHDZKDbUCDbWADCDDCBDbNADcPFDCBDCBDMADIADbVADbZADBCDCBDFBDBA",
    "DbQBDIADeLBEeRADCADEADbdzSADfRQAAwAEbGPDVBEbSAAzDAEcKcYEDQEdOADiSADAbACeSEDbsNkXADAEAiQAAODA",
    "bLACHDAgIAABDEcWADGEAsPAADDIZBAFAZEDAAEAbGAiAbEBBbPABBDAbAAIIEbHFDAcRAAKDAbWAADDAeIAKADcCODL",
    "TEKADCBDKCDbXDDCBDHADcJCDbKEDBHDcKADMBDcAIDKDDCADdRCDCADBBDGADCADgBADDHDVBDcFBDDADbLODcSFDNA",
    "DBADBADOBDdHHDCCDBADXADdGFDBADEBDBBDjEDDGBDBBDbBBDdHHDCADBBDbFMEcKADBADCFDBADdXADBADCDDBEDjZ",
    "IDBBDjWBDBADEADfOHDEADbGFDCBDbOFDCDDIADJFDCCDbUMDBBDhQADBCDBADhTNDdGVDCGDBBDBBDeSUDBADcUBDDA",
    "DBADnJBDLBDcAEDFADBADXADeSbCEhrYADGODqyYLDDCDdsAEDcHGDboIADcLDDdBAEBADbdbKBDfvLbcYEPcSDuYCDR",
    "HDCGDbEDDcHdKEACDAAEhEdIEcnPcCDEbXDIADOADWUDcaIfNDgEGDoLADcJDDPAEsYDDjUBDjJADCADHBDFADkGhZAA",
    "GDcXbHAAGDAbmWAqSwDEcJCEcJAEgWdqOE"])

def ofChar (c : Char) : Direction :=
  if c.toNat < 0x80 then
    if isDigit c then .europeanNumber else if isAsciiLetter c then .leftToRight else .neutral
  else ((valueAt? runs c.toNat).bind fun i => tabled[i]?).getD .leftToRight

end Direction

end Conform.Text
