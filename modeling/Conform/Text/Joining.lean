import Conform.Text.RunLength

/-!
# Joining types

Which neighbours a character of a cursive script joins, as far as domain names ask for it.  The
table holds the characters that can stand in one.
-/

namespace Conform.Text

/-- Which neighbours a character joins.  A transparent one lets its neighbours join. -/
inductive Joining where
  | left
  | dual
  | right
  | transparent
  | none
  deriving DecidableEq

namespace Joining

/-- The types of the table, in its order. -/
def tabled : List Joining :=
  [.left, .dual, .right, .transparent]

/-- The runs of equal type, where characters join. -/
def runs : List (CodeRange × Nat) :=
  gapRuns 0 (tableNumbers [
    "bdOeHDkPGDkDbSDBADBBDBBDBADcUKDFABBDCAABAACAABAACAEBADCAMBBGBAACABBAUDOBBAADACCFOBARCAbLBAAC",
    "ABBAICAABAACAABAACABBABCBACAGDCFDCBDBDDABCKCBCABQACAADACBAECADBAACAIBAACAABAACAABAACABBAACAb",
    "ADCACAKBACCAOBABCADBAACAABABCACBABCAFBbMKDZbGBAIDJADYDDBIDBCDBEDSACAEBABCAABAACAJBAACAABACCA",
    "CDEABBDBBACAABAZCDABCEBAACAABHIDAJBACCBACABBABCAFBAACAOBBcEDcDADBADEHDEADDGDKBDbDADcGADEDDIA",
    "DUBDbAEDcFADEQDbEBDDADLBDcFADEHDEADUBDWHDcGADCADBDDIJDLBDbEADcJADMADbYADDADcDADBCDFQDLBDbDAD",
    "cGADCADGADFBDUBDbCBDcFBDEDDIADUBDbDADcUADHEDdMADCGDMHDdUADCIDLGDcVBDbBADBADBADcDNDBEDBBDFbVD",
    "JADdYDDBFDBBDCBDZBDECDQDDNADCBDGADPADbbBCDbkKCDbDBDbEBDbEBDcPGDIADCKDJADbPABYdKBMBDAbHBAADAA",
    "BeNCDEBDJADGCDiLBDCADcGADBIDBADCHDGMDbWdFDbWADBEDBADFADbOIDMBDbGDDCBDBCDcEADBBDDADBCDcGHDCBD",
    "fWCDBMDBGDEADGADDBDhQcLDbbSbGDeoCCDfLADdSbFDvIDDeDBDbsqEDDBJDbGBDdCBDkMADDADEADZBDFADTbXBAAA",
    "dDBDbARDNADbMHDZKDbUCDbWADCDDCBDbNADcPFDCBDCBDMADIADbVADbZADBCDCBDFBDBADbQBDIADjEADCADEADbdz",
    "SADbdPPDblLADiSADfTEDcmGODbOHDeYEBAACBACBBCCAAAECADBAAAAEBAACACBAACCACABDEDBAACfOABAACAABACC",
    "ACBAACABBAACAABABCAABAACXDCABBmZAAAbGBAACAABADDcNEDmFBDVACABBBBBbYFDbWCBAACAQBBKDACBAACbBDBA",
    "BCALBADDbQABBBBACCBABABCABBAACABBBABABCAABEACAABAAAcBADcCODbPADCBDKCDbXDDCBDHADcJCDbKEDBHDcK",
    "ADMBDcAIDKDDCADdRCDCADBBDGADCADgBADDHDVBDcFBDDADbLODcSFDNADBADBADOBDdHHDCCDBADXADdGFDBADEBDB",
    "BDjEDDGBDBBDbBBDdHHDCADBBDeCADBADCFDBADdXADBADCDDBEDjZIDBBDjWBDBADEADfOHDEADbGJDbOFDCDDIADJF",
    "DCCDbUMDBBDhQADBCDBADhTNDBADdEVDCGDBBDBBDeSUDBADcUBDDADBADnJBDLBDcAEDFADBADXADhxTADGODqyYLDD",
    "CDdsAEDcHGDboIADcLDDdDADbdbKBDgyZcSDuYCDRHDCGDbEDDfSCDcyDcCDEbXDIADOADWUDcaIfNDgEGDoLADcJDDt",
    "ODDjUBDjJADCADHBDFADsGGDcXbHBAHD"])

def ofChar (c : Char) : Joining :=
  ((valueAt? runs c.toNat).bind fun i => tabled[i]?).getD .none

def joinsNext (j : Joining) : Bool :=
  j == .left || j == .dual

def joinsPrevious (j : Joining) : Bool :=
  j == .right || j == .dual

end Joining

end Conform.Text
