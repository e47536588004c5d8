import Conform.Text.CharSet

/-!
# General categories

The Unicode property `General_Category` of every character.  Version 17 of the standard holds,
except in patterns, which follow version 16: what version 17 added is unassigned there.
-/

namespace Conform.Text

/-- The values of the property `General_Category`. -/
inductive Category where
  | unassigned
  | lowercaseLetter
  | uppercaseLetter
  | otherLetter
  | nonspacingMark
  | otherPunctuation
  | otherSymbol
  | spacingMark
  | openPunctuation
  | closePunctuation
  | otherNumber
  | modifierLetter
  | mathSymbol
  | decimalNumber
  | modifierSymbol
  | currencySymbol
  | format
  | dashPunctuation
  | letterNumber
  | initialPunctuation
  | finalPunctuation
  | titlecaseLetter
  | spaceSeparator
  | connectorPunctuation
  | enclosingMark
  | privateUse
  | control
  | lineSeparator
  | paragraphSeparator
  | surrogate
  deriving DecidableEq, Inhabited

namespace Category

/-- Every category, in the order of the table. -/
def all : List Category :=
  [.unassigned, .lowercaseLetter, .uppercaseLetter, .otherLetter, .nonspacingMark,
    .otherPunctuation, .otherSymbol, .spacingMark, .openPunctuation, .closePunctuation,
    .otherNumber, .modifierLetter, .mathSymbol, .decimalNumber, .modifierSymbol,
    .currencySymbol, .format, .dashPunctuation, .letterNumber, .initialPunctuation,
    .finalPunctuation, .titlecaseLetter, .spaceSeparator, .connectorPunctuation, .enclosingMark,
    .privateUse, .control, .lineSeparator, .paragraphSeparator, .surrogate]

/-- The two-letter name of a category. -/
def code : Category → String
  | .unassigned => "Cn"
  | .lowercaseLetter => "Ll"
  | .uppercaseLetter => "Lu"
  | .otherLetter => "Lo"
  | .nonspacingMark => "Mn"
  | .otherPunctuation => "Po"
  | .otherSymbol => "So"
  | .spacingMark => "Mc"
  | .openPunctuation => "Ps"
  | .closePunctuation => "Pe"
  | .otherNumber => "No"
  | .modifierLetter => "Lm"
  | .mathSymbol => "Sm"
  | .decimalNumber => "Nd"
  | .modifierSymbol => "Sk"
  | .currencySymbol => "Sc"
  | .format => "Cf"
  | .dashPunctuation => "Pd"
  | .letterNumber => "Nl"
  | .initialPunctuation => "Pi"
  | .finalPunctuation => "Pf"
  | .titlecaseLetter => "Lt"
  | .spaceSeparator => "Zs"
  | .connectorPunctuation => "Pc"
  | .enclosingMark => "Me"
  | .privateUse => "Co"
  | .control => "Cc"
  | .lineSeparator => "Zl"
  | .paragraphSeparator => "Zp"
  | .surrogate => "Cs"

def longName : Category → String
  | .unassigned => "Unassigned"
  | .lowercaseLetter => "Lowercase_Letter"
  | .uppercaseLetter => "Uppercase_Letter"
  | .otherLetter => "Other_Letter"
  | .nonspacingMark => "Nonspacing_Mark"
  | .otherPunctuation => "Other_Punctuation"
  | .otherSymbol => "Other_Symbol"
  | .spacingMark => "Spacing_Mark"
  | .openPunctuation => "Open_Punctuation"
  | .closePunctuation => "Close_Punctuation"
  | .otherNumber => "Other_Number"
  | .modifierLetter => "Modifier_Letter"
  | .mathSymbol => "Math_Symbol"
  | .decimalNumber => "Decimal_Number"
  | .modifierSymbol => "Modifier_Symbol"
  | .currencySymbol => "Currency_Symbol"
  | .format => "Format"
  | .dashPunctuation => "Dash_Punctuation"
  | .letterNumber => "Letter_Number"
  | .initialPunctuation => "Initial_Punctuation"
  | .finalPunctuation => "Final_Punctuation"
  | .titlecaseLetter => "Titlecase_Letter"
  | .spaceSeparator => "Space_Separator"
  | .connectorPunctuation => "Connector_Punctuation"
  | .enclosingMark => "Enclosing_Mark"
  | .privateUse => "Private_Use"
  | .control => "Control"
  | .lineSeparator => "Line_Separator"
  | .paragraphSeparator => "Paragraph_Separator"
  | .surrogate => "Surrogate"

/-- The runs of equal category over all code points. -/
def runs : List (CodeRange × Nat) :=
  valueRuns 0 (tableNumbers [
    "bGbABWDFBPDFBIBJBFBMBFBRCFKNCFDMCFbACBIBFBJBOBXBObABBIBMBJBMbHbABWBFEPBGBFBOBGBDBTBMBQBGBOBG",
    "BMCKBOBBCFBOBKBDBUDKBFXCBMHCYBBMIBBCBBBCBBBCBBBCBBBCBBBCBBBCBBBCBBBCBBBCBBBCBBBCBBBCBBBCBBBC",
    "BBBCBBBCBBBCBBBCBBBCBBBCBBBCBBBCBBBCBBBCBBBCBBBCBBBCCBBCBBBCBBBCBBBCBBBCBBBCBBBCBBBCCBBCBBBC",
    "BBBCBBBCBBBCBBBCBBBCBBBCBBBCBBBCBBBCBBBCBBBCBBBCBBBCBBBCBBBCBBBCBBBCBBBCBBBCBBBCBBBCBBCCBBBC",
    "BBBCDBCCBBBCBBCCBBDCCBECBBCCBBDCDBCCBBCCBBBCBBBCBBCCBBBCCBBCBBCCBBDCBBBCBBCCCBBDBCDBEDBCBVBB",
    "BCBVBBBCBVBBBCBBBCBBBCBBBCBBBCBBBCBBBCBBBCCBBCBBBCBBBCBBBCBBBCBBBCBBBCBBBCBBBCCBBCBVBBBCBBDC",
    "BBBCBBBCBBBCBBBCBBBCBBBCBBBCBBBCBBBCBBBCBBBCBBBCBBBCBBBCBBBCBBBCBBBCBBBCBBBCBBBCBBBCBBBCBBBC",
    "BBBCBBBCBBBCBBBCBBBCBBBCHBCCBBCCCBBCBBECBBBCBBBCBBBCBBBCcRBCDbABSLEOMLOOFLHOBLBOBLROeIEBCBBB",
    "CBBBLBOBCBBCABLDBBFBCEACOBCBFDCBABCBACCBBRCBAJCbJBBCCBDCDBBCBBBCBBBCBBBCBBBCBBBCBBBCBBBCBBBC",
    "BBBCBBBCBBBCFBBCBBBMBCBBCCCBbZCbWBBCBBBCBBBCBBBCBBBCBBBCBBBCBBBCBBBCBBBCBBBCBBBCBBBCBBBCBBBC",
    "BBBCBBBCBBBGFECYBCBBBCBBBCBBBCBBBCBBBCBBBCBBBCBBBCBBBCBBBCBBBCBBBCBBBCBBBCBBBCBBBCBBBCBBBCBB",
    "BCBBBCBBBCBBBCBBBCBBBCBBBCBBBCBBCCBBBCBBBCBBBCBBBCBBBCBBBCCBBCBBBCBBBCBBBCBBBCBBBCBBBCBBBCBB",
    "BCBBBCBBBCBBBCBBBCBBBCBBBCBBBCBBBCBBBCBBBCBBBCBBBCBBBCBBBCBBBCBBBCBBBCBBBCBBBCBBBCBBBCBBBCBB",
    "BCBBBCBBBCBBBCBBBCBBBCBBBCBBBCBBBCBBBCBBBCBBBCBBBCBBBCBBBCBBBCBBBCBBBAbMCCABLGFbPBBFBRCACGBP",
    "BAbTEBRBEBFCEBFCEBFBEIAbBDEAEDCFLAGQDMCFBPCFCGLEBFBQDFbGDBLKDVEKNEFCDBEdVDBFBDHEBQBGGECLCEBG",
    "EECDKNDDCGBDOFBABQBDBEbEDbBECAdLDLEBDOAKNbHDJECLBGDFBLCABECPWDEEBLJEBLDEBLFECAPFBAZDDECABFBA",
    "LDFAYDBOHDCQFAJEbPDBLYEBQbGEBHcCDBEBHBEBDDHIEEHBECHBDHEKDCECFKNBFBLPDBECHBAIDCACDCAWDBAHDBAB",
    "DDAEDCABEBDDHEECACHCACHBEBDIABHEACDBADDCECAKNCDCPGKBGBPBDBFBECACEBHBAGDEACDCAWDBAHDBACDBACDB",
    "ACDCABEBADHCEEACECADEDABEHAEDBABDHAKNCEDDBEBFKACEBHBAJDBADDBAWDBAHDBACDBAFDCABEBDDHFEBACEBHB",
    "ACHBECABDPACDCECAKNBFBPHABDGEBABECHBAIDCACDCAWDBAHDBACDBAFDCABEBDBHBEBHEECACHCACHBEHACEBHEAC",
    "DBADDCECAKNBGBDGKKABEBDBAGDDADDBAEDDACDBABDBACDDACDDADDDAMDEACHBECHDADHBADHBECABDGABHOAKNDKG",
    "GBPBGFABEDHBEIDBADDBAXDBAQDCABEBDDEEHBADEBAEEHACEBADDBACDCACDCECAKNHABFHKBGBDBECHBFIDBADDBAX",
    "DBAKDBAFDCABEBDBHBEFHBABECHBACHCEHACHFADDBACDCECAKNBACDBHMACECHJDBADDBAbPDCEBDDHEEBADHBADHBE",
    "BDBGEADDBHHKDDCECAKNJKBGGDBABECHBASDDAYDBAJDBABDCAHDDABEEADHDEBABEBAIHGAKNCACHBFMAbWDBECDHEE",
    "ABPGDBLIEBFKNCFbLACDBABDBAFDBAYDBABDBAKDBECDJEBDCAFDBABLBAHEBAKNCAEDbGABDDGPFBGBFDGCEGGKNKKB",
    "GBEBGBEBGBEBIBJBIBJCHIDBAbKDEAOEBHFEBFCEFDLEBAbKEBAIGBEGGBACGFFEGCFbLAbRDCHEEBHGEBHCECHCEBDK",
    "NGFGDCHCEEDDEBDDHCDHHDDEENDBECHCEGHBEBDBHKNDHBECGbMCBABCFABCCAbRBBFBLDBmRDBAEDCAHDBABDBAEDCA",
    "bPDBAEDCAbHDBAEDCAHDBABDBAEDCAPDBAcFDBAEDCAcPDCADEJFUKDAQDKGGAdICCAGBCABRxWDBGBFRDBWbADBIBJD",
    "AcXDDFDSIDHASDDEBHJATDCEBHCFJASDCEMANDBADDBACEMAcADCEBHHEIHBECHLEDFBLDFBPBDBECAKNGAKKGAGFBRE",
    "FDEBQBEKNGAbJDBLcBDHAFDCEbIDBEBDFAcSDKAbFDBADEEHCEDHEACHBEGHDEEABGDACFKNbEDCAFDLAbSDEAbADGAK",
    "NBKDAbIGXDCECHBECACFcBDBHBEBHHEBABEBHBECHIEGHKECABEKNGAKNGAHFBLGFCAOEBYbFECAMEUAEEBHbVDBEBHF",
    "EBHBEFHBECHIDBACFKNHFKGJEJGDFCEBHbEDBHEECHCEBHDECDKNbSDBEBHCEDHBEBHDECHIAEFbKDIHIECHCEDAFFKN",
    "DADDKNbEDGLCFJBBCBBFAbRCCADCIFIADEBFNEBHHEEDBEGDBECDBHCEBDFAbSBcLLNBBLbIBbLLcMEBCBBBCBBBCBBB",
    "CBBBCBBBCBBBCBBBCBBBCBBBCBBBCBBBCBBBCBBBCBBBCBBBCBBBCBBBCBBBCBBBCBBBCBBBCBBBCBBBCBBBCBBBCBBB",
    "CBBBCBBBCBBBCBBBCBBBCBBBCBBBCBBBCBBBCBBBCBBBCBBBCBBBCBBBCBBBCBBBCBBBCBBBCBBBCBBBCBBBCBBBCBBB",
    "CBBBCBBBCBBBCBBBCBBBCBBBCBBBCBBBCBBBCBBBCBBBCBBBCBBBCBBBCBBBCBBBCBBBCBBBCBBBCBBBCBBBCBBBCBBB",
    "CBBBCBBBCJBBCBBBCBBBCBBBCBBBCBBBCBBBCBBBCBBBCBBBCBBBCBBBCBBBCBBBCBBBCBBBCBBBCBBBCBBBCBBBCBBB",
    "CBBBCBBBCBBBCBBBCBBBCBBBCBBBCBBBCBBBCBBBCBBBCBBBCBBBCBBBCBBBCBBBCBBBCBBBCBBBCBBBCBBBCBBBCBBB",
    "CBBBCBBBCBBBCBBBCBBBCJBICGBCAGCCAIBICIBICGBCAGCCAIBBABCBABCBABCBABCIBICOBCAIBIVIBIVIBIVFBBAC",
    "BECBVBOBBDODBBACBECBVDOEBCACBECBADOIBFCDOCADBBACBECBVCOBALWFQGRCFBTBUBICTBUBIBTIFBbBBbCFQBWJ",
    "FBTBUEFCXDFBMBIBJLFBMBFBXKFBWFQBAKQBKBLCAGKDMBIBJBLKKDMBIBJBANLDAbIPOANEEYBEDYMEPACGBCEGBCCG",
    "BBDCCBDCBBBGBCCGBMFCGGBCBGBCBGBCBGECBGBBECBBEDBBCGCBCCFMBCEBBGBMCGBBBGQKbJSBCBBESBKCGEAFMFGC",
    "MEGBMCGBMCGBMHGBMbFGCMCGBMBGBMbFGkIMIGBIBJBIBJUGCMHGBIBJdDGBMbEGZMbOGGMcUGWALGVAcIKdAGWKhBGB",
    "MJGBMcCGIMeHGBMjOGBIBJBIBJBIBJBIBJBIBJBIBJBIBJbEKbSGFMBIBJbFMBIBJBIBJBIBJBIBJBIBJQMjWGfBMBIB",
    "JBIBJBIBJBIBJBIBJBIBJBIBJBIBJBIBJBIBJBIBJcLMBIBJBIBJbGMBIBJjYMbWGVMCGGMbNGCAfIGbWCbWBBCBBDCC",
    "BBCBBBCBBBCBBECBBBCCBBCGBCLDCBBBCBBBCBBBCBBBCBBBCBBBCBBBCBBBCBBBCBBBCBBBCBBBCBBBCBBBCBBBCBBB",
    "CBBBCBBBCBBBCBBBCBBBCBBBCBBBCBBBCBBBCBBBCBBBCBBBCBBBCBBBCBBBCBBBCBBBCBBBCBBBCBBBCBBBCBBBCBBB",
    "CBBBCBBBCBBBCBBBCBBBCBBBCBBBCBBBCBBBCBBBCCBGGBCBBBCBBDEBCBBFAEFBKCFbMBBABBFABBCAcEDHABLBFOAB",
    "EXDJAHDBAHDBAHDBAHDBAHDBAHDBAHDBAHDBAbGECFBTBUBTBUDFBTBUBFBTBUJFBRCFBRBFBTBUCFBTBUBIBJBIBJBI",
    "BJBIBJFFBLKFCREFBRBFBINFCGDFBIBJBIBJBIBJBIBJBRbIAbAGBAdLGMAiGGbAAQGBWDFBGBLBDBSBIBJBIBJBIBJB",
    "IBJBIBJCGBIBJBIBJBIBJBIBJBRBICJBGJSEECHBRFLCGDSBLBDBFCGBAdIDCACECOCLBDBRdMDBFDLBDFAbRDBAdQDB",
    "ACGEKKGbGDbMGJABGQDbFGBAKKbEGIKBGPKbGGKKbNGPKmIGjtODcMGbfcFDBLbrZDDAcDGJAbODGLCFkIDBLDFQDKNC",
    "DUABCBBBCBBBCBBBCBBBCBBBCBBBCBBBCBBBCBBBCBBBCBBBCBBBCBBBCBBBCBBBCBBBCBBBCBBBCBBBCBBBCBBBCBBB",
    "CBBBDBEDYBFKEBFBLBCBBBCBBBCBBBCBBBCBBBCBBBCBBBCBBBCBBBCBBBCBBBCBBBCBBBCBBCLCEcSDKSCEGFIAXOJL",
    "COBCBBBCBBBCBBBCBBBCBBBCBBBCDBBCBBBCBBBCBBBCBBBCBBBCBBBCBBBCBBBCBBBCBBBCBBBCBBBCBBBCBBBCBBBC",
    "BBBCBBBCBBBCBBBCBBBCBBBCBBBCBBBCBBBCBBBCBBBCBBBCBBBCBBBCBBBCBBBLIBBCBBBCBBCCBBBCBBBCBBBCBBBC",
    "BBBLCOBCBBBCBBBDBCBBBCDBBCBBBCBBBCBBBCBBBCBBBCBBBCBBBCBBBCBBBCBBFCBBFCBBBCBBBCBBBCBBBCBBBCBB",
    "BCBBBCBBECBBBCBBCCBBBCBBBCBBBCBBBCBBBCBBBCBBBCBBBCUAELBCBBBDCLBBHDBEDDBEEDBEXDCHCEBHEGBEDAGK",
    "CGBPBGGAcADEFIACHbYDQHCEIACFKNGASEGDDFBDBFCDBEKNbCDIECFXDLECHLABFbDDDADEBHbVDBECHEECHCEDHNFB",
    "ABLKNEACFFDBEBLJDKNFDBAbPDGECHCECHCEJADDBEIDBEBHCAKNCAEFQDBLGDDGBDBHBEBHbYDBEBDDECDCEFDCEBDB",
    "EBDYACDBLCFLDBHCECHCFBDCLBHBEKAGDCAGDCAGDJAHDBAHDBAbRBBOELJBBLCOEAdCBbJDCHBECHBECHBFBHBECAKN",
    "GAqnSDMAXDEAbXDEAdaUbDjmEZoCDCAeCDbMAHBMAFBFABDBEKDBMNDBAFDBABDBACDBACDBAeEDROQGnZDBJBIQGcMD",
    "CGcCDIGbGAMDBPDGQEHFBIBJBFGAQEBFCRCXBIBJBIBJBIBJBIBJBIBJBIBJBIBJBIBJCFBIBJEFDXDFBAEFBRBIBJBI",
    "BJBIBJDFBMBRDMBABFBPCFEAFDBAfFDCABQBADFBPDFBIBJBFBMBFBRCFKNCFDMCFbACBIBFBJBOBXBObABBIBMBJBMB",
    "IBJBFBIBJCFKDBLbTDCLbFDDAGDCAGDCAGDCADDDACPBMBOBGCPBABGEMCGKADQCGCAMDBAbADBATDBACDBAPDCAODbI",
    "AeTDFADFEAbTKDAJGcBSEKRGCKDGBANGDABGbVAbTGBEfAAbDDDAbXDPABEbBKEAbGDEKJAUDBSIDBSFAbMDFEFAbEDB",
    "ABFbKDEAIDBFFSbQAbOCbOBdADCAKNGAbKCEAbKBEAbODIAcADLABFLCBAPCBAHCBACCBALBBAPBBAHBBACBDAcADMAl",
    "ZDJAWDKAIDYAGLBAbQLBAJLcRAGDCABDBAbSDBACDDABDCAXDBABFIKXDCGHKbFDIAJKbWATDBACDFAFKWDGKDABFbAD",
    "FABFbADbMAcEDEACKCDQKCAbUKBDDEBACEFAEEEDBADDBAbDDCADEEABEJKHAJFHAbDDCKBFbDDDKbGAIDBGbCDCEEAF",
    "KHFJAcCDDAHFWDCAIKTDFAIKSDHAEFMAHKdCAcVDcDAbZCNAbZBHAGKbKDEEIAKNGAKNEDBLBDWCDAFEBRBLWBIACMiA",
    "AbFKBAbQDBACEBRCACDQADDBLCDIABFIGbHAGEbDDKKBDIAWDLEEKFFWASDEEEFbMAVDHKUAXDJABHBEBHcBDPEHFEAU",
    "KKNBECDCEBDJADEBHbTDDHEECHCECFBQEFBEKABQCAZDHAKNGADEbKDFEBHIEBAKNEFBDCHBDIAbJDBECFBDJACEBHbW",
    "DDHJECHEDEFEEBFBHBEKNBDBFBDDFBAUKLASDBAZDDHDECHBEBHCEGFBECDBEcKAHDBABDBAEDBAPDBAKDBFGAbVDBED",
    "HIEFAKNGACECHBAIDCACDCAWDBAHDBACDBAFDBACEBDCHBEEHCACHCADHCABDGABHFAFDCHCAHEDAFELAKDBABDCABDB",
    "AbMDBABDDHGEBABHCABHBAEHBACHBEBHBEBDBEBDCFBACFIACEbDAcBDDHIECHDEBHBEEDFFKNCFBABFBEDDbEAbWDDH",
    "GEBHBEEHCEBHCECDBFBDIAKNgKAbVDDHEECAEHCEBHCEXFEDCEbIAbWDDHIECHBEBHCEDFBDLAKNGANFTAbRDBEBHBEC",
    "HGEBHBEBDBFGAKNGAUNbCAbBDCABEBHBECHEEBHFEEAKNCKDFBGHDhDAbSDDHJEBHCEBFdWAbGCbGBKNJKMAIDCABDCA",
    "IDBACDBAYDGHBACHCACEBHBEBDBHBDBHBEDFJAKNcSAIDCAbNDDHEECACEEHBEBDBFBDBHbBABDKEbODGEBHBDEEIFBE",
    "IABDGECHDEbUDNEBHCEDFBDFFNAcVDHAKFdIABEBHDEBHBEBHdKAbHDBFOAKNGAJDBAbLDBHHEBAGEBHBEBDFFKAKNTK",
    "DACFbEDCAWEBABHHEBHCEBHCEcVAHDBACDBAbMDGEDABEBACEBAHEBDBEIAKNGAGDBACDBAbGDFHBACEBACHBEBHBEBD",
    "HAKNGAbPDBLCDEAKNjMATDCECHCFHACEBDBHNDBAbIDCHFEDACHBEBHBENFKNBEdHABDPAVKIGEPRGNABFbjMDdYAeHS",
    "BAFFLAhODdxKAdTDCFNAbpGDQQBEGDPEKAfxRDFAwLDkdDAbEDMEDHDEKNcoSAvXDHAbFDBAKNEACFdBDBAKNGAbEDCA",
    "FEBFKAbWDHEFFEGELBFBGKAKNBAHKBAVDFATDqQADLbODCLDFKNhQAbGCbGBXKEFFAZCCAZBbSAcXDEABEBDcDHHAEEN",
    "LcMACLBFBLBELACHCLDSJAkxYDbPAbGDdTAeLDmwRAELBAHLBACLBAlFDPABDbDADDCABDOAEDIApGDdkUAeDDFANDDA",
    "JDHAKDCABGCEBFEQfvGAjGGKNDGDAqUGGAXGPAQGBMPAbUECAXEJAeMGcIAjMGKAbNGCAcIGCHDEDGGHIQIECGHEbEGE",
    "EcJGVAcOGDEBGeSAUKMAUKMAdJGJAZKfFAbACbABbACHBBASBbACbABBCBACCCABCCACCCAECBAICEBBABBBAHBBALBb",
    "ACbABCCBAECCAICBAHCBAbABCCBAECBAFCBABCDAHCBAbABbACbABbACbABbACbABbACbABbACbABbACbCBCAZCBMZBB",
    "MGBZCBMZBBMGBZCBMZBBMGBZCBMZBBMGBZCBMZBBMGBBCBBCAbYNtSGcDEEGbYEIGBEOGBECGFFPAFEBAPEbqMAKBBDU",
    "BGAGBiFAHEBARECAHEBACEBAFEFAcKLbHABEeIAbTDDAHEHLCAKNEABDBGmIAbEDBERAbSDEEKNFABPrWAbBDBLEEKNi",
    "GAbEDCEBDKNEABFhKAbFDBADDBECDBEHDCEFDBEIABDBLiQAHDBAEDBACDBAPDBAhPDCAJKHEbPAbICbIBHEBLEAKNEA",
    "CFbeFAcHKBGDKBPEKcYAbTKBGPKhMAEDBAbBDBACDBABDCABDBAKDBAEDBABDBABDGABDEABDBABDBABDBADDBACDBAB",
    "DCABDBABDBABDBABDBABDBACDBABDCAEDBAHDBAEDBAEDBABDBAKDBARDFADDBAFDBARDcAACMkKAbSGEAdWGMAPGCAP",
    "GBAPGBAbLGKANKgFGcEAbDGNAbSGEAJGHACGOAGGfYAjRGFObcBGDARGDANGDAiKGGAMGEABGPAMGEAcEGIAKGGAbOGI",
    "AbEGCAMGEACGOAJMbNAnGGIAOGCANGDALGDAcFGBABGEAQGCAMGEAKGHAfRGBAdOGKNBGbnPAclfCDbGAgmODCAioCDC",
    "AlbLDPAxYDdqWAuWDcfYAhhZDFAmoODbogoDABQbEAdSQeYAjGEdsfOAdsyOZCAdsyOZCA"])

def ofCode (n : Nat) : Category :=
  ((valueAt? runs n).bind fun i => all[i]?).getD .unassigned

def ofChar (c : Char) : Category :=
  ofCode c.toNat

/-- The characters that version 17 assigned. -/
def addedSince16 : CharSet :=
  .ofTable [
    "dgHAblKAeXAfhIOCLcfLAecQAbvbBBCABAbCAbftHPrDBcCGeiRZcbJCIIbHBesAHwMbREJbeoSYCYlAEjcJHbxPVdTe",
    "KxwPCrDWPQjaLbEBVIBgaAAgCDnDIoPDbYADAcFAEAbCAEAkGAcsxRFiwGLbgfAgjH"]

/-- The lower-case letter of version 16 that became a letter without case. -/
def recased : CharSet := ⟨[(0x295, 0x295)]⟩

/-- The characters that have one of the categories in version 16. -/
def members (cats : List Category) : CharSet :=
  let now := CharSet.ofAscending (rangesWith runs fun i => all[i]?.any cats.contains)
  let kept := (now.diff addedSince16).diff recased
  let kept := if cats.contains .unassigned then kept.union addedSince16 else kept
  if cats.contains .lowercaseLetter then kept.union recased else kept

def letters : List Category :=
  [.uppercaseLetter, .lowercaseLetter, .titlecaseLetter, .modifierLetter, .otherLetter]

def marks : List Category :=
  [.nonspacingMark, .spacingMark, .enclosingMark]

def numbers : List Category :=
  [.decimalNumber, .letterNumber, .otherNumber]

/-- The categories of characters that do not show. -/
def hidden : List Category :=
  [.control, .format, .surrogate, .privateUse, .unassigned, .lineSeparator,
    .paragraphSeparator, .spaceSeparator]

end Category

def hasCategory (cats : List Category) (c : Char) : Bool :=
  cats.contains (Category.ofChar c)

end Conform.Text
