import Conform.Text.CharSet

/-!
# Break properties

The Unicode properties `Grapheme_Cluster_Break`, `Word_Break` and `Sentence_Break`, as version 16
of the standard gives them: what a character does to the boundaries in a text.
-/

namespace Conform.Text

/-- A kind of boundary in a text. -/
inductive Break where
  | grapheme
  | word
  | sentence
  deriving DecidableEq

namespace Break

/-- The names of the values of the property, without case and separators, in the order of its
table. -/
def values : Break → List (List String)
  | .grapheme =>
    [["cr"], ["lf"], ["cn", "control"], ["ex", "extend"], ["zwj"],
      ["ri", "regionalindicator"], ["pp", "prepend"], ["sm", "spacingmark"], ["l"], ["v"], ["t"],
      ["lv"], ["lvt"]]
  | .word =>
    [["cr"], ["lf"], ["nl", "newline"], ["extend"], ["zwj"], ["ri", "regionalindicator"],
      ["fo", "format"], ["ka", "katakana"], ["hl", "hebrewletter"], ["le", "aletter"],
      ["sq", "singlequote"], ["dq", "doublequote"], ["mb", "midnumlet"], ["ml", "midletter"],
      ["mn", "midnum"], ["nu", "numeric"], ["ex", "extendnumlet"], ["wsegspace"]]
  | .sentence =>
    [["cr"], ["lf"], ["ex", "extend"], ["se", "sep"], ["fo", "format"], ["sp"],
      ["lo", "lower"], ["up", "upper"], ["le", "oletter"], ["nu", "numeric"], ["at", "aterm"],
      ["sc", "scontinue"], ["st", "sterm"], ["cl", "close"]]

/-- The runs of the boundaries of graphemes: one more than the place of the value, and zero for
all other characters. -/
def graphemeRuns : List (CodeRange × Nat) :=
  valueRuns 0 (tableNumbers [
    "KDBCCDBBSDdRAbHDNABDwWAeIEkPAHEkDAbTEBABEBACEBACEBABEcEAGHKALEBABDbUAVEQABEdXAHEBHBAGECACEBA",
    "EEbHABHBABEbEAbBEdNALEcGAJEJABEYAEEBAJEBADEBAFEbRADEcAACHFAJEbQAYEBHbGEBIcCABEBIBEBADIIEEIBE",
    "CIBAHEKACEbDABECIcEABEBABECIEECACICACIBEJABEKACEbAABECACEBIcEABEBADICEEACECADEDABEbEACEDABEL",
    "ACEBIcEABEBADIFEBACEBIBACIBEUACEWAGEBABECIcEABEBACEBIEECACICACIBEHADEKACEbEABEcHABEBIBECIDAD",
    "IBADIBEJABEbOABEDIBEcDABEBADEEIBADEBAEEHACELACEbDABECIcEABEBABICEBIBECIBADEBAEEHACELACEPABIM",
    "ACECIcDACEBABECIEEBADIBADIBEBHIABEKACEbDABECIcSABEEABECIDEBABEBAHIBESACIcJABEBABIHEMAIEdUABE",
    "BABIJELAHEcVACEbBABEBABEBABEEACIbXAOEBIFEBACEFALEBAbKEJABEdYAEEBIGEBACECICEXACICEEADEQAEENAB",
    "EBABICEGABEPABEdUAdSJcUKdKLnLADEbkKAEEbCADEbDACEbEACEcMACEBIHEIIBECILEJABEbTADEBDBEeNACEbIAB",
    "EeOADEEICEDIEACIBEGIDEiLACECIBEcFABIBEBIHEBABEBABECAIEGIKECABEbWAbFEbXAEEBIbVAKEEIDEbMAJEMAC",
    "EBIbEABIEECIGEcEABEBICEDIBEBIFEbWAIIIECICEfWADEBANEBIHEEABEGABECABICEhQAcMEuDABDBEBFCDYAHDbX",
    "AQDdSAbHEeoCADEfLABEdSAbGEvIAGEeBACEbsqEAEEBAKEbGACEdCACEkMABEDABEEABEXACICEBIEABEdFACIbYAQI",
    "CEbAASENABEbMAIEZALEBIBEMAbDJDADEBIbVABECIEECICECIBEbKABEcPAGECICECICEMABEIABEBIbUABEbZABEBA",
    "DECACEFACEBABEbPABICECIFABIBEjCACIBECIBECIBABIBESABMbBNBMbBNBMbBNBMbBNBMbBNBMbBNBMbBNBMbBNBM",
    "bBNBMbBNBMbBNBMbBNBMbBNBMbBNBMbBNBMbBNBMbBNBMbBNBMbBNBMbBNBMbBNBMbBNBMbBNBMbBNBMbBNBMbBNBMbB",
    "NBMbBNBMbBNBMbBNBMbBNBMbBNBMbBNBMbBNBMbBNBMbBNBMbBNBMbBNBMbBNBMbBNBMbBNBMbBNBMbBNBMbBNBMbBNB",
    "MbBNBMbBNBMbBNBMbBNBMbBNBMbBNBMbBNBMbBNBMbBNBMbBNBMbBNBMbBNBMbBNBMbBNBMbBNBMbBNBMbBNBMbBNBMb",
    "BNBMbBNBMbBNBMbBNBMbBNBMbBNBMbBNBMbBNBMbBNBMbBNBMbBNBMbBNBMbBNBMbBNBMbBNBMbBNBMbBNBMbBNBMbBN",
    "BMbBNBMbBNBMbBNBMbBNBMbBNBMbBNBMbBNBMbBNBMbBNBMbBNBMbBNBMbBNBMbBNBMbBNBMbBNBMbBNBMbBNBMbBNBM",
    "bBNBMbBNBMbBNBMbBNBMbBNBMbBNBMbBNBMbBNBMbBNBMbBNBMbBNBMbBNBMbBNBMbBNBMbBNBMbBNBMbBNBMbBNBMbB",
    "NBMbBNBMbBNBMbBNBMbBNBMbBNBMbBNBMbBNBMbBNBMbBNBMbBNBMbBNBMbBNBMbBNBMbBNBMbBNBMbBNBMbBNBMbBNB",
    "MbBNBMbBNBMbBNBMbBNBMbBNBMbBNBMbBNBMbBNBMbBNBMbBNBMbBNBMbBNBMbBNBMbBNBMbBNBMbBNBMbBNBMbBNBMb",
    "BNBMbBNBMbBNBMbBNBMbBNBMbBNBMbBNBMbBNBMbBNBMbBNBMbBNBMbBNBMbBNBMbBNBMbBNBMbBNBMbBNBMbBNBMbBN",
    "BMbBNBMbBNBMbBNBMbBNBMbBNBMbBNBMbBNBMbBNBMbBNBMbBNBMbBNBMbBNBMbBNBMbBNBMbBNBMbBNBMbBNBMbBNBM",
    "bBNBMbBNBMbBNBMbBNBMbBNBMbBNBMbBNBMbBNBMbBNBMbBNBMbBNBMbBNBMbBNBMbBNBMbBNBMbBNBMbBNBMbBNBMbB",
    "NBMbBNBMbBNBMbBNBMbBNBMbBNBMbBNBMbBNBMbBNBMbBNBMbBNBMbBNBMbBNBMbBNBMbBNBMbBNBMbBNBMbBNBMbBNB",
    "MbBNBMbBNBMbBNBMbBNBMbBNBMbBNBMbBNBMbBNBMbBNBMbBNBMbBNBMbBNBMbBNBMbBNBMbBNBMbBNBMbBNBMbBNBMb",
    "BNBMbBNBMbBNBMbBNBMbBNBMbBNBMbBNBMbBNBMbBNBMbBNBMbBNBMbBNBMbBNBMbBNBMbBNBMbBNBMbBNBMbBNBMbBN",
    "BMbBNBMbBNBMbBNBMbBNBMbBNBMbBNBMbBNBMbBNBMbBNBMbBNBMbBNBMbBNBMbBNBMbBNBMbBNBMbBNBMbBNBMbBNBM",
    "bBNBMbBNBMbBNBMbBNBMbBNBMbBNBMbBNBMbBNBMbBNBMbBNBMbBNBMbBNBMbBNBMbBNBMbBNBMbBNBMbBNBMbBNBMbB",
    "NBMbBNBMbBNBMbBNBMbBNBMbBNBMbBNBMbBNBMbBNBMbBNBMbBNBMbBNBMbBNBMbBNBMbBNBMbBNBMbBNBMbBNBMbBNB",
    "MbBNBMbBNBMbBNBMbBNBMbBNBMbBNBMbBNBMbBNBMbBNBMbBNBMbBNBMbBNBMbBNBMbBNBMbBNBMbBNBMbBNBMbBNBMb",
    "BNBMbBNBMbBNBMbBNBMbBNBMbBNBMbBNBMbBNBMbBNBMbBNBMbBNBMbBNBMbBNBMbBNBMbBNBMbBNBMbBNBMbBNBMbBN",
    "BMbBNBMbBNBMbBNBMbBNBMbBNBMbBNBMbBNBMbBNBMbBNBMbBNBMbBNBMbBNBMbBNBMbBNBMbBNBMbBNBMbBNBMbBNBM",
    "bBNBMbBNBMbBNBMbBNBMbBNBMbBNBMbBNBMbBNBMbBNBMbBNBMbBNBMbBNBMbBNBMbBNBMbBNBMbBNBMbBNBMbBNBMbB",
    "NBMbBNBMbBNBMbBNBMbBNMAXKEAbXLnhYABEbcJAQEQAQEhZABDgCACEdCAMDtTABEiSABEfTAFEcmGADEBACEFAEEbO",
    "ADEEABEgJACEwBAEEcNAFEmFACEdBAEEcSALEbXAEEeSABIBEBIcBAPEbPABECACEKADEBIbTADIEECICECABHEABEKA",
    "BHbYADEbKAFEBIIEQACIbSABEMACEBIbWADIJEBIBEBACHFAEEBABIBEdOADIDECIEEGABECABEgBABEDIIEVACECIcD",
    "ACEBABEBIBEEICACICACIBEJABEKACICAHEDAFEcPABECIGEBABECABEBADEBIBACIDEBHBEOACEdEADIIECIDEBIBEX",
    "ABEdDABECIGEBIBECIBEBICEBICEjBABECIEECAEICEBICEbBACEdEADIIECIBEBICEeCABEBIBECIIEdXABEBIBECAE",
    "EBIFEjWADIJEBICEjLABEFIBACICAEEBHBIBHBIBEfLADIEECACEEIBEDABIbCAKEbOAGEBIBHEEIABEJAGECIDEbOAG",
    "HNEBICEpPABIHEBAGEBIBEdEAWEBABIHEBICEBICEeSAGEDABEBACEBAHEBHBEcOAFIBACEBACIBEBIBEnJACECIJACE",
    "BHBIbWACIFEDACIDEXABEhxDAQDBEGAPEqyYAMEDIDEdsAAFEcHAHEvKABKDAEKsQABEBAcDIHAEEdDABELACEbdaXAC",
    "EBAEDgyUAbUECAXEuWAFEDAGEIDIECAHEbEAEEfSADEcyDAcDEEAbYEIABEOABEWAFEBAPEcaIAHEBARECAHEBACEBAF",
    "EdWABEgEAHEoLABEcJAEEtOAEEjUACEbcIAHEeFAHEdgTAbAGtNAFEbsxxOAbGDdSEeYDjGEfiMDkyuIA"])

def wordRuns : List (CodeRange × Nat) :=
  valueRuns 0 (tableNumbers [
    "KABCCDBBSABSBABMEABLEABPBABNBAKQBOBPFAbAKEABRBAbAKKABDbKABKCABHHABKBABOCABKFAXKBAbFKBAsMKGAb",
    "IKeIEFKBACKCAEKBPBKGABKBODKBABKBAUKBAdFKBAfJKBAHEgKKBAbMKCAEKBABKBObPKBPBKGAbTEBABEBACEBACEB",
    "ABEIAbBJEAEJBKBOLAGQGACPCALEBABHDAbRKVEKQBABQBPBACKBEdVKBABKHEBQBAGECKCEBAEECKKQDKCABKPACKBE",
    "bEKbBECAdLKLEBKOAKQbHKJECKCABPBABKCABECAWKEEBKJEBKDEBKFESAZKDEEALKFAYKBAGKBACQFAJEbQKYEBQbHE",
    "cCKDEBKSEBKHEKKCECAKQBAQKDEBAIKCACKCAWKBAHKBABKDAEKCABEBKHECACECADEBKIABEEACKBADKCECAKQCKKAB",
    "KBABECADEBAGKEACKCAWKBAHKBACKBACKBACKCABEBAFEEACECADEDABEHAEKBABKHAKQCEDKBELADEBAJKBADKBAWKB",
    "AHKBACKBAFKCABEBKIEBADEBADECABKPACKCECAKQJABKGEBADEBAIKCACKCAWKBAHKBACKBAFKCABEBKHECACECADEH",
    "ADEEACKBADKCECAKQBABKQABEBKBAGKDADKBAEKDACKBABKBACKDACKDADKDAMKEAFEDADEBAEECABKGABEOAKQQAFEI",
    "KBADKBAXKBAQKCABEBKHEBADEBAEEHACEBADKCABKCACKCECAKQQABKDEBAIKBADKBAXKBAKKBAFKCABEBKHEBADEBAE",
    "EHACEGACKBACKCECAKQBACKBEMAEEJKBADKBAbPKCEBKHEBADEBAEEBKFADKBEHADKCECAKQKAGKBADEBASKDAYKBAJK",
    "BABKCAHKDABEEAGEBABEBAIEGAKQCACEcJABECAHEMAIEBAKQdJABECAJELAHEBAKQbMABKXACEGAKQLABEBABEBABEE",
    "ACEIKBAbKKEAUEBACEFKLEBAbKEJABEdWAUEBAKQMAEEEADEBADECAHEDAEENAMEBABEKQEECAbMKBABKFABKCAbRKBA",
    "mVKBAEKCAHKBABKBAEKCAbPKBAEKCAbHKBAEKCAHKBABKBAEKCAPKBAcFKBAEKCAcPKCADEbGAQKQAdIKCAGKDAxWKCA",
    "RKBSbAKFAcXKDALKHASKEEJATKDELASKCEMANKBADKBACEcMAbGEJABECAKQbHADEBHBEKQGAdLKHAFKCEbIKBEBKFAc",
    "SKKAbFKBAMEEAMEKAKQeYALQbLAXKFEcFAKEBAbDECABEKQGAKQWAbFEbXAFEbVKREIKDAKQRAJEMADEbEKNECKKQbSK",
    "OEMAbKKUEIAKQDADKKQbKKCALKFAbRKCADKQADEBAVEEKBEGKBECKDEBKFAhKKcMEkSKCAGKCAbMKCAGKCAIKBABKBAB",
    "KBABKBAbFKCAcBKBAHKBABKDADKBAHKDAEKCAGKEANKFADKBAHKDAHSBADSBABEBFCHIACNKABNCABOCDFHBRPACRDAB",
    "PPABRKABSFHBAKHBABKNABKQANKbZAbHERABKEABKCAKKBABKDAFKGABKBABKBABKBAEKBALKCAEKFAFKEABKRAbPKbf",
    "HAcAKcrUAiVKGAEKDECKMAbMKBABKFABKCAcEKHABKPABEXKJAHKBAHKBAHKBAHKBAHKBAHKBAHKBAHKBAbGEbVABKrW",
    "ABSEABKbKAGEBAFIFACKdOACECIDAdNIBAEIFAbRKBAdQKRAbGKbWAQIiAAbVIBAdKIbpdWAbsVKcPAbUKCAkJKDAQKK",
    "QCKUAbVKEEBAKEBAbFKCEdCKCEWAhQKCACKBABKBAIKVAQKBEDKBEEKBEXKFEEABETAcAKMACEbYKSEKAKQGASEGKDAB",
    "KBACKBEKQbCKIECAXKNEMAbDKDAEEbVKOEOABKKQLABEKAKQGAbPKOEJADKBEIKCECAKQbHADEbYABEBADECACEFACEB",
    "ABEbEALKFECADKCEKAGKCAGKCAGKJAHKBAHKBAcGKGAeLKIEBACECAKQGAqnSKMAXKEAbXKngUAHKMAFKFABJBEKJBAN",
    "JBAFJBABJBACJBACJBAKJdUKbHAnZKSAcMKCAcCKbOAMKEAQEDABOMAQEDACRYADRBPBABNBABPBObAAFKBAfFKCABHH",
    "ABNEABPBABNBAKQBOBPFAbAKEABRBAbAKLAcEICEbFKDAGKCAGKCAGKCADKbCADHEAMKBAbAKBATKBACKBAPKCAOKbIA",
    "eTKcRAcBKfGABEfAAbDKDAbXKPABEbFAbGKNAbEKFAbMKFEFAbEKCAbKKEAIKBAFKbQAgCKCAKQGAbKKEAbKKEAbOKIA",
    "cAKMALKBAPKBAHKBACKBALKBAPKBAHKBACKDAcAKMAlZKJAWKKAIKYAGKBAbQKBAJKcRAGKCABKBAbSKBACKDABKCAXK",
    "KAXKJAbFKcNATKBACKKAWKKAbAKcSAcEKGACKcMABKDEBACEFAEEEKBADKBAbDKCADEEABEbGAbDKDAbDKbJAIKBAbCK",
    "CEZAcCKKAWKKATKNASKeGAcVKcDAbZKNAbZKNAbKKEEIAKQGAKQbCKDAFEBAXKjQAbQKBACEDACKQADKcDAEEbDKKABK",
    "IAWKLEbFASKEEbQAVKbBAXKJADEcBKPEbFAKQBECKCEBKJAEEbTKLECABQEABEKABQCAZKHAKQGADEbKKOEBAKQEABKC",
    "EBKIAbJKBECABKJADEbWKOEEKEAEEBACEKQBKBABKbJASKBAZKMEGABECKBEcKAHKBABKBAEKBAPKBAKKHAbVKMEFAKQ",
    "GAEEBAIKCACKCAWKBAHKBACKBAFKBACEBKHECACECADECABKGABEFAFKCECAHEDAFELAKKBABKCABKBAbMKBABKJEBAB",
    "ECABEBAEEBAFEBKBEBKNACEbDAcBKSEEKFAKQEABEDKbEAbWKUECKBABKIAKQgKAbVKHECAJEXAEKCEbIAbWKREDABKL",
    "AKQbMAbRKNEBKHAKQGAUQcFAPEEAKQhQAbSKPEdXAcMKKQVAIKCABKCAIKBACKBAYKGEBACECAEEBKBEBKCEMAKQcSAI",
    "KCAbNKHECAHEBKBABKBEbBABKKEbOKHEBKEEIABEIABKLEbUKQEDABKSAcVKhRAbHKPAKQGAJKBAbLKIEBAIEBKPAKQY",
    "AbEKCAWEBAOEcVAHKBACKBAbMKGEDABEBACEBAHEBKBEIAKQGAGKBACKBAbGKFEBACEBAFEBKHAKQlYATKEEJACEBKBE",
    "NKBAbIKHEDAFENAKQBEdHABKdBAbjMKdYAeHKRAhOKdxKAdTKPAbpGKQHBEGKPEKAfxRKFAwLKkdDAbEKSEKQcoSAvXK",
    "HAbFKBAKQGAdBKBAKQGAbEKCAFELAbWKHEJAEKMAKQJAVKFATKqQAbTKDAKQhQAcMKeYAcXKEABEBKcDEHAEENKcMACK",
    "BABKBELACEygCAEIBAHIBACIBABIlBADIbYABIOAEIeaIAeDKFANKDAJKHAKKDACEBAEHgeMAKQtYAbUECAXEuWAFEDA",
    "GEIHIECAHEbEAEEfSADErBAdHKBAcTKBACKCABKCACKCAEKBAMKBABKBAHKBAcNKBAEKCAIKBAHKBAbCKBAEKBAFKBAB",
    "KDAHKBAnCKCAZKBAZKBAbFKBAZKBAbFKBAZKBAbFKBAZKBAbFKBAZKBAIKCAbYQtSAcDEEAbYEIABEOABEWAFEBAPEbq",
    "MAbFKGAGKiFAHEBARECAHEBACEBAFEFAcKKbHABEeIAbTKDAHEHKCAKQEABKmJAbEKBERAbSKEEKQsCAbCKEEKQiGAbE",
    "KCEBKKQsRAHKBAEKBACKBAPKBAhPKLAHEbPAcQKHEBKEAKQbtUAEKBAbBKBACKBABKCABKBAKKBAEKBABKBABKGABKEA",
    "BKBABKBABKBADKBACKBABKCABKBABKBABKBABKBABKBACKBABKCAEKBAHKBAEKBAEKBABKBAKKBARKFADKBAFKBARKyE",
    "AbAKGAbAKGAbAKdOAbAGtNAFEdaEAKQbsuxBABHbEAdSEeYAjGElecUA"])

def sentenceRuns : List (CodeRange × Nat) :=
  valueRuns 0 (tableNumbers [
    "JABGBCCGBBSABGBNBOEADOCACMBLBAKKCMDABNBAbAIBOBABODAbAHBOBABOHABEbAABGJABHBOBABFHABHEABHBOEAX",
    "IBAHIYHBAIHBIBHBIBHBIBHBIBHBIBHBIBHBIBHBIBHBIBHBIBHBIBHBIBHBIBHBIBHBIBHBIBHBIBHBIBHBIBHBIBHB",
    "IBHBIBHBIBHBIBHBIBHBIBHBIBHBICHBIBHBIBHBIBHBIBHBIBHBIBHBIBHBICHBIBHBIBHBIBHBIBHBIBHBIBHBIBHB",
    "IBHBIBHBIBHBIBHBIBHBIBHBIBHBIBHBIBHBIBHBIBHBIBHBIBHBIBHBIBHBIBHCIBHBIBHBIDHCIBHBIBHCIBHDICHE",
    "IBHCIBHDIDHCIBHCIBHBIBHBIBHCIBHBICHBIBHCIBHDIBHBIBHCICHBJBIDHEJCIBHCIBHCIBHBIBHBIBHBIBHBIBHB",
    "IBHBIBHBIBHBICHBIBHBIBHBIBHBIBHBIBHBIBHBIBHBIBHBICHCIBHBIBHDIBHBIBHBIBHBIBHBIBHBIBHBIBHBIBHB",
    "IBHBIBHBIBHBIBHBIBHBIBHBIBHBIBHBIBHBIBHBIBHBIBHBIBHBIBHBIBHBIBHBIBHBIBHBIBHBIBHBIBHBIHHCIBHC",
    "ICHBIBHEIBHBIBHBIBHBIBHBIcRHBJbKHHJCHEAMJOAFHHABJBABJRAeIDBIBHBIBHBJBABIBHCAEHBMBIGABIBADIBA",
    "BIBACIBHRIBAJIbJHBICHDIDHBIBHBIBHBIBHBIBHBIBHBIBHBIBHBIBHBIBHBIBHBIBHBIFHBIBHBABIBHCICHbZIbW",
    "HBIBHBIBHBIBHBIBHBIBHBIBHBIBHBIBHBIBHBIBHBIBHBIBHBIBHBIBHBIBHBIBHBIBHBAHDBIBHBIBHBIBHBIBHBIB",
    "HBIBHBIBHBIBHBIBHBIBHBIBHBIBHBIBHBIBHBIBHBIBHBIBHBIBHBIBHBIBHBIBHBIBHBIBHBIBHBIBHBIBHBIBHCIB",
    "HBIBHBIBHBIBHBIBHBIBHBICHBIBHBIBHBIBHBIBHBIBHBIBHBIBHBIBHBIBHBIBHBIBHBIBHBIBHBIBHBIBHBIBHBIB",
    "HBIBHBIBHBIBHBIBHBIBHBIBHBIBHBIBHBIBHBIBHBIBHBIBHBIBHBIBHBIBHBIBHBIBHBIBHBIBHBIBHBIBHBIBHBIB",
    "HBIBHBIBHBIBHBIBHBIBHBIBHBIBHBIBHBAbMICABJDABMCAbPHBNHAbTDBABDBACDBACDBABDIAbBJEAFJMAGKGACMC",
    "ALDBABFDNbRJVDKKBACKBACJBDdVJBNBJHDBKBAGDCJCDBAEDCJKKDJCABJDNMABFBJBDbEJbBDCAdLJLDBJOAKKbHJJ",
    "DCJCABMBNBJCABDCAWJEDBJJDBJDDBJFDJABNBABNDACNBAZJDDEALJFAYJBAGJBACKFAJDbQJYDBKbHDcCJDDBJSDBJ",
    "HDKJCDCNKKBAQJDDBAIJCACJCAWJBAHJBABJDAEJCABDBJHDCACDCADDBJIABDEACJBADJCDCAKKCJKABJBABDCADDBA",
    "GJEACJCAWJBAHJBACJBACJBACJCABDBAFDEACDCADDDABDHAEJBABJHAKKCDDJBDLADDBAJJBADJBAWJBAHJBACJBAFJ",
    "CABDBJIDBADDBADDCABJPACJCDCAKKJABJGDBADDBAIJCACJCAWJBAHJBACJBAFJCABDBJHDCACDCADDHADDEACJBADJ",
    "CDCAKKBABJQABDBJBAGJDADJBAEJDACJBABJBACJDACJDADJDAMJEAFDDADDBAEDCABJGABDOAKKQAFDIJBADJBAXJBA",
    "QJCABDBJHDBADDBAEDHACDBADJCABJCACJCDCAKKQABJDDBAIJBADJBAXJBAKJBAFJCABDBJHDBADDBAEDHACDGACJBA",
    "CJCDCAKKBACJBDMAEDJJBADJBAbPJCDBJHDBADDBAEDBJFADJBDHADJCDCAKKKAGJBADDBASJDAYJBAJJBABJCAHJDAB",
    "DEAGDBABDBAIDGAKKCACDNAbWJBDCJHDFAHJIDBAKKbNACJBABJBAFJBAYJBABJBAKJBDCJJDBJCAFJBABJBAHDBAKKC",
    "AEJbGABJXACDGAKKLABDBABDBABDEOCDIJBAbKJEAUDBACDFJLDBAbKDJABDcFAbRJUDBJKKCNEAGJEDEJDDBJDDCJHD",
    "DJEDNJMDBJBDKKEDCAbMIBABIFABICAbRJBABHmUJBAEJCAHJBABJBAEJCAbPJBAEJCAbHJBAEJCAHJBABJBAEJCAPJB",
    "AcFJBAEJCAcPJCADDCABNEACNXAQJQAdIICAGHDAxWJBABNRJBGbAJCODAcXJDALJHASJEDJATJDDCNJASJCDMANJBAD",
    "JBACDMAcAJbGDCNBABJEABJBDCAKKYABMBNEABMBNBADDBFBDKKGAdLJHAFJCDbIJBDBJFAcSJKAbFJBAMDEAMDIACNK",
    "KbEJCAFJLAbSJEAbAJGALKbLAXJFDEAcBJKDBAbDDCABDKKGAKKNABJENEAbFDbXAFDbVJRDIJBACNKKCNCACNLAJDJA",
    "DNDDbEJNDCJKKbSJODMAbKJUDDACNDAKKDADJKKbKJCNJHBIBHFAbRJCADJQADDBAVDEJBDGJBDCJDDBJFAhKHcMDBIB",
    "HBIBHBIBHBIBHBIBHBIBHBIBHBIBHBIBHBIBHBIBHBIBHBIBHBIBHBIBHBIBHBIBHBIBHBIBHBIBHBIBHBIBHBIBHBIB",
    "HBIBHBIBHBIBHBIBHBIBHBIBHBIBHBIBHBIBHBIBHBIBHBIBHBIBHBIBHBIBHBIBHBIBHBIBHBIBHBIBHBIBHBIBHBIB",
    "HBIBHBIBHBIBHBIBHBIBHBIBHBIBHBIBHBIBHBIBHBIBHBIBHBIBHBIBHBIBHBIBHBIBHBIBHBIBHBIBHBIBHBIBHBIB",
    "HBIBHBIBHBIBHBIBHBIJHBIBHBIBHBIBHBIBHBIBHBIBHBIBHBIBHBIBHBIBHBIBHBIBHBIBHBIBHBIBHBIBHBIBHBIB",
    "HBIBHBIBHBIBHBIBHBIBHBIBHBIBHBIBHBIBHBIBHBIBHBIBHBIBHBIBHBIBHBIBHBIBHBIBHBIBHBIBHBIBHBIBHBIB",
    "HBIBHBIBHBIBHBIBHBIBHBIBHBIBHBIJHIIGHCAGICAIHIIIHIIGHCAGICAIHBABIBABIBABIBABIIHIIOHCAIHIIIHI",
    "IIHIIFHBACHFIBABHDADHBACHFIDAEHCACHEIEAIHFIFADHBACHFIDALGBFCDCFDACMDAIOEABLDACEFFBGJACOBACNH",
    "ACODNVABGFFBAKFBABHLACOBHNACOBANHbZAbHDRABIEABICABHDICHDIBHBABIDAFIGABIBABIBABIBAEIBABHEIBHE",
    "JBHCACHCIFABIEHEABHRAQIQHDJBIBHEJoTAEObDACOpFAbAIbAHyBAGOHAOOdBACObFAKOpNAWOcLAEObGACOtUAbWI",
    "bWHBIBHDICHBIBHBIBHBIBHEIBHBICHBIIHDIBHBIBHBIBHBIBHBIBHBIBHBIBHBIBHBIBHBIBHBIBHBIBHBIBHBIBHB",
    "IBHBIBHBIBHBIBHBIBHBIBHBIBHBIBHBIBHBIBHBIBHBIBHBIBHBIBHBIBHBIBHBIBHBIBHBIBHBIBHBIBHBIBHBIBHB",
    "IBHBIBHBIBHBIBHBIBHBIBHBIBHBIBHBIBHBIBHBIBHBIBHBICHGABIBHBIBHDDBIBHFADNEAbMHBABHFABHCAcEJHAB",
    "JPABDXJJAHJBAHJBAHJBAHJBAHJBAHJBAHJBAHJBAbGDOOOACOCAKOEABNBJMABNFABOQACNIOqDABGBMBNCADJKOCAI",
    "OBADOBAJJGDBAFJCAFJEAdIJCACDCADJBAdMJBAEJFAbRJBAdQJRAbGJbWAQJtSAjtOJcMAbguFJcPAbUJBABNkJJBAC",
    "NQJKKCJUABIBHBIBHBIBHBIBHBIBHBIBHBIBHBIBHBIBHBIBHBIBHBIBHBIBHBIBHBIBHBIBHBIBHBIBHBIBHBIBHBIB",
    "HBIBHBIBHBJEDBAKDBABJBIBHBIBHBIBHBIBHBIBHBIBHBIBHBIBHBIBHBIBHBIBHBIBHBIBHBIDHCDdCJCDBABNDABN",
    "bFAJJCABIBHBIBHBIBHBIBHBIBHBIBHBIDHBIBHBIBHBIBHBIBHBIBHBIBHBIBHBIBHBIBHBIBHBIBHBIBHBIBHBIBHB",
    "IBHBIBHBIBHBIBHBIBHBIBHBIBHBIBHBIBHBIBHBIBHBIBHBIBHBIBHBIBHBIBHBIKHBIBHBIBHCIBHBIBHBIBHBIBHB",
    "IBHBJCABIBHBIBHBJBIBHBIDHBIBHBIBHBIBHBIBHBIBHBIBHBIBHBIBHBIBHBIBHFIBHFIBHBIBHBIBHBIBHBIBHBIB",
    "HBIBHBIBHEIBHBIBHCIBHCABIBHBABHBABHBIBHBIBHBIBHBIVADHBIBHBJDHHJBDDJBDEJBDXJFDEABDTAcAJCACNIA",
    "CDbYJSDIACNKKGASDGJDABJBACJBDKKbCJIDBABNXJNDMAbDJDAEDbVJODHACNFABJKKGAFJBDKJKKFJBAbPJODJADJB",
    "DIJCDCAKKDADNXJDABJDDbYJBDBJDDCJCDFJCDBJBDBJYADJCALJFDCNDJCDKAGJCAGJCAGJJAHJBAHJBAbRHBAOHGAd",
    "CHbJJIDBNCDCAKKGAqnSJMAXJEAbXJmnCAoCJCAeCJbMAHHMAFHFABJBDKJBANJBAFJBABJBACJBACJBAeEJbHAnZJCO",
    "QAcMJCAcCJbOAMJEAQDCMBNCMCNCOHAQDBACMCAQOCACOHACMBLBACMCNBMGOEABMMAFJBAfFJCABFBABNGACOCACMBL",
    "BAKKCMDABNBAbAIBOBABODAbAHBOBABOBACOBNCOBMBAcEJCDbFJDAGJCAGJCAGJCADJbCADFEAMJBAbAJBATJBACJBA",
    "PJCAOJbIAeTJcRAcBJfGABDfAAbDJDAbXJPABDbFAbGJNAbEJFAbMJFDFAbEJCAbKJEAIJBAFJbQAbOIbOHdAJCAKKGA",
    "bKIEAbKHEAbOJIAcAJMALIBAPIBAHIBACIBALHBAPHBAHHBACHDAcAJMAlZJJAWJKAIJYABHCJDHBAbQHBAJHcRAGJCA",
    "BJBAbSJBACJDABJCAXJKAXJJAbFJcNATJBACJKAWJKAbAJcSAcEJGACJcMABJDDBACDFAEDEJBADJBAbDJCADDEABDWA",
    "CNIAbDJDAbDJbJAIJBAbCJCDZAcCJKAWJKATJNASJeGAcVJcDAbZINAbZHNAbKJEDIAKKGAKKGJWIDAFDBABJWHjQAbQ",
    "JBACDDACJQADJcDAEDbDJKABJIAWJLDEAFNWASJEDENbMAVJbBAXJJADDcBJPDCNbDAKKBDCJCDBJJAEDbTJLDCABKEN",
    "BDKABKCAZJHAKKGADDbKJODBAKKBADNBJCDBJIAbJJBDCABJJADDbWJODEJCNCAEDBNCDKKBJBABJBACNbGASJBAZJMD",
    "CNBACNBABDCJBDcKAHJBABJBAEJBAPJBAKJBNGAbVJMDFAKKGAEDBAIJCACJCAWJBAHJBACJBAFJBACDBJHDCACDCADD",
    "CABJGABDFAFJCDCAHDDAFDLAKJBABJCABJBAbMJBABJJDBABDCABDBAEDBAFDBJBDBJCNLACDbDAcBJSDEJCNDAKKEAB",
    "DDJbEAbWJUDCJBABJIAKKgKAbVJHDCAJDBACNFAPNEJCDbIAbWJRDCNBABJLAKKbMAbRJNDBJHAKKGAUKbCAbBJCAPDE",
    "AKKCADNBAHJhDAbSJPDdXAbGIbGHKKVAIJCABJCAIJBACJBAYJGDBACDCAEDBJBDBJCDBNBABNJAKKcSAIJCAbNJHDCA",
    "HDBJBABJBDbBABJKDbOJHDBJEDDACNDABDIABJLDbUJQDBACNBJSAcVJhRAbHJPAKKGAJJBAbLJIDBAIDBJCNNAKKYAb",
    "EJCAWDBAODcVAHJBACJBAbMJGDDABDBACDBAHDBJBDIAKKGAGJBACJBAbGJFDBACDBAFDBJHAKKlYATJEDCNHACDBJBD",
    "NJBAbIJHDDAFDCNLAKKBDdHABJdBAbjMJdYAeHJRAhOJdxKAdTJPAbpGJQFBDGJPDKAfxRJFAwLJkdDAbEJSDKKcoSAv",
    "XJHAbFJBAKKEACNdBJBAKKGAbEJCAFDBNKAbWJHDCNHAEJBNLAKKJAVJFATJqQAbTJBACNKKhQAbGIbGHYABNdZAcXJE",
    "ABDBJcDDHAEDNJcMACJBABJBDLACDOAjcAJIAbvQJbPAKJnfRAEJBAHJBACJBAlFJPABJbDADJCABJOAEJIApGJdkUAe",
    "DJFANJDAJJHAKJDACDBNEFgeMAKKtYAbUDCAXDuWAFDDAGDIFIDCAHDbEAEDfSADDrBAbAIbAHbAIHHBASHbAIbAHBIB",
    "ACICABICACICAEIBAIIEHBABHBAHHBALHbAIbAHCIBAEICAIIBAHIBAbAHCIBAEIBAFIBABIDAHIBAbAHbAIbAHbAIbA",
    "HbAIbAHbAIbAHbAIbAHbAIbCHCAZIBAZHBAGHZIBAZHBAGHZIBAZHBAGHZIBAZHBAGHZIBAZHBAGHBIBHCAbYKtSAcDD",
    "EAbYDIABDOABDDABNSAFDBAPDbqMAKHBJUHGAGHiFAHDBARDCAHDBACDBAFDFAcKHbHABDeIAbTJDAHDHJCAKKEABJmJ",
    "AbEJBDRAbSJEDKKsCAbCJEDKKiGAbEJCDBJKKsRAHJBAEJBACJBAPJBAhPJLAHDbPAbIIbIHHDBJEAKKbtUAEJBAbBJB",
    "ACJBABJCABJBAKJBAEJBABJBABJGABJEABJBABJBABJBADJBACJBABJCABJBABJBABJBABJBABJBACJBABJCAEJBAHJB",
    "AEJBAEJBABJBAKJBARJFADJBAFJBARJyEAbAIGAbAIGAbAIbwMADOcbVAKKbnQAclfCJbGAgdUJGAiOJCAinQJOAlbLJ",
    "PAxYJdqWAuWJcfYAhhZJFAgfGJbomxLABFbEAdSDeYAjGDlecUA"])

/-- The runs of equal value over all code points. -/
def runs : Break → List (CodeRange × Nat)
  | .grapheme => graphemeRuns
  | .word => wordRuns
  | .sentence => sentenceRuns

def named? (b : Break) (name : String) : Option CharSet :=
  (b.values.findIdx? fun ns => ns.contains name).map fun i =>
    .ofAscending (rangesWith b.runs (· == i + 1))

end Break

end Conform.Text
