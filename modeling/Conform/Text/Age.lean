import Conform.Text.CharSet

/-!
# Ages of characters

The Unicode property `Age`: the version of the standard that assigned a character, up to version
16.
-/

namespace Conform.Text.Age

/-- The versions of the standard, oldest first. -/
def versions : List (Nat × Nat) :=
  [(1, 1), (2, 0), (2, 1), (3, 0), (3, 1), (3, 2), (4, 0), (4, 1), (5, 0), (5, 1), (5, 2),
    (6, 0), (6, 1), (6, 2), (6, 3), (7, 0), (8, 0), (9, 0), (10, 0), (11, 0), (12, 0), (12, 1),
    (13, 0), (14, 0), (15, 0), (15, 1), (16, 0)]

/-- The names of a version, without case and separators. -/
def names (v : Nat × Nat) : List String :=
  let major := toString v.1
  let minor := toString v.2
  [major ++ "." ++ minor, "v" ++ major ++ minor]

/-- The runs of equal age over all code points: one more than the place of the version, and zero
for unassigned characters. -/
def runs : List (CodeRange × Nat) :=
  valueRuns 0 (tableNumbers [
    "tIBEEbEBIEBGBHSEDHLIOJdLBFECHbVBBEKBFERHcSBJEBGIHFIDHCBBENGEKCBCKCABBDJBBBQEAHBBABBBAUBBAbSB",
    "BKHBBECGBBBEBBBEBBBEBBBESBCFBGFHEIBEMBBEcOBBEMBBEbPBBKCECGEEcBBCGCBCGCBCGBJbCBCEIBCICBGJQGEJ",
    "QKCLCMIQBAbMBCAHBBUbNBBUBBBECACQBNBARCBINCKBBJJBBCDIIAbBBEABUFBLAEHBNBQFKBIBBJHFKBBBPBYBIBBB",
    "MbABFKTBDEDHGIBMOBCGcUBCEFBBEPBBEbEBCHKBFEBHOEBAbEEDHbBECADHbEISKbXEBGOAcHJCADUbULCAPLBAbCMC",
    "ABMBALTFAbFYBACYFABbBIYBNBQLNGQCRBYISKXLYBUPSBRbBNBQBLDBBHcBBCMSBBLBMFBBLCMZBCKFMBQCLCJBICJB",
    "QDBBAIBCACBCAWBBAHBBABBDAEBCABBBHHBCACBCADBBIIABBEACBBAFBCAVBBLCTBUCABHBBBHBAGBEACBCAWBBAHBB",
    "ACBBACBBACBCABBBAFBEACBCADBDABKHAEBBABBHAPBBKBUKADBBAHBBHBBBADBBAWBBAHBBACBBAFBCAKBBADBBADBC",
    "ABBPABBDHCAKBBNBHHABRGTBADBBAIBCACBCAWBBAHBBACBBABHEBCAIBBKCACBCADBHABXCBEACBBADBCKCALBBHGMK",
    "ACBBAGBDADBBAEBDACBBABBBACBDACBDADBDAIBBIDBEAFBDADBBAEBCABKGABBOABIMBIHFABQDBBUIBBADBBAXBBAK",
    "BBQFBCABYBKHBBADBBAEBHACBBACKBRCABYCACBCKCAKBHABVIKBSBQCBBUIBBADBBAXBBAKBBAFBCACHHBBADBBAEBH",
    "ACBGABYBBBACBCJCAKBBACJBZMABTBQCBBXIBBADBBAXBBMQBBMCTBKGBBKBADBBAEBBMBSEADSBBHSBRCBCKCAKBGKD",
    "SHKBABXCEBASEDAYEBAJEBABECAHEDABEEAGEBABEBAIEGAKQCADEMAcGBEAbDBbLACBBABBBABVCBBVBBBABVBBGVEB",
    "BVHBBVDBBABBBABBCVCBBVNBBVDBCAFBBABBBAGBBZBAKBCACBCNbGAcUCBAbHCBECKEAbBCEMGCBEBCBAVCDEHCBEBC",
    "DEBAPEBABKBECIDKELCMbLAbIEBKFEBKCEBKHEDKEEGKbAEcMKELCKbMBBABNFABNCAbNBCGCIBBBIDNdMBFLcQBFLdE",
    "BGLHEBIcLEBIBEBAEECAHEBABEBAEECAbNEBIBEBAEECAbFEBIBEBAEECAHEBABEBAEECAHEBIHEBAXEBIbFEBIBEBAE",
    "ECAHEBIbNEBITECACMCIbCEDAbAIGAdHEBRCAGRCABLyGEJLbDEDAdDEIQHANGBYHGBYJABYXGJAUGMANGBADGBACGMA",
    "dPEBHCAKEGAKHGAPEBYKEGAdKEBUHAbQEBKFAcSLKAbDHCQBAMHEAMHEABHDAbQHCAFHLAbQICLEAbAIGAKIBLDACIbG",
    "HbCICACIcLLBAbDLCALLGAKLGAOLCAPQCXOYbXAcYJBYBACbBbTJCYBbBbRKDNMKGNcAMIAEMcEKDAPKDAbZKJSCbBFA",
    "bRUCADUINIAbJLENBTCQBVFAeEHdKIHJbCKPQETBYBSBMBLCJfZBBCEKdMBGKWBCAGBCAbMBCAGBCAIBBABBBABBBABB",
    "BAbFBCAcBBBAPBBAOBCAGBBATBCADBBAJBBAbVBBEXBBGGEFGCHCIBGHIFGBKBAEPHBBGCAbBBBAFIIMDALBBCBDDECG",
    "EIDLBMBODQBRBTBYPASBCEHGBIEJBKPAcFBCEBHBIPGBICJBKDLbWBBEBJEKBLCREAdNBJEMGjIBOGBBBEeRBBEBGbEE",
    "cAGCHLIMJBLLMHQESBTbLBCEDbBWALBVAfJBUGBHfUBKGdCBIEIGUBCHCGBIBEdIBCEMGCIKGIHLIBKCLCHQIBJKKDLE",
    "KKLBMTLBMBLEMYLBQEBBMEBCMbCBBMbJBBMBBBMEBDMBBBLHBCMHBOGbFBDMYBBMOBBMHIEJBNBKBNCMbCGEKQGjWEtS",
    "GOHGIHJFKEJbPKDQFKFLbAQCAbGQBABXbIQDUMQBVIQBTZUERPUBVbVIBYbVIBYNJDKBLDKEJGKCLeDIHLCNFAbTIBAB",
    "NFABNCAcCICNHABIBMOABMXIJAHIBAHIBAHIBAHIBAHIBAHIBAHIBAHIBAbGKYIEKCITKBLKNHQCSFTFUBVDXLYbIAbA",
    "EBAdLEMAiGEbAAMEEbAcEBDEDGBEBBBAdGBCGCAGBCGdQBBGFAbOBBKBTBUBAdQBBAQBYEDMFXQIUKCbBJABbAQGbDBC",
    "HBAbKBMLBHPGbCBCHBIbYBPGMBEHbVBBWePBEHdVBCHbFBBHjtEEKXcMHbexYBWIIKILBNJRVTFUNXDYbsVEDASECGQE",
    "BGMEBGDEBGBEJAbWLlOKUAbGKCMSKINbCKGQBRBNdKLIAXIEJFKCJeDKCMBRCMCNMQKMBNDQBSBUCQGRCUGVCYFVEXDb",
    "BCACYBABYBAFYDbBVADYCXBQCNBMFKbSIBXDAKLGAcEJIAcRKBSIAMKGAbCLCRCUdGKLABKbDLDAdALBALLEACLbFQBA",
    "cDKJAOKCAKKCAEKbCLEQcPLYAFLXNKAGMCAGMCAGMJAHMBAHMBAbWQERCQCVEXEAdCRbULCAKLGAqnSCMAXLEAbXLdaY",
    "AjxUBCNcHGDLCAeCIbMAHBMAFBFABEZBBAFBBABBBACBBACBBAeEBQMBYQAoBBQYcMBCAcCBHABYbGFMBBGBHCYQGKIG",
    "AEBDKHQCRVBCGCHKBBATBBAEBEADBBGBBBAfFBCABBBAdQBCGdQBDAGBCAGBCAGBCADBDAHBBAHBKADEBDDBMHBAbAHB",
    "ATHBACHBAPHCAOHbIAeTHFADHEAbTHDAJHcXICQCSBAMKBXDABQbVAbUKfAAbDKDAbXKPAbCQEAbFFBQEFJADTbBFFAb",
    "RQFAbEHBABHbKIEAOIbQAbMFCHbMFdCHCAKHGAbKSEAbKSEAbOQIAcAQLABQLYBAPYBAHYBACYBALYBAPYBAHYBACYDA",
    "cAbBMAlZQJAWQKAIQYAGYBAbQYBAJYcRAGHCABHBAbSHBACHDABHCABHWLBAJLcLQIAJQbWATRBACRFAFRbAJCLDABJb",
    "AKFABKcMAcENEACRCNQRCAbUREIBACIFAIIBADIBAbBICUCADIEAJIBUHAJIHAbGLbGQbGAbNQEAMQJAcCLDAbDLCAbB",
    "LFAILSQHAEQMAHQdCAcVLcDAbZRNAbZRHAGRbOUIAKUGAbMbBDAbDbBIACbBiAAbFLBAbQXBADXCACXQADbBcDABbBDZ",
    "bOUIAbQUWAbAYbMAbCXUAXVJAdAMEAbEMGYJABQcOLBYKABUCAZNHAKNGAcBNBAONDUBXIAbNQJAcVNERBQCXKNBQFRB",
    "AUQLASQBAbRQBSDZcKAHRBABRBAERBAPRBALRGAcHQFAKQGABRDQBAIQCACQCAWQBAHQBACQBAFQBABUJQCACQCADQCA",
    "BRGABQFAHQCAHQDAFQLAKbBBABbBCABbBBAbMbBBAKbBBABbBCABbBBAEbBBAKbBBACbBIACbBbDAdMSBXBSBABSBUBV",
    "CXbEAcUQIAKQgKAcCQCASQURbIAcRQLAKQGANSTAcENBVBYGAKNGAUbBbCAbARBUCAPREAQRHYhDAcIUdWAdFQMABQHX",
    "CABXCAIXBACXBAbEXBACXCAMXJAKXcSAIVCAbUVCALVbBAcUTIAcATCVXTBUFTNAQYcFQHAKZhAAbIbBOAKbBGAJSBAb",
    "TSBAOSKAbDSDAbGSCAWSBAOScVAHTBACTBAbSTDABTBACTBAJTIAKTGAGUBACUBAbLUBACUBAGUHAKUlYAZUHARZBAbP",
    "ZDAbCZBbBdHABXPAbYVNABVbhVJbQQBRdYAdVJMQBAEJBQLAhORdxKAdVYNAbpFLBZJVbDZKAfxRbBFAwLRkdDAcGbBc",
    "oSAvXMHAbFQBAKQEACQdBYBAKYGAbEQCAGQKAcSQKAKQBAHQBAVQFATQqQAcGbBhQAdNUdXAcRNGVEABVbVNJVHARNcM",
    "ABSBTCVBXLACXOAjbPSFUGVIAbdBSsPXbPABbBJXnfRAEYBAHYBACYBACMkZTEYPABZbDADVCABZOAEVIApGTdkUAeDQ",
    "FANQDAJQHAKQCAIQfvGAjQbBGAqUbBcYAbUYCAXYJAeMYcIAjMFKAbNFCABKgYFLRCYVAcSIeSAUZMAUUMAdJHJASJHU",
    "fFAdHFBAcTFBACFCABFCACFCAEFBAMFBABFBAEFBHCFBAcNFBAEFCAIFBAHFBAbCFBAEFBAFFBABFDAHFBAnAFCICAlE",
    "FCJCAbYFzCRPAFRBAPRbqMAbFYGAGZiFAHSBARSCAHSBACSBAFSFAcKZbHABZeIAbTVDAOVCAKVEACVmIAbFYRAcGVFA",
    "BVrWAbQZiGAbRbBEABbBsMAHYBAEYBACYBAPYBAhPQCAQQbPAcXSBVEAKSEACSbeFAcQUcYAcJVhMAENBAbBNBACNBAB",
    "NCABNBAKNBAENBABNBABNGABNEABNBABNBABNBADNBACNBABNCABNBABNBABNBABNBABNBACNBABNCAENBAHNBAENBAE",
    "NBABNBAKNBARNFADNBAFNBARNcAACNkKAbSKEAdWKMAPMCAOMBQBAPMBAPMWQKALLCQDXbFLBUBMBLLMBLBMBLCMBLDM",
    "BLDMFLIMBLHMBLKMCNBVDXJMBLBMCLCMBLKMELCMBLKMSSBXcEAbAMBLCMNAbILJMBSEAJLHACMOAGTfYAbHMMQDRGMB",
    "QcSMBQCRUMMQbLMBQFMEQFRMQRMHQIRcLMBQBMBQhAMBQEMCQBRcKMCQENHQFRYMSQBSbPQBSdIQFMBNQMBNDMBNBMBN",
    "BMBNBMBNDMBNGMCNEMBNBMCNEMBNMMCQCRLMbWQcSMKQBRCSCTBVCXEABZDYNQDAEQDSCTBUBVCXDAeMMDZEAFZdHQEU",
    "BZGAMVEABYPAMQEAcEQIAKQGAbOQIAbEQCACXKbBEACbBcKAMTBXDVJRGSBTISITBSCTMSBVMSBTDUPSNTFUBVBXEUCX",
    "BYBUBVEUFRNSGTLUCXGVDXCVKUGVBRCUIVBXBYDVXTZUdGVMAOUCAEVBXDZDVCYDADVEXCZBbBFABbBGVTXEYDZHXEYD",
    "ZBbBBZDXDYBbBHACZHXDYCZBbBCABbBIYBZBbBGAHYCZHAfRXBAcDXbLbBKXbnOACCcleTFHXCYbGAgdPLEYBZGAiOMC",
    "AinQROAlbLTPAxYbAdqWAuWFcfWACChhZXFAgfGZdflEACCdsyOACCdsyOACCdsyOACCdsyOACCdsyOACCdsyOACCdsy",
    "OACCdsyOACCdsyOACCdsyOACCBABFbEAdSFeYAjGHdsfMAhlxIC"])

/-- The characters that the version at a place or an older one assigned. -/
def members (i : Nat) : CharSet :=
  .ofAscending (rangesWith runs fun v => 1 ≤ v && v ≤ i + 1)

/-- The characters assigned up to the version of a name. -/
def named? (name : String) : Option CharSet :=
  (versions.findIdx? fun v => (names v).contains name).map members

end Conform.Text.Age
