import Conform.Text.CharSet

/-!
# Scripts

The Unicode properties `Script` and `Script_Extensions`, as version 16 of the standard gives them:
the script that a character belongs to, and all scripts that use it.
-/

namespace Conform.Text.Script

/-- The names of each script without case and separators, in the order of the table: the
four-letter code and the long name, with a comma between them. -/
def names : List (List String) :=
  ([
    "zyyy,common arab,arabic latn,latin ethi,ethiopic grek,greek qaai,zinh,inherited hani,han",
    "taml,tamil guru,gurmukhi gran,grantha beng,bengali gujr,gujarati hang,hangul kana,katakana",
    "orya,oriya knda,kannada sinh,sinhala telu,telugu laoo,lao tutg,tulutigalari cyrl,cyrillic",
    "geor,georgian hebr,hebrew diak,divesakuru khar,kharoshthi vith,vithkuqi linb,linearb",
    "mlym,malayalam gonm,masaramgondi tibt,tibetan cprt,cypriot glag,glagolitic gong,gunjalagondi",
    "hira,hiragana mong,mongolian deva,devanagari dupl,duployan limb,limbu mult,multani",
    "hmng,pahawhhmong lana,taitham armn,armenian bhks,bhaiksuki cham xsux,cuneiform khmr,khmer",
    "mymr,myanmar talu,newtailue hmnp,nyiakengpuachuehmong syrc,syriac tang,tangut adlm,adlam",
    "ahom bopo,bopomofo brah,brahmi cans,canadianaboriginal cher,cherokee copt,qaac,coptic",
    "gara,garay hatr,hatran java,javanese kawi kits,khitansmallscript lepc,lepcha lina,lineara",
    "marc,marchen mtei,meeteimayek merc,meroiticcursive miao,plrd mroo,mro nand,nandinagari",
    "hung,oldhungarian phlp,psalterpahlavi sgnw,signwriting tagb,tagbanwa tfng,tifinagh",
    "yezi,yezidi avst,avestan bali,balinese bamu,bamum bass,bassavah batk,batak bugi,buginese",
    "aghb,caucasianalbanian cakm,chakma egyp,egyptianhieroglyphs rohg,hanifirohingya",
    "armi,imperialaramaic phli,inscriptionalpahlavi prti,inscriptionalparthian kthi,kaithi",
    "kali,kayahli khoj,khojki sind,khudawadi lisu lydi,lydian mand,mandaic mani,manichaean",
    "mend,mendekikakui modi nbat,nabataean newa nkoo,nko nshu,nushu onao,olonal ital,olditalic",
    "xpeo,oldpersian osge,osage osma,osmanya phnx,phoenician rjng,rejang runr,runic",
    "samr,samaritan saur,saurashtra sidd,siddham sora,sorasompeng sund,sundanese sunu,sunuwar",
    "tglg,tagalog tale,taile tavt,taiviet takr,takri tnsa,tangsa thai tirh,tirhuta ugar,ugaritic",
    "wcho,wancho wara,warangciti yiii,yi hluw,anatolianhieroglyphs brai,braille buhd,buhid",
    "cari,carian chrs,chorasmian cpmn,cyprominoan dsrt,deseret dogr,dogra elba,elbasan",
    "elym,elymaic goth,gothic gukh,gurungkhema hano,hanunoo krai,kiratrai lyci,lycian",
    "mahj,mahajani maka,makasar medf,medefaidrin mero,meroitichieroglyphs nagm,nagmundari",
    "ogam,ogham olck,olchiki narb,oldnortharabian perm,oldpermic sogo,oldsogdian",
    "sarb,oldsoutharabian orkh,oldturkic ougr,olduyghur palm,palmyrene pauc,paucinhau",
    "phag,phagspa shrd,sharada shaw,shavian sogd,sogdian soyo,soyombo sylo,sylotinagri",
    "thaa,thaana todr,todhri toto vaii,vai zanb,zanabazarsquare"].flatMap
      (String.splitOn · " ")).map (String.splitOn · ",")

/-- The runs of equal script over all code points: one more than the place of the script among the
names, and zero where there is none. -/
def runs : List (CodeRange × Nat) :=
  valueRuns 0 (tableNumbers [
    "cNBbADGBbADbVBBDPBBDFBXDBBbFDBBrHDbNBFDFBCcCUBeIGEFBBDFCAEFBBBFEABFBBBFBBDFBABFBAUFBAcLFOcGQ",
    "FfDVCGgNVBAbMbQCAbYbQCADbQBAcDXIAbBXEAGXLAFCBBGCBBOCBBDCBBbGCBBKCLGbACBGeECBBbICObYBAcIbYCAD",
    "bYbWCbYgKOAcHdZCADdZbUeJCAPeJBAbCdTCABdTBALbYFAbFCBACCFAcXCBBbDCdDbKEGPbKCBbAbKELBAILCACLCAW",
    "LBAHLBABLDAELCAJLCACLCAELIABLEACLBAFLCAZLCADJBAGJEACJCAWJBAHJBACJBACJBACJCABJBAFJEACJCADJDAB",
    "JHAEJBABJHARJKADMBAJMBADMBAWMBAHMBACMBAFMCAKMBADMBADMCABMPAEMCAMMHAHMBADPBAIPCACPCAWPBAHPBAC",
    "PBAFPCAJPCACPCADPHADPEACPBAFPCASPKACIBAGIDADIBAEIDACIBABIBACIDACIDADIDAMIEAFIDADIBAEICABIGAB",
    "IOAVIFANSBADSBAXSBAQSCAJSBADSBAESHACSBADSCABSCAESCAKSHAJSNQBADQBAXQBAKQBAFQCAJQBADQBAEQHACQG",
    "ACQBAEQCAKQBADQMANbCBADbCBAbZbCBADbCBAGbCEAQbCCAbAbCBADRBASRDAYRBAJRBABRCAHRDABREAGRBABRBAIR",
    "GAKRCADRMAcGeUEABBbCeUbLACTBABTBAFTBAYTBABTBAXTCAFTBABTBAHTBAKTCAETbGAcUbEBAbKbEEAbNbEBAbKbE",
    "BAPbEBAHbEEBCbEbLAgEbVbMWBABWFABWCAbRWBBEWjWNcVEBAEECAHEBABEBAEECAbPEBAEECAbHEBAEECAHEBABEBA",
    "EECAPEBAcFEBAEECAcPECAbGEDAbAEGAdIcFCAGcFCAyQcEbDfUDAcXeIDBLeIHAWePJABePVfMCBJAUfCMANcXBADcX",
    "BACcXMAdQbUCAKbUGAKbUGACbJCBBbJBBUbJGAdLbJHAbRbJFAcScEKAbFbMBAMbMEAMbMEABbMDAMbMbEeQCAFeQLAb",
    "SbWEAbAbWGALbWDACbWbGbUbCdFCACdFcLbPBAbDbPCALbPGAKbPGAObPCAbFGbXAcZdBBAbYdBcMeNcAdEIAEdEcEcM",
    "DAPcMDADcMbWfVLVFAbRWCADWIeNIADGBBNGBBHGEBBGGBBGDBCGBBFAbMDFFBVbXDFFEDFFNDBVcSDBFcMGjWDWFCAG",
    "FCAbMFCAGFCAIFBABFBABFBABFBAbFFCAcBFBAPFBAOFCAGFBATFCADFBAJFBAMBCGdJBBALBBDCALBBDPBBANDDAbHB",
    "PAbHGPAbMBBFDBCDGBBDbBBBDRBbPDDBEAzQBWALBVAbjSBjWfByEBCAbGBBAeBBdSbGbGDeMcGFAHcGbMWBABWFABWC",
    "AcEcYHACcYOABcYXEJAHEBAHEBAHEBAHEBAHEBAHEBAHEBAHEBAbGVdQBbIAbAHBAdLHMAiGHbAAVBBHBBBHZBJHEGCN",
    "IBEHEBBAdIbICACGCBDbIBBdMOCBDOFAbRcCBAdQNBAQBbGcCbMBJABBQObFNBAcMBbFNdDBbVOBBdKOgMBjtOHcMBbf",
    "bKHbsVeZDAcDeZJAbWdRlOgNUAdSVdKdCIAbIBdYDDBcPDCACDBABDBAIDVAODbTgJDAKBGAcEgEIAcSeKIAMeKGAbGb",
    "KbUdOBBBdObKeHLABeHbDNDAdAcJBABBKcJEACcJbFbVBAcDbSJAObSCAKbSCAEbSbGbVcPeRYAFeRXcPKAGECAGECAG",
    "EJAHEBAHEBAbRDBBJDBFEDCBEAdCcFbUcPCAKcPGAqnSNMAXNEAbXNmnCAoCHCAeCHbMAHDMAFbQFAbAXBAFXBABXBAC",
    "XBACXBAKXeLCQAnZCCBdCCCAcCCHABCbGAQCQGKBGAOGCVbJBBATBBAEBEAFCBAfFCCABBBAbGBbADGBbADLBKOBBbTO",
    "CBbFNDAGNCAGNCAGNCADNDAHBBAHBKAFBCAMbBBAbAbBBATbBBACbBBAPbBCAObBbIAeTbBFADBEAbTBDAJBdBFBANBD",
    "ABFbVAbTBBGfAAbDfODAbXfDPABGbBBEAbKeCJADeCbBfKFAbRfXFAbEeWBABeWbKeDEAOeDbQAdCfGbWgGbEeFCAKeF",
    "GAbKeEEAbKeEEAbOfIIAcAdGLABdGLbABAPbABAHbABACbABALbABAPbABAHbABACbADAcAgLMAlZcNJAWcNKAIcNYAG",
    "DBAbQDBAJDcRAGbFCABbFBAbSbFBACbFDABbFCABbFWdKBAJdKbGgCbFdXIAJdXbWATcIBACcIFAFcIbCeGDABeGbAdS",
    "FABdScMAbGfSYcQEAUcQCAbUcQEZBACZFAIZBADZBAbDZCADZEAKZHAJZHAbGfZbGfWbGAbNdUEAMdUJAcCdADAHdAWd",
    "MCAIdMTdLFAIdLScVHAEcVMAHcVdCAcVgAcDAbZcUNAbZcUHAGcUbOdJIAKdJGAbMcHDAbDcHIACcHiAAbFCBAbQcZBA",
    "DcZCACcZQADCcDAECbOfYIAbQgHWAbAgBbMAbCfEUAXfJJAdAcDEAbKcDJABcDcPdNKABdNCAZeMHAKeMGAcBdHBASdH",
    "IAbNfPJAdSgFBAURLASdPBAbVdPcKAHbNBABbNBAEbNBAPbNBALbNGAcHdQFAKdQGAEKBAIKCACKCAWKBAHKBACKBAFK",
    "BABGJKCACKCADKCABKGABKFAHKCAHKDAFKLAKUBABUCABUBAbMUBAKUBABUCABUBAEUBAKUBACUIACUbDAdOdYBAFdYb",
    "EAcUeVIAKeVgKAcCeLCAbMeLbIAcRdWLAKdWGANbJTAcGeSGAKeSGAUbVbCAbBcBCAPcBEAXcBhDAcIfHdWAdFeYMABe",
    "YHYCABYCAIYBACYBAbEYBACYCAMYJAKYcSAIcTCAbUcTCALcTbBAcUgOIAdFgINAQcEcFgDHAKbKhAAbIeOOAKeOGAJb",
    "RBAbTbRBAObRKAbDbRDAbGcOCAWcOBAOcOcVAHbDBACbDBAbSbDDABbDBACbDBAJbDIAKbDGAGbHBACbHBAbLbHBACbH",
    "BAGbHHAKbHlYAZfQHARcKBAbPcKDAbDcKdHABdRPAbYINABIbjMbTdYAeHbTBAFbTLAhObTdxKAdVfFNAbqSdIKAfxRd",
    "IFAwLfAkdDAcGfLcoSAvXdCHAbFcSBAKcSEACcSdBeTBAKeTGAbEdDCAGdDKAcSbOKAKbOBAHbOBAVbOFATbOqQAcGfN",
    "hQAdNfRdXAcXcREAcFcRHARcRcMABbZBeACHBcLLACHOAjcAbZIAbdObZsCcLbPABcLJbZnfRAEOBAHOBACOBABOlBbI",
    "DOPABbIbDADbICABOOAEOIApGeAdkUAeDbLFANbLDAJbLHAKbLCAEbLEBfvGAjQBGAqUBcYAbUGCAXGJAeMBcIAjMBKA",
    "bNBCAcKBDGRBIGCBHGbEBEGcJBVAcSFeSAUBMAUBMAdJBJAZBfFAdHBBAcTBBACBCABBCACBCAEBBAMBBABBBAHBBAcN",
    "BBAEBCAIBBAHBBAbCBBAEBBAFBBABBDAHBBAnCBCAlGBCAbYBzCcWPAFcWBAPcWbqMAbFDGAGDiFAHbGBARbGCAHbGBA",
    "CbGBAFbGFAcKVbHABVeIAbTbXDAObXCAKbXEACbXmIAbFgMRAcGeXFABeXrWAbQfTiGAbReBEABeBsMAHEBAEEBACEBA",
    "PEBAhPdVCAQdVbPAcYcAEAKcAEACcAbeFAcQBcYAcJBhMAECBAbBCBACCBABCCABCBAKCBAECBABCBABCGABCEABCBAB",
    "CBABCBADCBACCBABCCABCBABCBABCBABCBABCBACCBABCCAECBAHCBAECBAECBABCBAKCBARCFADCBAFCBARCcAACCkK",
    "AbSBEAdWBMAPBCAPBBAPBBAbLBKAgSBcEAbABBbICBNAbSBEAJBHACBOAGBfYAblWBEARBDANBDAePBEAdRBGAMBEABB",
    "PAMBEAcEBIAKBGAbOBIAbEBCAMBEACBcKAnCBMAOBCANBDAKBFAcEBHAPBCALBGAJBHAfRBBAdYBbnQAclfCHbGAgdUH",
    "GAiOHCAinQHOAlbLHPAxYHdqWAuWHcfYAhhZHFAgfGHbomxLABBbEAdSBeYAjGGlecUA"])

/-- The lists of a table that gives the length of each before its members. -/
def groupsOf : Nat → List Nat → List (List Nat)
  | fuel + 1, size :: rest => rest.take size :: groupsOf fuel (rest.drop size)
  | _, _ => []

def groups : List (List Nat) :=
  let numbers := tableNumbers [
    "BGDbAbEcMCBcFCHJGGMNbHcBeYBbJCGbYCNbHBCCBbXCbAbEFGMNbHcBDBcYgJCIbMDKdGgICLdODPTcSEbJdMfGfODb",
    "UdGePCKbJCCGCCcBBbKCbJgECUbFCGcBBEBeHCbIgDCJbJQILPTbBbJcSdMdOdPdVeReUfGfOgEPILPTbJcSdMdOdPdV",
    "eReUfGfOgELILbJdMdOdPdVeReUfGfOCCbXDbAbEfECEcFHBbXcGcYdIdYgJEcWeOfBfLIGMNbDbHbIcBeYJGMNbDbHb",
    "IcBdQeYDGNbHCBdYCBgJCCeNCCUEJKPbJQCEGVbFbGbKcFcZdRfCfHfJfOfWgFHCKUbJdQeTgLCCdQCCeTIBbXbZcGcY",
    "dIdYgJJBbXbZcUdIdSdTgAgGVHIJKLOPQRbBbCbGbJcSdPeAeReUfGfOgIXHIJKLOPQRbBbCbGbJbLcSdPeAeReUfGfK",
    "fOgIDCVbFDJPbJCbJcSLJKOPQRTbBbJcSeUBKBcSDCbIgDCBbZGVbFcTfCfNfZEEcTfCfRMILbJdMdOdPdVeReUfGfOg",
    "ECCcFCcZfZHVcTcZdMdReIfCDBbZcTHGMNbHbIcBeYIGMNbHbIcBeYgDDCbUdNCcIdEDBbXgJCBdIDCJbJNCHIJKLOPR",
    "bBbJeUgEMCHIJKLOPRbBbJeUICEUcEcFeNePfWICEUcEeDeNePgKECUcEcXFCbFbXeNeTLCEUbXcEcFcXdFeDfJgKGCN",
    "bFcFfHfJECEUfWJCWbKbXcFcXePfWgKKCEUWbKbPbXePfJfWCCcXDCbKbXECUcEeDDCcEePCCDDCUgKECEfWgKFCNbKb",
    "XcEECbKbXcEDCbXeNDCbXcEGCcEdFeNeTfJCCeDDCdFgKGHOPRbBbJEJPTbJDCUbXBbXCUfWDKTbJCHbJDVbFbPCdTgA"]
  groupsOf numbers.length numbers

/-- The runs of characters that several scripts use, or another script than their own: one more
than the place of the list of scripts, and zero for all other characters. -/
def sharedRuns : List (CodeRange × Nat) :=
  valueRuns 0 (tableNumbers [
    "hBABbVtWABbWKABWBADWBABbXJABbYBABWbMABdBBdCBdDBdEBdFBdGBdHBdIBdJBdKBdLBdMBdNBbSBdOBABbSBdPBA",
    "BdQMABbICABdRBdSBbIHABdTBbIBABdUBdVQABbBCABbBSABdWFABdXEANJEACbKkJABeCBZCbTBZjXABeFfAABbLOAB",
    "bLBcWCABbZbGABcAKALKKAKNGABKdVABcXyMABcZBdARABcBBcCKSeOAKPeOAKOeOAKQjMAOEjIAKRbgQAKTgVABcDcg",
    "LADbCcTACbMhVACbDBABbDbvEABbUBGBbUBcEBGCUBYBUBYBdYBGCYCGBYBUHGBcFBUCGBUEGBcGBbEBdZCUBcHCbEBc",
    "IhPACbBcCABeABABeBvSABcJbFABcKKABcLCABcMfQABcYezMABcOYABcPBcQKABXEABcRBABZqMAQHBABcSBcTBMCAB",
    "BBACbNCbOGFBABMIFEMKAEbACABMFIBABMEACbPCBdLAEIDABIdMABFBIfRAQBbGAbMBJABHbWAbOBcEAbXBPAMBbZAB",
    "BdKAZBKAFBdSAbFBbriUABZfOAIVlKADbFDbGCbHBcNBbHhBABeDBABeEcGABcUgEABcVbfpMACbQgWABbRKABbRcTAC",
    "MkWAFFKABIbTACInOACbJBLEAbTCDAJLqAAbCDdaKABeGdbIABEBABEcDACEetVACEBABEchjWAEXipWASBlrYACBced",
    "jYA"])

/-- The place of a script name, without case and separators, in the table. -/
def index? (name : String) : Option Nat :=
  names.findIdx? fun ns => ns.contains name

/-- The characters of the script at a place in the table. -/
def members (i : Nat) : CharSet :=
  .ofAscending (rangesWith runs (· == i + 1))

/-- The characters that the script at a place in the table uses. -/
def users (i : Nat) : CharSet :=
  let shared := CharSet.ofAscending (rangesWith sharedRuns (· ≠ 0))
  let own := CharSet.ofAscending
    (rangesWith sharedRuns fun v => v ≠ 0 && (groups[v - 1]?.any fun g => g.contains i))
  ((members i).diff shared).union own

end Conform.Text.Script
