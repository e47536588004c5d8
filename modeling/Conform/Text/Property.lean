import Conform.Text.Category

/-!
# Binary properties

The properties that a character has or has not, as version 16 of the standard gives them, and the
names by which patterns ask for them.
-/

namespace Conform.Text.Property

open Category

/-! ### Letters and case -/

def otherAlphabetic : CharSet :=
  .ofTable [
    "bgFAbDMwENBABBBBBAcUKbWMBGQAdXGEDCBEAbJAbEPdYKdXBDIBCBDeCAcILDGGTcCBCOBBFCKBbDCcGGCBCBKAKBbD",
    "CcGEEBCBEAbEBDALCcGHBCBBVBWCECcGGCBCBJBKBbEAcHEDCBCKAbOEcFGBCBCIBLBbDCcGGBCBCIBLBPAMDcGGBCBC",
    "KAKBbDCcXFBABHSBcJACGSAdVACFBBQAgHSJKBbJeGLBACDXDECBCCGDDNLBAKDclOBbEBbEBbEBcOShGBbIAeOLEIiO",
    "EcFJCTcWBLCbXEbWOcICbEICBcFKbYSpWbHcoNbZdkGbFbtqAHbIBnQAIAXEdKBbYPBAcFAbMEbCLbTDbWLbLAcPNMAI",
    "BbTCbYABCCBFAbSEFAjDHbdzVAdeDEcmGCBBFDbeIDcNAmJBdBAjZCcBNbTBLCbTIJAcJCbKLSBcFCbWMOBdOICAGACA",
    "gBJXDcGGCBCBKAKBdGIBACABDBBdZMBCeCRjDGCGbDBdEOBAeCKdZNjXMjNFBBCBDABAfMGCFEAbCJbQEBDSKbUNpRHB",
    "GdFVBNeSFDABBBCBADAcOEBBBDnKDJBBAbWGDCyyNQfjCABcCHDdPBbdaYAnkJGBQCGBBBEdWAdhVAczWZGZGZ"]

def otherLowercase : CharSet :=
  .ofTable [
    "gOAPAtHIHBbEEdSAcAAfcZAepZcKNAbIbKbaNANAQMiDPbgQZcwOBbugKBiCAeZCDBbhIDJAbiwSACCBbPBIddzHcJ"]

def otherUppercase : CharSet :=
  .ofTable [
    "mqQPbgGZgsiYZGZGZ"]

def alphabetic : CharSet :=
  .unionOf [members (.letterNumber :: letters), otherAlphabetic]

def lowercase : CharSet :=
  (members [.lowercaseLetter]).union otherLowercase

def uppercase : CharSet :=
  (members [.uppercaseLetter]).union otherUppercase

def cased : CharSet :=
  .unionOf [lowercase, uppercase, members [.titlecaseLetter]]

def caseIgnorable : CharSet :=
  .unionOf [members [.nonspacingMark, .enclosingMark, .format, .modifierLetter,
    .modifierSymbol],
    ⟨[(0x27, 0x27), (0x2E, 0x2E), (0x3A, 0x3A), (0xB7, 0xB7), (0x387, 0x387), (0x55F, 0x55F),
      (0x5F4, 0x5F4), (0x2018, 0x2019), (0x2024, 0x2024), (0x2027, 0x2027), (0xFE13, 0xFE13),
      (0xFE52, 0xFE52), (0xFE55, 0xFE55), (0xFF07, 0xFF07), (0xFF0E, 0xFF0E), (0xFF1A, 0xFF1A)]⟩]

def changesWhenLowercased : CharSet :=
  (uppercase.union (members [.titlecaseLetter])).diff (.ofTable [
    "blQClbHAEADCCCCADEGADADBCBBAKBFAgiqKZbAZbAZbAABBCACBCDBHbAZbABBDCHBGbBBBDBEBADGbBZbAZbAZbAZb",
    "AZbAZbEYbHYbHYbHYbHYbHAjqBZGZGZ"])

def changesWhenCasefolded : CharSet :=
  changesWhenLowercased.symmDiff (.ofTable [
    "gZAbPAeBAcBArLAeUANBDBZBDApLAfiUdHCFdfUIuJBiUHIHIHKCCAKCCAbQCCAcavGdBbeaIGME"])

def changesWhenUppercased : CharSet :=
  (members [.lowercaseLetter]).symmDiff (.ofTable [
    "mAAdGAbCBOADAGACACAbMAbUASFbBACABACCCAEAFBBACBBGBBBACCGEBABHCQfTAhAAnRAbNAixBbRcLMCCBPBLjXBB",
    "AiYHIHIHMAPAbVAkJADBDAbBAEAEACBIDbMPbgQZcwDACACEeAAbuiDBcLHVAGAZAbJABAbKAbfPbIBGFIeijHZbAGBR",
    "bAZbADBABGBKbAZbAZbAZbAZbAZbAZbAZbAZbAbBbCYBFbAYBFbAYBFbAYBFbAYBFBAcsYJBTGF"])

def changesWhenTitlecased : CharSet :=
  changesWhenUppercased.symmDiff (.ofTable [
    "rKBBBBBbLBfqJbQCCfnCHIHIHMAPAbVA"])

def changesWhenCasemapped : CharSet :=
  changesWhenLowercased.union changesWhenUppercased

def softDotted : CharSet :=
  .ofTable [
    "eBBhOAkVAbEAcAAUAmIAdUABAjmNAbZANADAfCAgBAqFAiGBegGAgelHBbYBbYBbYBbYBbYBbYBbYBbYBbYBbYBbYBbY",
    "BdfYAlTBbAA"]

/-! ### Identifiers and patterns -/

def patternSyntax : CharSet :=
  .ofTable [
    "bHOKGbADBAbADbIGBABBBABBEAEADAXAbFAluEXIOCSBJlTbbRgEyFbEbrNtSeXoVCEYPAczqZBkBB"]

def patternWhiteSpace : CharSet :=
  .ofTable [
    "JESAdWAlyMBYB"]

def otherIdStart : CharSet :=
  .ofTable [
    "jhLBdgJAVAfvWB"]

def otherIdContinue : CharSet :=
  .ofTable [
    "hBAbbRAgaJIclCAciZBgkRAdaeJA"]

def idStart : CharSet :=
  ((members (.letterNumber :: letters)).union otherIdStart).diff
    (patternSyntax.union patternWhiteSpace)

def idContinue : CharSet :=
  (CharSet.unionOf [idStart, otherIdContinue, members [.nonspacingMark, .spacingMark,
    .decimalNumber, .connectorPunctuation]]).diff (patternSyntax.union patternWhiteSpace)

def xidStart : CharSet :=
  idStart.diff (.ofTable [
    "biGAebOAeXAmvVBczeFFpQBeMABABABABABABABAlBB"])

def xidContinue : CharSet :=
  idContinue.diff (.ofTable [
    "biGArcIBczeFFpQBeMABABABABABABABA"])

def idCompatMathStart : CharSet :=
  .ofTable [
    "mwWAEAWAgjjEAZAbFAZAbFAZAbFAZAbFAZA"]

def idCompatMathContinue : CharSet :=
  .ofTable [
    "gWBFAmaGADKBOoHAEAWAgjjEAZAbFAZAbFAZAbFAZAbFAZA"]

/-! ### Graphemes and marks -/

def otherGraphemeExtend : CharSet :=
  .ofTable [
    "drYAYAnUAYAdYAYAiYABAEBBBJBdZAYAePAPAdmRAbEAbnKAFABAFBdXAcTBboIAgcVBbtwTAeEAbgnLBgwMAeMAkEAO",
    "AJAdSAJACABCFAiQAMAjHAkCAyJAMAchFAbeoKBbkxNBGFbtlaZdR"]

def graphemeExtend : CharSet :=
  (members [.nonspacingMark, .enclosingMark]).union otherGraphemeExtend

def graphemeBase : CharSet :=
  ((members [.control, .format, .surrogate, .privateUse, .unassigned, .lineSeparator,
    .paragraphSeparator]).union graphemeExtend).complement

def graphemeLink : CharSet :=
  .ofTable [
    "dnPAeXAeXAeXAeXAeXAeXAeXAeFBQAeUAeHAeXAhTAgYBcpLBbEAgBAzDAiTAdXBcSBgqTAbukKAbLAfVAfMAeEAlXAj",
    "MAbjsRAchIAbPAOAcFAeRBfJAeMAgYAdUAeYCeJAeXAjSAeXAeOAeMAkJAjZBgFAdFASAdDAqFAkABdDAqJByzCA"]

def diacritic : CharSet :=
  .ofTable [
    "dQABAcTAGAEACBtJgCBHFFRBEAJBjTEiBAcDQBbABABBBAfEHEBfEBEBDCcPbAdNKcGKbIBeWHbPJQbBcJAQADDbCAcW",
    "AQAeGAQAeGAQAbVCcIAQAHAePAeGAQAeGAQAeFBQAeUAeHAMFBAeDANEcXBbBABABAEBcOCBBcKAeIABBbOBEEZGBAKB",
    "bbDCbkMBbEAfSKJAnJClGAUHCAbWOCKeAAPAbMIcCBcGALBcOBcMFdEYEAGACCbYcKdLLbLKrDABCLCNCNCNBexKCmFA",
    "tMFeBDdRAbsmKAMBBAbCBdEBObHdYCeFBMAbLAfVAbBRcFDbKAdRAMAbKAfTCcNDbZAdWEJCeYBbdzSAbdPPkKABAbVA",
    "bTBcPAbdKAbtNFBbPBIyNCEAgJBvZFbMAbAEpJCcSKbXDhKAbPAcUBeQBcKAcYAJCeABgWBdCBQAYGDEdLCBBNBdRADA",
    "eTBjRBeWAeOBeLAkJBjYBEAgAAdFASAdDAqFAjYABBdDAqJBXAhyAOqzPAdsAEcHGvSBvAQdCBygCDBGBBltHbTCWuYC",
    "DFIHCGbEDfmWcJhMGoLAcJDbdMBbcIGeFCBC"]

def extender : CharSet :=
  .ofTable [
    "hBAuQBbhUAqZAyGAfHAdLAbcYAeXAdnFAcEAxNApIAcQAhkJAbREdZBdPCbqbUAcgSAblAAWAfHAeEAVBbfzVAdbKBcf",
    "BAbBAEAbvBAlHAeMBtECbvJAbeoFBbtKBBAbqyABbuFAbgUC"]

def modifierCombiningMark : CharSet :=
  .ofTable [
    "ckIBCAfBAGADBsNBBCDAbFA"]

def prependedConcatenationMark : CharSet :=
  .ofTable [
    "chCFiHAbXAoUBdCAdvxYAPA"]

def logicalOrderException : CharSet :=
  .ofTable [
    "fkIEeTEedSCCAccxMBCABB"]

def regionalIndicator : CharSet := ⟨[(0x1F1E6, 0x1F1FF)]⟩

/-! ### Emoji -/

def emoji : CharSet :=
  .ofTable [
    "bJAGAFJeHAEAlyRAMAiIAWAdMFPBoDBMAgKAZKEChRAiXBKAJAcGDBEJACACBCAEACABBCADADBICFABAFLLBCABBBAS",
    "ACBSFBABBDBFACBEBLBFBCAFBBABBUBFFBDCAEACACFBACABABAGADAGAKBPACAEABAECBALBbWCJAOAOAoIBrVCTBbZ",
    "AEAbvUAMAxDABAgmrQAhUAgEBMBOACJcXZBBXAUACIVBgSbHCeHCBBCCdECCBkCBcKLFBXHBCHMACDCAEBNBCAIBJAFC",
    "MCICCABAEAGADAGdHbWcRFHCCEJDABBDACJiTLEAkXbUBJBhCeIMDJFcDHOCKGI"]

def emojiComponent : CharSet :=
  .ofTable [
    "bJAGAFJmbJAiFAdftRAdoiWZtNEceADbsvuQdR"]

def emojiModifier : CharSet := ⟨[(0x1F3FB, 0x1F3FF)]⟩

def emojiModifierBase : CharSet :=
  .ofTable [
    "olHAiLAQDgsjVAcICCACCeNBCKVSDAECBCHABAYAhTBEAVAEBgSCDEdFAQCJALAwDACAIHGAJJCCcEAcJBBBBARCBMiV",
    "CbQI"]

def emojiPresentation : CharSet :=
  .ofTable [
    "nhQBhXDDACAuBBVBbYLbRATANAIBRBFBIAFAVAHBBAEACAHAEBbCAbJABAECBAcJCYAOAbhBBbZAEAgplEAhUAhIACJc",
    "XZBAYAUACEBCVBgSbGMIBcRBVMbQEEMQDADcSBABhECcKNDBXSAbABNAdIdGbWcRGADCCCEDLBHIiTLEAkXbUBJBhCeI",
    "MDJFcDHOCKGI"]

def extendedPictographic : CharSet :=
  .ofTable [
    "gNAEAlyRAMAiIAWAdMFPBoDBMAdRAcSAZKEChRAiXBKAJAcGDBFBLBeJKeNCKBABAGADAGAKBPACAEABAECBALEbTCJA",
    "OAOAoIBrVCTBbZAEAbvUAMAxDABAgmrMjVNCbFAcIFMBOACJScEbBOKAUACIBDJqRFmFIkFbWeXeMLdHbQMDcEHKFbOH",
    "bEdDMbUBJBqYjWbnH"]

/-! ### Symbols, digits and punctuation -/

def asciiHexDigit : CharSet := ⟨[(0x30, 0x39), (0x41, 0x46), (0x61, 0x66)]⟩

def hexDigit : CharSet :=
  .ofTable [
    "bWJHFbAFdslLJHFbAF"]

def otherMath : CharSet :=
  .ofTable [
    "dQAbhXCCAbABCBkqYAbBCLAbGDYBOBcNMEADBEESAEACJBADEGADBCBBCBFDDFEcXECDBBBBBABECBEBERCBBABGBAGB",
    "lEDgMBBAYARArDBMIFEFBCBDEOABACFYBcFABAbDDJBnEBbFJpNVcLDbGBdclFABAEAiDABAdcoVdGBcSBBCACBCDBLB",
    "ABGBcMBDCHBGBbBBDBEBADGBnBCYBYBbEBYBbEBYBbEBYBbEBYBHCbXiiQDBbABBBACABJBDBABAGAEABABABCBBBACA",
    "BABABABABBBACDBGBDBDBABJBQFCBEBQ"]

def math : CharSet :=
  (members [.mathSymbol]).union otherMath

def dash : CharSet :=
  .ofTable [
    "bTAcaUAbZAfkJAbnPAdbDFcJAbNAPApAAeoIACAbFBEAbCArEATAeHAczwABbLAKAgNAflOAmGA"]

def hyphen : CharSet :=
  .ofTable [
    "bTAeXAbvWAgzZAdbDBfiBAbcLAczuLAgNAdJA"]

def quotationMark : CharSet :=
  .ofTable [
    "bIAEAfBAPAlwUHZBfiDArPDNCdabPDhHAEAdMB"]

def sentenceTerminal : CharSet :=
  .ofTable [
    "bHAMAQAcaBAfRCgYAbRCjMAcJABADBlHBcpWBbeKAEBbdTAhQBgBBbTAFAmCBnQDgGBKBCBbDChFBcNBbjWAXBJCeuXC",
    "lUANAWBqNAbshWAkKBiTADAoSBdIBdRAfWBfRCfOBjPAbfcWACBcHADBgNAMAQAcNAedWBbxDEbSDhHBeNDeXCeZBGAQ",
    "BdKBBBeEAlMBeNBoJBFOeBBjPCtXABAjRBdJBqEBbaQBcWBbcmBBfDAcNBLAvHBlKAbdoGAliMA"]

def terminalPunctuation : CharSet :=
  .ofTable [
    "bHAKABALBDAbfYAIAtTAcFAcUAOABCgYAbRKBAjBBcCFBHbFAkBBbwUBgQAEFlZBbeJHbdTAeUCcTBgBCDAbNDCBmCBn",
    "QDgGBKBBCbDChFEcKBbjWAXBJCeuXClUANAEAKABBDBqMBbshVBkJCiTEoSBdIBdRAfVCfRCeXAQBjPAbfcWACBcFCBD",
    "gNAKABALBDAcNACAbpQAbWAbsOAhRAlYBfWFcQFdLDbkQEbSDhHGeIDeXCeZBGAQBdKEeEAlMBeNCMBnUDDOeBBjPCtX",
    "ABAjRBdJBEBpYCbTAyVBcWBbyXEbamZBfDAcNCKAvHBlJBbdoGAliLD"]

/-! ### Ideographs -/

def ideographic : CharSet :=
  .ofTable [
    "seWBZIOCblDjtNcMbfbJbhsIoBCeBbsiKAbBjbZIbvPbPJnuLpFbdeIclfBbGgdTGiNCinPOlbKPxXdqWuVcfYhhYFgf",
    "F"]

def unifiedIdeograph : CharSet :=
  .ofTable [
    "tsAjtNcMbfbJbicSBBABBKABABBCCdveCclfBbGgdTGiNCinPOlbKPxXgrQhhYFgfF"]

def radical : CharSet := ⟨[(0x2E80, 0x2E99), (0x2E9B, 0x2EF3), (0x2F00, 0x2FD5)]⟩

def idsUnaryOperator : CharSet := ⟨[(0x2FFE, 0x2FFF)]⟩

def idsBinaryOperator : CharSet := ⟨[(0x2FF0, 0x2FF1), (0x2FF4, 0x2FFD), (0x31EF, 0x31EF)]⟩

def idsTrinaryOperator : CharSet := ⟨[(0x2FF2, 0x2FF3)]⟩

/-! ### Direction, spaces and what does not show -/

def bidiControl : CharSet :=
  .ofTable [
    "ciEAjvLBbAEcDD"]

def bidiMirrored : CharSet :=
  .ofTable [
    "bOBSABAbCABAbDABAbTAPAfmSDcuNBdqQBKBcCBOBgVAhKDDFDADBDDBDBABAEIFABRFDJBBABHBbFCDFAJBCSFBJECB",
    "EXCPIDUBHBbpTNcWACDBBBCFDFCDNpNVCFBNIAHFDAEEBBCEEABCCBKFCBMSBDCABACABDFBGCYBLBEDBBCBEbQCHBbN",
    "FABADEFCEADEBAjWAtVDDBBBOBCJbRHqLJCHdacRFFBgGBSABAbCABAbDABABBBBddpNAcFAcFAcFAcFA"]

def whiteSpace : CharSet :=
  .ofTable [
    "JESAdWAbAAihJAdpNKbDBFAbVAfxWA"]

def joinControl : CharSet := ⟨[(0x200C, 0x200D)]⟩

def variationSelector : CharSet :=
  .ofTable [
    "jcTCBAdjcAPbwnkYjF"]

def otherDefaultIgnorableCodePoint : CharSet :=
  .ofTable [
    "bgPAfiLBckHBdhNAglIAdacPAdBIbwmiHABbDdSeXjGfiL"]

def defaultIgnorableCodePoint : CharSet :=
  .ofTable [
    "gRAzXAbbOAegWBckHBdHEdaPEbAEbXPgkYAczmPPjFAgEAdBIctlNDhwXHbtkzLgbN"]

def noncharacterCodePoint : CharSet :=
  .ofTable [
    "dsdCbFuGBdsyOBdsyOBdsyOBdsyOBdsyOBdsyOBdsyOBdsyOBdsyOBdsyOBdsyOBdsyOBdsyOBdsyOBdsyOBdsyOB"]

def deprecated : CharSet :=
  .ofTable [
    "mRAbyVAdkTABAdcJBdiJFbaVBbzryKA"]

/-! ### Names -/

/-- The characters of words: the alphabetic ones, marks, decimal digits, connectors and the two
joiners. -/
def word : CharSet :=
  .unionOf [alphabetic, members (.decimalNumber :: .connectorPunctuation :: marks), joinControl]

/-- The properties by their names, without case and separators. -/
def named : List (List String × CharSet) :=
  [(["oalpha", "otheralphabetic"], otherAlphabetic),
    (["olower", "otherlowercase"], otherLowercase),
    (["oupper", "otheruppercase"], otherUppercase), (["alpha", "alphabetic"], alphabetic),
    (["lower", "lowercase"], lowercase), (["upper", "uppercase"], uppercase), (["cased"], cased),
    (["ci", "caseignorable"], caseIgnorable),
    (["cwl", "changeswhenlowercased"], changesWhenLowercased),
    (["cwcf", "changeswhencasefolded"], changesWhenCasefolded),
    (["cwu", "changeswhenuppercased"], changesWhenUppercased),
    (["cwt", "changeswhentitlecased"], changesWhenTitlecased),
    (["cwcm", "changeswhencasemapped"], changesWhenCasemapped),
    (["sd", "softdotted"], softDotted), (["patsyn", "patternsyntax"], patternSyntax),
    (["patws", "patternwhitespace"], patternWhiteSpace), (["oids", "otheridstart"], otherIdStart),
    (["oidc", "otheridcontinue"], otherIdContinue), (["ids", "idstart"], idStart),
    (["idc", "idcontinue"], idContinue), (["xids", "xidstart"], xidStart),
    (["xidc", "xidcontinue"], xidContinue), (["idcompatmathstart"], idCompatMathStart),
    (["idcompatmathcontinue"], idCompatMathContinue),
    (["ogrext", "othergraphemeextend"], otherGraphemeExtend),
    (["grext", "graphemeextend"], graphemeExtend), (["grbase", "graphemebase"], graphemeBase),
    (["grlink", "graphemelink"], graphemeLink), (["dia", "diacritic"], diacritic),
    (["ext", "extender"], extender), (["mcm", "modifiercombiningmark"], modifierCombiningMark),
    (["pcm", "prependedconcatenationmark"], prependedConcatenationMark),
    (["loe", "logicalorderexception"], logicalOrderException),
    (["ri", "regionalindicator"], regionalIndicator), (["emoji"], emoji),
    (["ecomp", "emojicomponent"], emojiComponent), (["emod", "emojimodifier"], emojiModifier),
    (["ebase", "emojimodifierbase"], emojiModifierBase),
    (["epres", "emojipresentation"], emojiPresentation),
    (["extpict", "extendedpictographic"], extendedPictographic),
    (["ahex", "asciihexdigit"], asciiHexDigit), (["hex", "hexdigit"], hexDigit),
    (["omath", "othermath"], otherMath), (["math"], math), (["dash"], dash), (["hyphen"], hyphen),
    (["qmark", "quotationmark"], quotationMark),
    (["sterm", "sentenceterminal"], sentenceTerminal),
    (["term", "terminalpunctuation"], terminalPunctuation),
    (["ideo", "ideographic"], ideographic), (["uideo", "unifiedideograph"], unifiedIdeograph),
    (["radical"], radical), (["idsu", "idsunaryoperator"], idsUnaryOperator),
    (["idsb", "idsbinaryoperator"], idsBinaryOperator),
    (["idst", "idstrinaryoperator"], idsTrinaryOperator), (["bidic", "bidicontrol"], bidiControl),
    (["bidim", "bidimirrored"], bidiMirrored), (["space", "wspace", "whitespace"], whiteSpace),
    (["joinc", "joincontrol"], joinControl), (["vs", "variationselector"], variationSelector),
    (["odi", "otherdefaultignorablecodepoint"], otherDefaultIgnorableCodePoint),
    (["di", "defaultignorablecodepoint"], defaultIgnorableCodePoint),
    (["nchar", "noncharactercodepoint"], noncharacterCodePoint),
    (["dep", "deprecated"], deprecated)]

def named? (name : String) : Option CharSet :=
  (named.find? fun p => p.1.contains name).map Prod.snd

/-! ### Version 17 -/

/-- The marks that version 17 added to the alphabetic characters. -/
def addedAlphabetic : CharSet :=
  ⟨[(0x10EFA, 0x10EFB), (0x11B60, 0x11B67), (0x1E6E3, 0x1E6E3), (0x1E6E6, 0x1E6E6),
    (0x1E6EE, 0x1E6EF), (0x1E6F5, 0x1E6F5)]⟩

def isAlphabetic (c : Char) : Bool :=
  hasCategory (.letterNumber :: letters) c || otherAlphabetic.mem c || addedAlphabetic.mem c

/-- Whether a character extends a grapheme in version 17. -/
def extendsGrapheme (c : Char) : Bool :=
  hasCategory [.nonspacingMark, .enclosingMark] c || otherGraphemeExtend.mem c

end Conform.Text.Property
