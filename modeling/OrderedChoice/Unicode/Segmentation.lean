import OrderedChoice.Unicode.Packed

/-!
# Text segmentation

The classes of characters between which a text may be divided into grapheme clusters, words and
sentences, as packed range lists.
-/

namespace OrderedChoice.Unicode

/-- **Ranges of each grapheme cluster break value**, by its full name in lower case without
separators. -/
def graphemeRanges : PackedTable := [
  ("cr", ["NA"]),
  ("control", ["AJBBBbBfPcANAfgOAbbpBAhpMACBbIGdBPnoiPApALdedEPiigADbemPHmcoiFbPgAhPpAoaP"]),
  ("extend",
    ["daAgPbbDGbaHcMBABBBBBAeIKdAbEbAAgFGCFCBBDcDAbObKfLKdKIJAbIDBIBCBEcLCdLIcKbHBbPdHABAEHEADGK",
     "BbNAdKABACDIAJAKBbKACBdJAEBEBCCDAbOBDALBdJAEEBBEAbEBbGFBAdKABBBDIAHCKBbOAdLABAMAJAcIADAdHA",
     "BCFCBDHBLBbNAdKACBBADCBDHBLBbMBdJBBACDIAJAKBbNAeIAEACCBAIAfBACGMHgCACILGeJBbLABABAdHNBEBBF",
     "KBcDJAgGDBFBBCBbJBECbADNACBGAPAclPCdlCDbMCbNBbOBeABBGIACKJAcNCBAhFBcCAhGCEBJAGCnLBCAdKABGB",
     "ABACHGJCAdAbOdBDdAJECcGIMBcADCFdIABBDABEdIHCBjICBMBGEAGADBmGdPcaMAmDcAlpOCiNAgAbPccKFgJBhf",
     "nEDBJcABfABbbAADAEAbJBFAjHBbKbBNAcGHbJKBAcMCdAACDCBCAcEAeDFCBCBMAIAcPAdDABCCBFBBAcKBIAoOAC",
     "AEAepdAAcoBPbAPbgOBcfNAoCAjFEgiGCBBFDcICEAkFBcdNDeBEbdNBePDeGKdBDhLAdGOcJACBKCdBDCBHAdNCcE",
     "EBHdOAMBdEIBAIDCAfPCCDGACAjNADHbFBdJBBABAMAJAOGDEeDACFBACABCECBAOBfFHCCBAbHAfBACFBACABBBBo",
     "LACDGBBBbLBfFHCABBgKABACHgFABACDBEbaDIBBpFAKDEAjADCBEAcAJcIFCDIAJFCCcOMBBbjGGBFBAfCbFCGBBB",
     "BhKFDABBBGBAeIBDABAbfLBLBdEEFCbHAbeoFAGOcmmILDCjmAEdLGebIAdPDfBALBemkLBbcgBcNCbGcbOEDFIHCG",
     "bODjEChlLdGEdBIAOAbGEBOffAGBbACGBBBEgEAkAGbhHAdNDbpMDpOBcoAGgNGklAEmamcAfPiAoP"]),
  ("l", ["bbaAfPjiaAbM"]),
  ("lf", ["KA"]),
  ("lv",
    ["kmaAAbLAbLAbLAbLAbLAbLAbLAbLAbLAbLAbLAbLAbLAbLAbLAbLAbLAbLAbLAbLAbLAbLAbLAbLAbLAbLAbLAbLAb",
     "LAbLAbLAbLAbLAbLAbLAbLAbLAbLAbLAbLAbLAbLAbLAbLAbLAbLAbLAbLAbLAbLAbLAbLAbLAbLAbLAbLAbLAbLAb",
     "LAbLAbLAbLAbLAbLAbLAbLAbLAbLAbLAbLAbLAbLAbLAbLAbLAbLAbLAbLAbLAbLAbLAbLAbLAbLAbLAbLAbLAbLAb",
     "LAbLAbLAbLAbLAbLAbLAbLAbLAbLAbLAbLAbLAbLAbLAbLAbLAbLAbLAbLAbLAbLAbLAbLAbLAbLAbLAbLAbLAbLAb",
     "LAbLAbLAbLAbLAbLAbLAbLAbLAbLAbLAbLAbLAbLAbLAbLAbLAbLAbLAbLAbLAbLAbLAbLAbLAbLAbLAbLAbLAbLAb",
     "LAbLAbLAbLAbLAbLAbLAbLAbLAbLAbLAbLAbLAbLAbLAbLAbLAbLAbLAbLAbLAbLAbLAbLAbLAbLAbLAbLAbLAbLAb",
     "LAbLAbLAbLAbLAbLAbLAbLAbLAbLAbLAbLAbLAbLAbLAbLAbLAbLAbLAbLAbLAbLAbLAbLAbLAbLAbLAbLAbLAbLAb",
     "LAbLAbLAbLAbLAbLAbLAbLAbLAbLAbLAbLAbLAbLAbLAbLAbLAbLAbLAbLAbLAbLAbLAbLAbLAbLAbLAbLAbLAbLAb",
     "LAbLAbLAbLAbLAbLAbLAbLAbLAbLAbLAbLAbLAbLAbLAbLAbLAbLAbLAbLAbLAbLAbLAbLAbLAbLAbLAbLAbLAbLAb",
     "LAbLAbLAbLAbLAbLAbLAbLAbLAbLAbLAbLAbLAbLAbLAbLAbLAbLAbLAbLAbLAbLAbLAbLAbLAbLAbLAbLAbLAbLAb",
     "LAbLAbLAbLAbLAbLAbLAbLAbLAbLAbLAbLAbLAbLAbLAbLAbLAbLAbLAbLAbLAbLAbLAbLAbLAbLAbLAbLAbLAbLAb",
     "LAbLAbLAbLAbLAbLAbLAbLAbLAbLAbLAbLAbLAbLAbLAbLAbLAbLAbLAbLAbLAbLAbLAbLAbLAbLAbLAbLAbLAbLAb",
     "LAbLAbLAbLAbLAbLAbLAbLAbLAbLAbLAbLAbLAbLAbLAbLAbLAbLAbLAbLAbLAbLAbLAbLAbLAbLAbLAbLAbLAbLAb",
     "LAbLAbLAbLAbLAbLAbLAbLAbLAbLA"]),
  ("lvt",
    ["kmaBbKBbKBbKBbKBbKBbKBbKBbKBbKBbKBbKBbKBbKBbKBbKBbKBbKBbKBbKBbKBbKBbKBbKBbKBbKBbKBbKBbKBbK",
     "BbKBbKBbKBbKBbKBbKBbKBbKBbKBbKBbKBbKBbKBbKBbKBbKBbKBbKBbKBbKBbKBbKBbKBbKBbKBbKBbKBbKBbKBbK",
     "BbKBbKBbKBbKBbKBbKBbKBbKBbKBbKBbKBbKBbKBbKBbKBbKBbKBbKBbKBbKBbKBbKBbKBbKBbKBbKBbKBbKBbKBbK",
     "BbKBbKBbKBbKBbKBbKBbKBbKBbKBbKBbKBbKBbKBbKBbKBbKBbKBbKBbKBbKBbKBbKBbKBbKBbKBbKBbKBbKBbKBbK",
     "BbKBbKBbKBbKBbKBbKBbKBbKBbKBbKBbKBbKBbKBbKBbKBbKBbKBbKBbKBbKBbKBbKBbKBbKBbKBbKBbKBbKBbKBbK",
     "BbKBbKBbKBbKBbKBbKBbKBbKBbKBbKBbKBbKBbKBbKBbKBbKBbKBbKBbKBbKBbKBbKBbKBbKBbKBbKBbKBbKBbKBbK",
     "BbKBbKBbKBbKBbKBbKBbKBbKBbKBbKBbKBbKBbKBbKBbKBbKBbKBbKBbKBbKBbKBbKBbKBbKBbKBbKBbKBbKBbKBbK",
     "BbKBbKBbKBbKBbKBbKBbKBbKBbKBbKBbKBbKBbKBbKBbKBbKBbKBbKBbKBbKBbKBbKBbKBbKBbKBbKBbKBbKBbKBbK",
     "BbKBbKBbKBbKBbKBbKBbKBbKBbKBbKBbKBbKBbKBbKBbKBbKBbKBbKBbKBbKBbKBbKBbKBbKBbKBbKBbKBbKBbKBbK",
     "BbKBbKBbKBbKBbKBbKBbKBbKBbKBbKBbKBbKBbKBbKBbKBbKBbKBbKBbKBbKBbKBbKBbKBbKBbKBbKBbKBbKBbKBbK",
     "BbKBbKBbKBbKBbKBbKBbKBbKBbKBbKBbKBbKBbKBbKBbKBbKBbKBbKBbKBbKBbKBbKBbKBbKBbKBbKBbKBbKBbKBbK",
     "BbKBbKBbKBbKBbKBbKBbKBbKBbKBbKBbKBbKBbKBbKBbKBbKBbKBbKBbKBbKBbKBbKBbKBbKBbKBbKBbKBbKBbKBbK",
     "BbKBbKBbKBbKBbKBbKBbKBbKBbKBbKBbKBbKBbKBbKBbKBbKBbKBbKBbKBbKBbKBbKBbKBbKBbKBbKBbKBbKBbKBbK",
     "BbKBbKBbKBbKBbKBbKBbKBbKBbKBbK"]),
  ("prepend", ["gaAFnHAdBAbiABfAAegLAbadgOAPApEBcaNAfgNABApIAeJFclMAblLA"]),
  ("regionalindicator", ["bpboGbJ"]),
  ("spacingmark",
    ["jaDAdHACCIDBBdCBdLBGBCBdGAdKCeCAdKCIABBdFBdMAGBCBhCABBDCBCdECdNDdNBdKACABBcOAOBdLBFCBCdFBe",
     "MBGGbDBdPAhPAiKBdPAlBAJBbJBcMAhdBAHHBBbfKDCCEBBFoABdKABAbFFjBAdJDeAAbOAEBdPACCBAdFHIBkLAbF",
     "AilcLBCAfIBdCPiOAdAAdABEBCBgPBCBbIAjNACBFAoNBBBBBBAgebDABAhPAcNCEBhDAbIBdLAdACJAOAfNCDBkMC",
     "bPBdLABDCBCBbFBfFBPABBgHCIBDAgLBGABBBACAoOBGDCAhBCIBBAgNABBgOAHAbaFCJApIEBBHABAiOCIDEAfEAb",
     "NBdOAbjHAOAgKAHACAnFEEBBAbfOBMAdABIBeboKCocEdG"]),
  ("t", ["bbkIfHmfmLdA"]),
  ("v", ["bbgAeHmgaIbGjfjMADD"]),
  ("zwj", ["caaNA"])
]

/-- **Short grapheme cluster break names** and the full names that they stand for. -/
def graphemeNames : List (String × String) := [
  ("cn", "control"), ("ex", "extend"), ("pp", "prepend"), ("ri", "regionalindicator"),
  ("sm", "spacingmark")
]

/-- **Ranges of each word break value**, by its full name in lower case without
separators. -/
def wordRanges : PackedTable := [
  ("aletter",
    ["eBbJGbJcPAKAEAFbGBbOBbnPGcBhAEBBCDBAGABCBABbDBfCBiKIkFBcFCDBABcIBAgIAcMcKcDBBgCBAPBHBKCCAP",
     "BBbNbNfILAbIcAJBEAFbFEAJADAbHbIHKFbHBFbBcJdKdFDAbCAHJPPEHCBCbFBGBADDDAbAANBBCOBKAIFEBCbFBG",
     "BBBBBBbPDBAbDCbAIBCBbFBGBBBEDAbCAPBbHALHCBCbFBGBBBEDAbOBBCPAbBABFDCBDDBBABBDBDCDLbGAdEHBCB",
     "bGBPDAbKCCACBbOAEHBCBbGBJBEDAbPBBBPBbBIBCBcICAbAAFCICbIFFbBDbHBIBACGbdJAdPHBcDbLEbbDcFBAFA",
     "CcKBbeMBDCGBABDCcIBDCcABDCGBABDCOBdIBDCeCcFPbAfFCFDcgLCbABbJFeKDKHbBNbCObBOMBCkPfIHECcBBAF",
     "eFKbOoBbGoOcObBHdGbNNBKcLbKcDcJCKcDCKFcKCCcJDBFBBDAFlPeAbbFCFCcFCFCHBABABABbOCdEBGBADCBGDD",
     "CFEMFCBGhEANAbAMgFAEACJBADEGABABABDBKCDFEEAbBcIdcNdDhbGoEGDDBMcFBAFACdHHAbAbGJGBGBGBGBGBGB",
     "GBGfAAbnFAdFBmIcKBfNbBbPgoeAeiMeDcNCbaMDPKBbEcObAbOCePbImFCBBABHbFPBCBDBbGbNdDOdBdOFDABBLb",
     "LKbGbJbMHcObMAdAcIbHCBHjEKHCMFCFCFJGBGBdJGhCbNclkDMbGEdAcdaEGMEdIgBcBbgKbCdPCdFcILhEEBiGcE",
     "bJGbJeFbODFCFCFCCcDLBbJBbCBBBOCNcChKeFdEbaLbMDdAcPbPNbNFcFKbNCcDEHBEcKjNbCcDEcDEcHIdDMKBOB",
     "GBBBKBOBGBBDdDMbdGJbFKHbIFBcJBIeFFCABcLBBDACbGKbGJbOeBbCBBKbFKbJeGdHGBeAAPDBCBbMcKbMDbMcDH",
     "BbLbLdFKbFKbCNbBgOeIdHdCNdCNcDcGbLJbGpKcJGBbACdLbMKAIbFcKbBcObEbLbGMdEdJBCANcMcAbIbKcDbNAC",
     "AIcCDAMcPODbFABAcDbBBbIbDBdPGBABDBOBJHcOcGHCBCbFBGBBBEDAbCAMEbOJBACABcFBAbJABAcMdEbCDbECbO",
     "cPbEBBAlIcOcJDcEcPbEAdLcKNAbeHcLhEdPbPHCACHBBBbHPABAfOHCcGbAABAbMAKcHHAbFALcNbDAbCeImHcAbP",
     "IBcEbBAdBbNhAGBBBcFbFAbJFBBBbPOAbeHbCPABMBcBhMAePdjJgGgObBmDkeMgAPecPbBFbJpjKFceGbklJbNgoC",
     "cdIHbObBeObBbNbCcPbADbPbEFbCblAcMnDdPiAeKFAeCMeABBAembMgKFMDIHJbhgGfEBeGBBCACBCDBLBABGBeAB",
     "DCHBGBbLBDBEBADGBbfDCbIBbIBbOBbIBbOBbIBbOBbIBbOBbIBHhdEbOGFbaFdNjCcMKGbAAbeBbNbCcLboEbLoEb",
     "NCAboPGBDBBBOBmEdLeDHAelEDBbKBBBACABJBDBABAGAEABABABCBBBACABABABABABBBACDBGBDBDBABJBbAFCBE",
     "BbAchEbJGbJGbJ"]),
  ("cr", ["NA"]),
  ("doublequote", ["cCA"]),
  ("extend",
    ["daAgPbbDGbaHcMBABBBBBAeIKdAbEbAAgFGCFCBBDcDAbObKfLKdKIJAbIDBIBCBEcLCdLIcKbHBcAdGCBbBBGKBbN",
     "CdIABGCBCCJAKBbKACCdIABEEBCCDAbOBDALCdIABHBCBCbEBbGFBCdIABGCBCCHCKBbOAdLEDCBDJAcIEdHABGBCB",
     "DHBLBbNCdIABGBCBDHBLBPAMDdHBBGBCBDJAKBbNCeGAEFBABHbCBdNACGMHgCACILGeJBbLABABAEBdBbDBBFKBcD",
     "JAgEbDbHDECBCCGDDNLBAKDclPCdlCDbMCbNBbOBeAbPJAcNCBAhFBcCAhGLELnLEdJJBbMCAdAbOdBEcPbAcGIMCb",
     "OMdINdAbDjICBbEEAGACCmGdPcaMAmDcAlpOCiNAgAbPccKFgJBhfnEDBJcABfABbbAADAEAbHEEAfDBdCbBbKbBNA",
     "cGHbJMcMDcPNcEAeDNMAIBcNCdCABCCBFBBAcJEFBoMHBBepdAAcoBPbAPbgOBcfNAoCAjFEgiGCBBFDcICEAkFBcd",
     "NDeBEbdNBePDeGKdBDhKCdFOcJACBKDcNKHAdNCcENbABcMAMCdANIDBBfMLGACAjNLbFDdHBBGCBCCJAKBCGDEeDI",
     "BACABDBEBAOBfCbBbHAfBbDoLGCIbLBfCbAgKMgFObaAOpFFBBCDBABBiNGCGDAbMJcIGBDIAJKcOPbjFHBHfCbFBN",
     "hKFDABBBGBAeCEBBBEbfLDJBBAdAGDEbHAbeoFAGOcmmIbBjmAEdLGebIABdGHDfBALBemkLBbcgBcNCbGcbOEDFIH",
     "CGbODjEChlLdGEdBIAOAbGEBOffAGBbACGBBBEgEAkAGbhHAdNDbpMDpOBcoAGgNGklAEmamcAfPiAoP"]),
  ("extendnumlet", ["fPAbpmPAPBbDAnnnOBbICoPA"]),
  ("format", ["kNAfgOAbbpBAhpPBbKEdBEBJnoiPApJCdedEPiigADbemPHmcoiGA"]),
  ("hebrewletter", ["fnAbKEDpfcKABJBMBEBABBBBBJ"]),
  ("katakana", ["dadBEgFBDfKBDpAPnAcOBfHmmaOdHlafCDBGBBBAbbPCdCAOD"]),
  ("lf", ["KA"]),
  ("midletter", ["dKAhMAcmPAbnHAjEAbkdCAnnoLAeBAmEA"]),
  ("midnum", ["cMAOAdeCAcaKAiCBfOAbiLAbieLAnoaLADAlHAOA"]),
  ("midnumlet", ["cOAbpoJBKAnocNAlEAGA"]),
  ("newline", ["LBhIAbpkCB"]),
  ("numeric",
    ["dAJfmGFfKJBAhBAbCJmGJmGBfAAiDJhGJhGJhGJhGJhGJhGJhGJhGJhGJgAJhGJeGJbbGJeGJheGJcGJbcMJiAKkFJ",
     "GJlGJfGJiGJGJijmGJckGJcGJmGJbGJfGJbjGJfdbGJfiGJiiGJGJdbMJeNAPAcCJdMJjAJbbGJbfGJhGJbhGJgGJG",
     "bDeMJbkGJgGJcjGJfGJpGJeGJbkGJebnGJjcGJfGJiGJcbGJfphGJknEdBjeAJbkGJbpGJpHJdfFJbcjGJ"]),
  ("regionalindicator", ["bpboGbJ"]),
  ("singlequote", ["cHA"]),
  ("wsegspace", ["cAAbgfPAjhPGBCfEApkAA"]),
  ("zwj", ["caaNA"])
]

/-- **Short word break names** and the full names that they stand for. -/
def wordNames : List (String × String) := [
  ("dq", "doublequote"), ("ex", "extendnumlet"), ("fo", "format"), ("hl", "hebrewletter"),
  ("ka", "katakana"), ("le", "aletter"), ("mb", "midnumlet"), ("ml", "midletter"),
  ("mn", "midnum"), ("nl", "newline"), ("nu", "numeric"), ("ri", "regionalindicator"),
  ("sq", "singlequote")
]

/-- **Ranges of each sentence break value**, by its full name in lower case without
separators. -/
def sentenceRanges : PackedTable := [
  ("aterm", ["cOAbppFAnocNAlLA"]),
  ("cr", ["NA"]),
  ("close",
    ["cCAECdBABAbNABAcNAPAohODhfNBjhLHbJBKBdGBOBchJDbNBedAFHNePBbPJbjDbFdPDcABeaCNOBCJbIAbCHbkLJ",
     "CHBCmnbOBnHBbMPCBbAFkJBdBABAbNABABBBBphbCC"]),
  ("extend",
    ["daAgPbbDGbaHcMBABBBBBAeIKdAbEbAAgFGCFCBBDcDAbObKfLKdKIJAbIDBIBCBEcLCdLIcKbHBcAdGCBbBBGKBbN",
     "CdIABGCBCCJAKBbKACCdIABEEBCCDAbOBDALCdIABHBCBCbEBbGFBCdIABGCBCCHCKBbOAdLEDCBDJAcIEdHABGBCB",
     "DHBLBbNCdIABGBCBDHBLBPAMDdHBBGBCBDJAKBbNCeGAEFBABHbCBdNACGMHgCACILGeJBbLABABAEBdBbDBBFKBcD",
     "JAgEbDbHDECBCCGDDNLBAKDclPCdlCDbMCbNBbOBeAbPJAcNCBAhFBcCAhGLELnLEdJJBbMCAdAbOdBEcPbAcGIMCb",
     "OMdINdAbDjICBbEEAGACCmGdPcaMBmCcAlpOCiNAgAbPccKFgJBhfnEDBJcABfABbbAADAEAbHEEAfDBdCbBbKbBNA",
     "cGHbJMcMDcPNcEAeDNMAIBcNCdCABCCBFBBAcJEFBoMHBBepdAAcoBPbAPbgOBcfNAoCAjFEgiGCBBFDcICEAkFBcd",
     "NDeBEbdNBePDeGKdBDhKCdFOcJACBKDcNKHAdNCcENbABcMAMCdANIDBBfMLGACAjNLbFDdHBBGCBCCJAKBCGDEeDI",
     "BACABDBEBAOBfCbBbHAfBbDoLGCIbLBfCbAgKMgFObaAOpFFBBCDBABBiNGCGDAbMJcIGBDIAJKcOPbjFHBHfCbFBN",
     "hKFDABBBGBAeCEBBBEbfLDJBBAdAGDEbHAbeoFAGOcmmIbBjmAEdLGebIABdGHDfBALBemkLBbcgBcNCbGcbOEDFIH",
     "CGbODjEChlLdGEdBIAOAbGEBOffAGBbACGBBBEgEAkAGbhHAdNDbpMDpOBcoAGgNGmbgnFfPiAoP"]),
  ("format", ["kNAfgOApCAbapOAhpMACBbKEdBEBJnoiPApJCdedEPiigADbemPHmcoiGA"]),
  ("lf", ["KA"]),
  ("lower",
    ["gBbJcPAKAEAcEbHBHBABABABABABABABABABABABABABABABABABABABABABABABABABABABBBABABABABABABABBB",
     "ABABABABABABABABABABABABABABABABABABABABABABACABABCCABACADBEACADCCACABABACABBBACADABACBCCG",
     "ACACABABABABABABABABBBABABABABABABABABBCABADABABABABABABABABABABABABABABABABABABABABABABAB",
     "ABABABABABABGCACBBAEABABABABeEBcDHBbOEiMABADACDbCAbLcCBBDCBABABABABABABABABABABABEBACACBdD",
     "cPBABABABABABABABABABABABABABABABABAJABABABABABABABABABABABABABABABABABABABABABABABABABABA",
     "CABABABABABABBBABABABABABABABABABABABABABABABABABABABABABABABABABABABABABABABABABABABABABA",
     "BABABABABABABABABABAdAcIlhDAcpLFiiCIBAhFlPeBABABABABABABABABABABABABABABABABABABABABABABAB",
     "ABABABABABABABABABABABABABABABABABABABABABABABABABABABABABABABABABABABABABABABABABABABABAB",
     "ABABABABABABIBABABABABABABABABABABABABABABABABABABABABABABABABABABABABABABABABABABABABABAB",
     "ABABABABABABABABABABIIFKHIHIFKHIHINCHIHIHIEBBGADCBBIDCBIHKCBBhJANAbAMgNADBDAbLAEAEACBIDEAc",
     "BPEAdeLbJheGcPBADBBABABAEABBBHDABABABABABABABABABABABABABABABABABABABABABABABABABABABABABA",
     "BABABABABABABABABABABABABABABABABABABABBHABAEAMcFBAFAhjbDABABABABABABABABABABABABABABABABA",
     "BABABABABABAbDABABABABABABABABABABABABABCiFABABABABABABCBABABABABABABABABABABABABABABABABA",
     "BABABABABABABABABABABABABABJBABACABABABABAEABACABCBABABABABABABABABABAFAFABABABABABABABAEA",
     "BACADABABABABABAbGCBABCddFcKBNGePepeAGMEecJbJemNcHiIcDjLKBOBGBBbmDACCBcJBIfaFdChNbFldKbPff",
     "iAbPgfjKbJbKGBbBbKbJbKDBABGBKbKbJbKbJbKbJbKbJbKbJbKbJbKbJbKbJbKbLbMbIBFbKbIBFbKbIBFbKbIBFb",
     "KbIBFBAhdEJBbDGFbaFdNilEcB"]),
  ("numeric",
    ["dAJfmGFfKJBBhAAbCJmGJmGBfAAiDJhGJhGJhGJhGJhGJhGJhGJhGJhGJgAJhGJeGJbbGJeGJheGJcGJbcMJiAKkFJ",
     "GJlGJfGJiGJGJijmGJckGJcGJmGJbGJfGJbjGJfdbGJfiGJiiGJGJdbMJeNAPAcCJdMJjAJbbGJbfGJhGJbhGJgGJG",
     "bDeMJbkGJgGJcjGJfGJpGJeGJbkGJebnGJjcGJfGJiGJcbGJfphGJknEdBjeAJbkGJbpGJpHJdfFJbcjGJ"]),
  ("oletter",
    ["blLAEDnAAcEGGLbKABAiFAboEAhGbKEEcMcKcDBBgCBAPBHBKCCAbAABbNbNfILAbIcAJBEAFbFEAJADAbHbIHKFbH",
     "BFbBcJdKdFDAbCAHJPPEHCBCbFBGBADDDAbAANBBCOBKAIFEBCbFBGBBBBBBbPDBAbDCbAIBCBbFBGBBBEDAbCAPBb",
     "HALHCBCbFBGBBBEDAbOBBCPAbBABFDCBDDBBABBDBDCDLbGAdEHBCBbGBPDAbKCCACBbOAEHBCBbGBJBEDAbPBBBPB",
     "bBIBCBcICAbAAFCICbIFFbBDbHBIBACGdKcPBBMGdKBBABEBbHBABJBBJACEBAbFDcAAdPHBcDbLEhDcKbEAbAFEDD",
     "ADBHCEMMAeBcKCbeLBDCGBABDCcIBDCcABDCGBABDCOBdIBDCeCcFPhBcgLCbABbJFeKDKHbBNbCObBOMBCPdDcDAE",
     "AeDfIHECcBBAFeFKbOdBbNCELcLEbJdGbGJdEfCAfNcObBHdGbNNBKcLbKcDcJCKcDbCcKCCcJDBFBBDAedKDeHCCD",
     "lkHdHHAbAbGJGBGBGBGBGBGBGBGfAAbnFCbJIHECEEfFGCBfJBDFcKBfNbBbPdAPcaAbjlPeAfgiMeDcNCbaMDPKBe",
     "CAbAAcAePcHIgIAGAgHADGBCBDBbGbNdDOdBdOFDABBLbLKbGbJbMHcObMAbAEBJKEBcIbHCBHbEbGDADdBBADBCEC",
     "ABAbICCKHCMFCFCFJGBGjBcCbNclkDMbGEdAcbaEbgNCgJeDABJBMBEBABBBBBgLcBbgKbCdPCdFcILhEEBiGgJdHC",
     "bODFCFCFCCcDLBbJBbCBBBOCNcChKeFdEbaLbMDdAcPbPNbNFcFKbNCcDEHBEhKeNgCcHIdDfMdDMbdGJbFKHbJBhN",
     "FCABcLBBDACbGKbGJbOeBbCBBKbFKbJeGdHGBeAAPDBCBbMcKbMDbMcDHBbLbLdFKbFKbCNbBgOeIlHcDcGFbPAbbA",
     "cJGBbACdLbMKAIbFcKbBcObEbLbGMdEdJBCANcMcAbIbKcDbNACAIcCDAMcPODbFABAcDbBBbIbDBdPGBABDBOBJHc",
     "OcGHCBCbFBGBBBEDAbCAMEbOJBACABcFBAbJABAcMdEbCDbECbOcPbEBBAlIcOcJDcEcPbEAdLcKNAeHbKcFGlJcLn",
     "DHCACHBBBbHPABAfOHCcGbAABAbMAKcHHAbFALcNbDAbCeImHcAbPIBcEbBAdBbNhAGBBBcFbFAbJFBBBbPOAbeHbC",
     "PABMBcBhMAePdjJgGgObBmDkeMgAPecPbBFbJpjKFceGbklJbNgoCcdIHbObBeObBbNbCcPbADbPbEFbCblAcMbjDe",
     "KFAeCMeABBAbMbhpHIenFcJJccoHDBGBBBbcCPAbNCCAODIbiLjaEgKFMDIHJcchAAbpFcMKGbAAbeBbNbCcLboEbL",
     "oEbNCAboPGBDBBBOBmEiGAelEDBbKBBBACABJBDBABAGAEABABABCBBBACABABABABABBBACDBGBDBDBABJBbAFCBE",
     "BbAbbeEkgnPcAbadJGnNCbgiBObndAPcgNjkCcbNfoCbdeKFbafP"]),
  ("scontinue", ["cMBMBdeCAbnOAkOBboKAbaaJAFAiaKBpoMAmoaOBBBbMBbNBCBCAKAkIBMBeIA"]),
  ("sterm",
    ["cBAbNAfeJAjDClEAcLCpGAdNABADBbcFBgoEBdbGAEBdaFAmGBjNBcNAFAbdKBbgCDkCBKBCBbNClLBeBBdlMBJCmk",
     "PCbdCANAbGBbkNAhepMAbaOBoDADAbhOBfGBfPAjIBjDCjABpJAfccGACBdPBkJAbNAeBAkpEBepNEcMDlNBhFDhPC",
     "iBBGAbABfIBBBgMAbcKBhFBbhFBFOgJBpJCcaFABApLBfHBbkEBclEBeKBelcJBiFAeBBLAccJBbcIAeoaGAbnoIA"]),
  ("sep", ["iFAbpkCB"]),
  ("sp", ["JABBbDAhPAbfnPAjhPKcEAcPApkAA"]),
  ("upper",
    ["eBbJgFbGBGcBABABABABABABABABABABABABABABABABABABABABABABABABABABABACABABABABABABABACABABAB",
     "ABABABABABABABABABABABABABABABABABABABABBBABADBBABBBCCDBBBCDBBBBABABBBACABBBCBABBDAHBBBBBB",
     "ABABABABABABABACABABABABABABABABACBBABCBABABABABABABABABABABABABABABABABABABABABABABABABAB",
     "ABABABAHBBBCABDBABABABAbcBABADAIAGABCBABBBbABIcDACCDABABABABABABABABABABABAFACABBCdCdAABAB",
     "ABABABABABABABABABABABABABABAJABABABABABABABABABABABABABABABABABABABABABABABABABABABBBABAB",
     "ABABABACABABABABABABABABABABABABABABABABABABABABABABABABABABABABABABABABABABABABABABABABAB",
     "ABABABABABABACcFleJcFBAFAcnCfFijDAbhGABABABABABABABABABABABABABABABABABABABABABABABABABABA",
     "BABABABABABABABABABABABABABABABABABABABABABABABABABABABABABABABABABABABABABABABABABABABABA",
     "BABABAJABABABABABABABABABABABABABABABABABABABABABABABABABABABABABABABABABABABABABABABABABA",
     "BABABABABABABAJHIFKHIHIFLABABABAIHbIHIHIHIELELDMELEbaFAEADCCCCADEGABABABDCDKBFAbKPbDAddCbJ",
     "hdAcPdAABCCABABABDBACAICBABABABABABABABABABABABABABABABABABABABABABABABABABABABABABABABABA",
     "BABABABABABABABABABABABABABABABAIABAEAhjeNABABABABABABABABABABABABABABABABABABABABABABAbDA",
     "BABABABABABABABABABABABABAiHABABABABABABADABABABABABABABABABABABABABABABABABABABABABABABAB",
     "ABABABABABABAKABABBBABABABAEABACABADABABABABABABABABABABEBEBABABABABABABABDBABBDAFABABABAb",
     "IAfhcLbJemFcHiIcDjMKBOBGBBgoKdCjNbFldKbPffiAbPgfkAbJbKbJbKbJbKABBCACBCDBHbKbJbKBBDCHBGbLBB",
     "DBEBADGbLbJbKbJbKbJbKbJbKbJbKbJbObIcBbIcBbIcBbIcBbIcBAbbdFcBiaObJGbJGbJ"])
]

/-- **Short sentence break names** and the full names that they stand for. -/
def sentenceNames : List (String × String) := [
  ("at", "aterm"), ("cl", "close"), ("ex", "extend"), ("fo", "format"), ("le", "oletter"),
  ("lo", "lower"), ("nu", "numeric"), ("sc", "scontinue"), ("se", "sep"), ("st", "sterm"),
  ("up", "upper")
]

end OrderedChoice.Unicode
