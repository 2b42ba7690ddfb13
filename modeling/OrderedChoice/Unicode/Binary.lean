import OrderedChoice.Unicode.Packed

/-!
# Binary properties

Properties that a character has or has not, as packed range lists.
-/

namespace OrderedChoice.Unicode

/-- **Ranges of each binary property**, by its full name in lower case without separators. -/
def binaryRanges : PackedTable := [
  ("asciihexdigit", ["dAJHFbKF"]),
  ("alphabetic",
    ["eBbJGbJcPAKAEAFbGBbOBbmJELOEHABAfGAbNbBBBCDBAGABCBABbDBfCBiKIkFBcFCAGcIcHNBABBBBBAIbKEDbNK",
     "FdHBGOgFBHEHECKCCAbAcPNgEbIcAJBEAFbHCbCbDbIHKFbHBFIAIcJKLDGGeLBPBCEONbCBHCBCbFBGBADDDHCBCB",
     "BAIAEBBEMBKAECBFEBCbFBGBBBBBBEEEBCBEAHDBAbBFLCBIBCBbFBGBBBEDIBCBBDAPDbFDECBHCBCbFBGBBBEDHC",
     "BCBJBEBBENAbABBFDCBDDBBABBDBDCDLEEDCBCDAGAcIMBCBbGBPDHBCBCIBBCCACDbMDBHBCBbGBJBEDHBCBCIBGB",
     "BDNCMMBCBcICHBCBCBAFDHEbGFBCBbBDbHBIBACGIFBABHbCBNdJFGGAdDBBABEBbHBABbCBCCEBAGAODcAAdPHBcD",
     "EbCEPBcDeDdGBACEbAdPKDCcFBAFACcKBbeMBDCGBABDCcIBDCcABDCGBABDCOBdIBDCeCcFPbAfFCFDcgLCbABbJF",
     "eKDKHbDLbEMbDMMBCBBMdDCbCOAEAeDfIHcKFeFKbOBLEIbHbNCELcLEbJdGbLEdOCbDdCAbHBLCdBdDBOBHdDcJCD",
     "KcLBKOdGbGCKcDCKFcKCCcJDBFBBDAFlPbDcBLbbFCFCcFCFCHBABABABbOCdEBGBADCBGDDCFEMFCBGhEANAbAMgF",
     "AEACJBADEGABABABDBKCDFEEAbBcIdcNdDhbGoEGDDBMcFBAFACdHHAbAbGJGBGBGBGBGBGBGBGBbPcPAbnFCbJIHE",
     "CEEfFGCBfJBDFcKBfNbBbPdAPcaAbjlPeAfgiMeDcNCbaMDPKBbEcOFHDhAcHICgGCeCCBBABHbFbDBcAbIdDMeDBA",
     "cMFDABCKcAFcCNbMDdCBLPAbAPKEBdGJNbCbGDeEBABAbICCPCDLFCFCFJGBGBcKBNGhKbFclkDMbGEdAcbaEbgNCg",
     "JcGGMEFLBMBEBABBBBBgLcBbgKbCdPCdFcILhEEBiGcEbJGbJLfIDFCFCFCCcDLBbJBbCBBBOCNcChKeFdEbaLbMDd",
     "AcPbPNbNFcKFbNCcDEHBEcKjNbCcDEcDEcHIdDMKBOBGBBBKBOBGBBDdDMbdGJbFKHbIFBcJBIeFFCABcLBBDACbGK",
     "bGJbOeBbCBBKbFKbJeGdHGBeADBBFHBCBbMcKbMDbMcDHBbLbLdFKbFKbCNbBgOeIdHdCNdCNcHcCbLDAFbGpKcJBB",
     "DBbACdHADbMKAIbFcKbBcObEbLbGJeFcLEKdIJANbIbHdCbBDIcCDAJdPBDJBKABAcDbBBcBCAGDdOGBABDBOBJHdI",
     "bHDBHCBCbFBGBBBEDHCBCBDAGAFGbMJBACABcFBJBACABDBBDABAcMeBBCBDbECbOeBCBBAlIdFCGbJFcCdOBADAdL",
     "dFCAeHbKCNbFGlJdIgHdPbPHCACHBBBbNBBCBCDfNHCcNCFBABBbLdCCJbBeHFAbCeImHcAbPIBcMBGBAdBbNCbFBN",
     "eJGBBBcLDABBBCBACBbIFBBBcEBBBDBAbeHbGJbABcIDCgPAePdjJgGgObBmDkeMgAPecPbBFbJpjKFceGbklJcOgn",
     "BcdIHbObBeObBbNbCcPbADbPbEFbCblAcMnDdPiAeKEdIHbAeABBAMBObhpHIenFcJJccoHDBGBBBbcCPAbNCCAODI",
     "biLjaEgKFMDIHJEAbhgBfEBeGBBCACBCDBLBABGBeABDCHBGBbLBDBEBADGBbfDCbIBbIBbOBbIBbOBbIBbOBbIBbO",
     "BbIBHhdEbOGFnFGBbACGBBBEFdNcBAhAcMKGbAAbeBbNbCcLboEbLoEbNCAboPGBDBBBOBmEdLeDDADAelEDBbKBBB",
     "ACABJBDBABAGAEABABABCBBBACABABABABABBBACDBGBDBDBABJBbAFCBEBbAchEbJGbJGbJohGkgnPcAbadJGnNCb",
     "giBObndAPcgNjkCcbNfoCbdeKFbafP"]),
  ("bidicontrol", ["gbMAbjpBBbKEdHD"]),
  ("bidimirrored",
    ["cIBbCABAbMABAbNABAcNAPAohODhfNBjjMBKBdGBOBlBAmADDFDADBDDBDBABAEIFABbBFDJBBABHBbPCDFAJBCbCF",
     "BJECBEbHCPIDbEBHBedNNeKACDBBBCFDFCDNbjDbFCFBNIAHFDAEEBBCEEABCCBKFCBMbCBDCABACABDFBGCbIBLBE",
     "DBBCBEcKCHBcHFABADEFCEADEBAbaAAcaDDDBBBOBCJcLHbkLJCHmodNFFBkCBbCABAbMABAbNABABBBBnhhHAdJAd",
     "JAdJAdJA"]),
  ("caseignorable",
    ["cHAGALAcDABAeHAEABAEACBbpHlPEBEAJBBApLGmPAFAdBcMBABBBBBAcMALFKKBAcDAKbEbAAgFHBJBDcBABAbObK",
     "fLKdKKEACAbIbHcLCcMAHBFIcJdJdHABAEHEADGKBNAPAdKAEDIAbEBbKACBdJAEBEBCCDAbOBDALBdJAEEBBEAbEB",
     "bGFBAdKACABDIAHBLBbOAdNAMAdCADAdHABCFCBDHBLBbNAdKACAGAFBbEBbMBdJBEDIAbEBbNAeIAHCBAfKACGLIg",
     "CACIJABGeJBbLABABAdHNBEBBFKBcDJAgGDBFBBCBbJBECbADNACBGAPAfOAcgACdlCCbNBbOBbOBeABBGIACKDAFA",
     "cNEdDAeBBcCAhGCEBJAGCnLBCAdKABGBABACHGJCAcHAIbOdBDdAABEBAFAcIIMBcADCBBCdIABBDABCdKHCBeAFfC",
     "CBMBGEAGADBdCdONAcCgEblNABCLCNCNCNBMEIBKACACEdBEBJBANAbAMdDcAliLBhBChNAPAgAbPcPAbnFAcEDDEF",
     "AfNFfNCgpbGAeoCFbaOAgCDBJBAbMDfABOcBeOAbHCgHCDBIADAEAbJBFAjHBbKbBNAcGHbJKcOCdAACDCBbBAbFBe",
     "CFCBCBMAIAcDALAdDABCCBFBBAbLAOBFBBAgEEJChJACAEAepdAAjDbAcdNPDAMPcCACAkJAHAGALAcDABAcPAcNBe",
     "DAbFCcaBAoCAjFEeaFFBcJBIceGCBBFDcICEAkFBcdNDcGAbKEBAbdLBePDeGKdBDhLAdGOcJACBKCdBDCBCAEAKAd",
     "CCcEEBHdOAMBdEIKDCAfPCCABBGACAjNADHbFBdJBDAcFGDEeGFNABABAOBfFHCCBAbHAfEFBAEBBBoODGBBBbLBfF",
     "HCABBgKABACFBAgFABACDBEbaDIBBbaABBAEAjADCBEAcAJcIFCDIAJFCCcOMBBbjGGBFBAfCbFCGBBBBhKFDABBBG",
     "BAeIBDABAbfLBLBdEEFABAbHAbenFbAGOcmmILDCjmAEdLGJDbpMCcIBboCAdPbAeABBBeaaLDBGBBmjOBBDbcfMcN",
     "CbGccACJPCGbODjEChlLdGEdBIAOAbGEBOffAGBbACGBBBEFdNcBAkANbhAAdNDbpLEpOBcoAGgNHkkPEmamaBAbOf",
     "PiAoP"]),
  ("cased",
    ["eBbJGbJcPAKAEAFbGBbOBmCBDEmPBcDHBbOEgAAcKDCBCDBAGABCBABbDBfCBiKIkFBcFJcIlbHcFBAFACcKBDckAf",
     "FCFiiCKFcKCCeAlPeAbbFCFCcFCFCHBABABABbOCdEBGBADCBGDDCFEMFCBGhEANAbAMgFAEACJBADEGABABABDBFE",
     "ACDFEEAbBbPDBddBdDhbGoEGDDBMcFBAFAhjbCcNbCbNiEgFDDBdNCBBABHbFEBCddFcKBNGePepeAGMEeaJbJGbJe",
     "kFePgAcDEcDhEKBOBGBBBKBOBGBBbmDACCBcJBIemFdCNdCfNbFKbFlbKdPffgAdPgfiAfEBeGBBCACBCDBLBABGBe",
     "ABDCHBGBbLBDBEBADGBbfDCbIBbIBbOBbIBbOBbIBbOBbIBbOBbIBHhdEJBbDGFbaFdNijCeDhoMbJGbJGbJ"]),
  ("changeswhencasefolded",
    ["eBbJfKAKbGBHcAABABABABABABABABABABABABABABABABABABABABABABABABABABABACABABABABABABABABBBAB",
     "ABABABABABABABABABABABABABABABABABABABABABBBABABABBBABBBCCDBBBCDBBBBABABBBACABBBCBABBDAHBB",
     "BBBBABABABABABABABACABABABABABABABABACBBABCBABABABABABABABABABABABABABABABABABABABABABABAB",
     "ABABABABABAHBBBCABDBABABABApGAcKABADAIAGABCBABBBbABIbGAMCDBBABABABABABABABABABABABABBCBBAB",
     "BCdCdAABABABABABABABABABABABABABABABABAJABABABABABABABABABABABABABABABABABABABABABABABABAB",
     "ABABBBABABABABABACABABABABABABABABABABABABABABABABABABABABABABABABABABABABABABABABABABABAB",
     "ABABABABABABABABABABABACcFdAAlbIcFBAFAdcKFiiCJGcKCCbeAABABABABABABABABABABABABABABABABABAB",
     "ABABABABABABABABABABABABABABABABABABABABABABABABABABABABABABABABABABABABABABABABABABABABAB",
     "ABABABABABABABABABABABAFBCABABABABABABABABABABABABABABABABABABABABABABABABABABABABABABABAB",
     "ABABABABABABABABABABABABABABABABAJHIFKHIHIFLABABABAIHbAcPCCCFFCCFLDMEFCCFbcJADBGAcNPbDAddC",
     "bJhdAcPdAABCCABABABDBACAICBABABABABABABABABABABABABABABABABABABABABABABABABABABABABABABABA",
     "BABABABABABABABABABABABABABABABABAIABAEAhjeNABABABABABABABABABABABABABABABABABABABABABABAb",
     "DABABABABABABABABABABABABABAiHABABABABABABADABABABABABABABABABABABABABABABABABABABABABABAB",
     "ABABABABABABABAKABABBBABABABAEABACABADABABABABABABABABABABEBEBABABABABABABABDBABBDAFABABAB",
     "AbIAdhKePepeAGMEeaJbJemFcHiIcDjMKBOBGBBgoKdCjNbFldKbPffiAbPhkkAcB"]),
  ("changeswhencasemapped",
    ["eBbJGbJdKAKbGBbOBdPBfDBbLCNCBBAEfMBbBGbKBBBABBDBBDBECABBCAHACABBDFFAKBkGAcKDCBDCBAGABCBABb",
     "DBcODcABEBiEIkFBcFKcGlbIcFBAFACcKCCckAfFCFiiCKFcKCClJADAbAAhBjLCABhFCFCcFCFCHBABABABbOCdEB",
     "GBADCBGDDCFEMFCBGbcJADBGAbLAbBbPDBddBdDhbGhABBBBHgFHDDBMcFBAFAhjbCcNbCbLiGNCdNJODCCEBbIBbN",
     "CBEGbIBdfMAbMePepeAGMEeaJbJGbJekFePgAcDEcDhEKBOBGBBBKBOBGBBgmDdCNdCfNbFKbFlbKdPffgAdPhkiAe",
     "D"]),
  ("changeswhenlowercased",
    ["eBbJgFbGBGcBABABABABABABABABABABABABABABABABABABABABABABABABABABABACABABABABABABABACABABAB",
     "ABABABABABABABABABABABABABABABABABABABABBBABADBBABBBCCDBBBCDBBBBABABBBACABBBCBABBDAHBBBBBB",
     "ABABABABABABABACABABABABABABABABACBBABCBABABABABABABABABABABABABABABABABABABABABABABABABAB",
     "ABABABAHBBBCABDBABABABAbcBABADAIAGABCBABBBbABIcDAIABABABABABABABABABABABAFACABBCdCdAABABAB",
     "ABABABABABABABABABABABABABAJABABABABABABABABABABABABABABABABABABABABABABABABABABABBBABABAB",
     "ABABACABABABABABABABABABABABABABABABABABABABABABABABABABABABABABABABABABABABABABABABABABAB",
     "ABABABABABACcFleJcFBAFAcnCfFijDAGcKCCbeAABABABABABABABABABABABABABABABABABABABABABABABABAB",
     "ABABABABABABABABABABABABABABABABABABABABABABABABABABABABABABABABABABABABABABABABABABABABAB",
     "ABABABABAJABABABABABABABABABABABABABABABABABABABABABABABABABABABABABABABABABABABABABABABAB",
     "ABABABABABABABABAJHIFKHIHIFLABABABAIHbIHIHIHIELELDMELEbcJADBGAcNPbDAddCbJhdAcPdAABCCABABAB",
     "DBACAICBABABABABABABABABABABABABABABABABABABABABABABABABABABABABABABABABABABABABABABABABAB",
     "ABABABABABABABAIABAEAhjeNABABABABABABABABABABABABABABABABABABABABABABAbDABABABABABABABABAB",
     "ABABABABAiHABABABABABABADABABABABABABABABABABABABABABABABABABABABABABABABABABABABABABAKABA",
     "BBBABABABAEABACABADABABABABABABABABABABEBEBABABABABABABABDBABBDAFABABABAbIAfhcLbJemFcHiIcD",
     "jMKBOBGBBgoKdCjNbFldKbPffiAbPhkkAcB"]),
  ("changeswhentitlecased",
    ["gBbJdKAcJbHBHBABABABABABABABABABABABABABABABABABABABABABABABABABABABACABABABABABABABBBABAB",
     "ABABABABABABABABABABABABABABABABABABABABACABABCCABACADAFACADCCACABABACAEACADABACADABAEABBB",
     "BBABABABABABABABABBBABABABABABABABABCBABADABABABABABABABABABABABABABABABABABABABADABABABAB",
     "ABABABABAIACBBAEABABABABFBBBABBDBBDBECABBCAHACABBDFFAKBkGAcLABADADCbCAbLcCBBDCBABABABABABA",
     "BABABABABABEBACACAdEcPBABABABABABABABABABABABABABABABABAJABABABABABABABABABABABABABABABABA",
     "BABABABABABABABABABACABABABABABABBBABABABABABABABABABABABABABABABABABABABABABABABABABABABA",
     "BABABABABABABABABABABABABABABABABABABABAdBcGohAFiiCIBAoOADAbAAhCABABABABABABABABABABABABAB",
     "ABABABABABABABABABABABABABABABABABABABABABABABABABABABABABABABABABABABABABABABABABABABABAB",
     "ABABABABABABABABABABABABABABABABGFABABABABABABABABABABABABABABABABABABABABABABABABABABABAB",
     "ABABABABABABABABABABABABABABABABABABABIIFKHIHIFKHIHINCHIHIHIEBBGADCBBIDCBIHKCBBbfGAcBPEAde",
     "LbJheGcPBADBBABABAGACAKABABABABABABABABABABABABABABABABABABABABABABABABABABABABABABABABABA",
     "BABABABABABABABABABABABABABABABAIABAEAMcFBAFAhjbDABABABABABABABABABABABABABABABABABABABABA",
     "BABAbDABABABABABABABABABABABABABAiHABABABABABABADABABABABABABABABABABABABABABABABABABABABA",
     "BABABABABABABABABABAKABACABABABABAEAEABBCABABABABABABABABABALABABABABABABABAEABACADAFABABA",
     "bKAdfMAbMePepeAGMEecJbJemNcHiIcDjLKBOBGBBhaDdChNbFldKbPffiAbPhkkCcB"]),
  ("changeswhenuppercased",
    ["gBbJdKAcJbHBHBABABABABABABABABABABABABABABABABABABABABABABABABABABABACABABABABABABABBBABAB",
     "ABABABABABABABABABABABABABABABABABABABABACABABCCABACADAFACADCCACABABACAEACADABACADABAFBBBB",
     "BBABABABABABABABBBABABABABABABABABBBBBADABABABABABABABABABABABABABABABABABABABADABABABABAB",
     "ABABABAIACBBAEABABABABFBBBABBDBBDBECABBCAHACABBDFFAKBkGAcLABADADCbCAbLcCBBDCBABABABABABABA",
     "BABABABABEBACACAdEcPBABABABABABABABABABABABABABABABABAJABABABABABABABABABABABABABABABABABA",
     "BABABABABABABABABACABABABABABABBBABABABABABABABABABABABABABABABABABABABABABABABABABABABABA",
     "BABABABABABABABABABABABABABABABABABABAdBcGleIcKCCcpIFiiCIBAoOADAbAAhCABABABABABABABABABABA",
     "BABABABABABABABABABABABABABABABABABABABABABABABABABABABABABABABABABABABABABABABABABABABABA",
     "BABABABABABABABABABABABABABABABABABABGFABABABABABABABABABABABABABABABABABABABABABABABABABA",
     "BABABABABABABABABABABABABABABABABABABABABABIIFKHIHIFKHIHINCdEBBEABADCBBEADDCBIHKCBBEAbfBAc",
     "BPEAdeLbJheGcPBADBBABABAGACAKABABABABABABABABABABABABABABABABABABABABABABABABABABABABABABA",
     "BABABABABABABABABABABABABABABABABABABAIABAEAMcFBAFAhjbDABABABABABABABABABABABABABABABABABA",
     "BABABABABAbDABABABABABABABABABABABABABAiHABABABABABABADABABABABABABABABABABABABABABABABABA",
     "BABABABABABABABABABABABABAKABACABABABABAEAEABBCABABABABABABABABABALABABABABABABABAEABACADA",
     "FABABAbKAdfMAbMePepeAGMEecJbJemNcHiIcDjLKBOBGBBhaDdChNbFldKbPffiAbPhkkCcB"]),
  ("dash", ["cNAffMAdDAoeBAeaFAiaJFdNAcHAPAbiGAmaEACAbPBEAbMAblOAbDAgPAmnjABcFAKAkJAogAAbdOA"]),
  ("defaultignorablecodepoint",
    ["kNAckBAcmMAleCBgfDBfFEhpLEbKEdBPbapEAmmjLPoPAkAAePIlmkHDbemPHmcoiFppP"]),
  ("deprecated", ["beJAfcJAjaDABAicJBimFFclJBnnmnGA"]),
  ("diacritic",
    ["fOABAeHAGAEACBbpHjOBHFFbBBEAJBpNEnBAdHbABbKBABBBAiGHEBiGBEBDCeDbKfLKdKKcCBhOHcJJbAbLdNAbAA",
     "DDbMAeKAbAAgOAbAAgOAbAAcPCdMAbAAHAhHAgOAbAAgOAbAAgNBbAAhMAgPAMFBAgLANEeLBbLABABAEBeCCBBdOA",
     "hAABBcIBEEbJGBAKBcmBCdlEBbOAjEKJAbfLCbcEAbEHCAdAOCKgIAPAcGIdGBdKALBeCBeAFfCbIEAGACCdCdOfJL",
     "cFKblNABCLCNCNCNBmpACbdNAbpKFgJDfPAhfhCAMBBAbMBfCBOcBgGCgNBMAcFAjHAbLbBdJDcEAfPAMAcEAjFCeB",
     "DdDAgEEJCiABepdAAdaBPbaOABAcPAcNBeDAcpMAejPFBcJBIchNCEAkFBcdLFcGAbKEbiPCeGKdBDmAAcJAeIBhIB",
     "dOAeMAJCgIBlCBfABbAAbIGDEfJCBBNBfPADAhLBpLBhOAhGBhDAbaNBbaCBEAjMAfDAbCAfBAbkFAbaCABBfBAbkJ",
     "BbHAbeoMOcmnJAjmAEdLGcdEBccCbAfABdppODBGBBbpaBcNCbGccACDFIHCGbODoiCdNmCGbhHAdNDcpOBcoAGgNC",
     "BC"]),
  ("emoji",
    ["cDAGAFJgPAEAbpiNAMAnIAbGAfKFPBbgPBMAkGAbJKECmHAoHBKAJAdKDBEJACACBCAEACABBCADADBICFABAFLLBC",
     "ABBBAbCACBbCFBABBDBFACBEBLBFBCAFBBABBbEBFFBDCAEACACFBACABABAGADAGAKBPACAEABAECBALBdACJAOAO",
     "AbhEBbmPCbDBdDAEAenKAMAcfJABAblngKAmKAkABMBOACJeLbJBBbHAbEACIbFBkOcBCgPCBBCCfCCCBbaGBdOLFB",
     "bHHBCHMACDCAEBNBCAIBJAFCMCICCABAEAGADAGfFdAeFFHCCEJDABBDACJoDLEAbbLcOBJBlIhAMDJFdHHOCKGI"]),
  ("emojicomponent", ["cDAGAFJbpnDAnFAnncLApdnGbJbpLEflADmaggMfP"]),
  ("emojimodifier", ["bpdpLE"]),
  ("emojimodifierbase",
    ["cgbNAnLAbADbmmhHAdMCCACChFBCKbFbCDAECBCHABAbIAmJBEAbFAEBkOCDEfDAbACJALAcdPACAIHGAJJCCdIAdN",
     "BBBBAbBCBMoFCcKI"]),
  ("emojipresentation",
    ["cdbKBmNDDACAcaJBbFBdCLcLAbDANAIBbBBFBIAFAbFAHBBAEACAHAEBbMAcDABAECBAdNCbIAOAdfLBdDAEAbmekO",
     "AmKAlOACJeLbJBAbIAbEACEBCbFBkOcAMIBeFBbFMcKEEMbADADeGBABlKCdONDBbHbCAbKBNAfGfEdAeFGADCCCED",
     "LBHIoDLEAbbLcOBJBlIhAMDJFdHHOCKGI"]),
  ("extendedpictographic",
    ["kJAEAbpiNAMAnIAbGAfKFPBbgPBMAfPAeGAbJKECmHAoHBKAJAdKDBFBLBhBKhFCKBABAGADAGAKBPACAEABAECBAL",
     "EcNCJAOAOAbhEBbmPCbDBdDAEAenKAMAcfJABAblngGpPNCbPAdMFMBOACJbCdIbLOKAbEACIBDJblBFbdNIbaJdAh",
     "PhELfFcKMDdIHKFcIHbOfBMcOBJBblIbaAdpN"]),
  ("extender",
    ["lHAcbIBdgOAblJAchGAiJAfJAcpAAhPAjeDAdIAcgDAbiOAeEAbdiJAcLEgHBfNCgpbGAfpGAdmCAbGAiJAgMAbFBf",
     "ehLAibABfmLAbLAEAemHAbcFAhEBbpCCemPAfakJBejMBBAhbfIBelBAdfEC"]),
  ("graphemebase",
    ["cAfOcBMBcfBhAHCFEGBABbDBnPHkFBcFCdBCCcOABACACAJbKEFbBJLABcNbFPBgEIAGBCAEbPCABbNbNfILAOcKJG",
     "DbHEAJADAHOBbIFABKFbObBcJdJdGBABDIDBCHJCbMBBBHCBCbFBGBADDDABBGBCBBANBBCEbHFABFEBCbFBGBBBBB",
     "BECbIDBAHJCCBAMABIBCBbFBGBBBEDDIABBDAPBELHAIBBHCBCbFBGBBBEDACAGBCBPBBCEbBLABFDCBDDBBABBDBD",
     "CDLFABBDCBCDAbFbEGCBHBCBbGBPDADDbDCCACBEJHJBKBCBbGBJBEDBCABBbIBBBEJBCOKBCBcICABBFCBCBBECBJ",
     "EbJCBBbBDbHBIBACGJBGGHJCCMcPBBLHIMcFBBABEBbHBABJBBJACEBAJJCDcAbHCbKBABABNBcDbCAFACEdBHBFBM",
     "cFcMEAGACBCbICDDPEMBBCFBOBcHBAFACbhIBDCGBABDCcIBDCcABDCGBABDCOBdIBDCeCFbMDbJGfFCFCcjMDfIHb",
     "BNbCDBJbBOMBCPdDCAHHBBLIDJGJGKFJGfIHECcBBAFeFKbOEDCCEBBFHADcJCELcLEbJGKDdICBDdHBAJABBIFNJG",
     "JGNfGcPKDDHBbMJLCbPEBGdHBACCBANcPIBFODdNFcKCKLANAHDBFBCCAFlPeAbbFCFCcFCFCHBABABABbOCdEBOBN",
     "CFBbCCCBIBKFbHHdAbABCbKBMDcAdPiLEcjJbGKbFhbDCbPBbfHDBFcMBAFACdHHBPbGJGBGBGBGBGBGBGBGcBfNcC",
     "bJBfIMnFbKdJGPBfFEgEFcKBfNBfFJcPBhcgMDdGJbfLbEcOEAKbPCePCFImNCBBABHbFPBCBDBbICEEJGdHIeDKLb",
     "IMBcFIbILAMbNGcPBBEBCBBMBKEGBbIBcIGBCBLCBHBACJCbPBdCBADBCECABAbIbACHLFCFCFJGBGBdLEhEBBBDDJ",
     "GclkDMbGEdAcbaEbgNCgJcGGMEFABbHBEBABBBBBhMbAblMCdFHAcAPbAJbGcCBbCBDEEBiGEjMCbODFCFCFCCDGBG",
     "NBCLBbJBbCBBBOCNcChKFCEcMDfHBMDAcPcMiDbMDdAbAbKEcDJbNFcFKbNBcEENcKjNCJGcDEcDEcHIdDLLBOBGBB",
     "BKBOBGBBDdDMbdGJbFKHbIFBcJBIeFFCABcLBBDACbGBeHIIdAbCBBFcADbKFAeAdHEbDCcOPDBCBbMKIHIHdPcAcE",
     "GLJdFDbMCbKFbJHDMGfAeIdHdCNdCHcJMJGcFIbHIBnAbOBcJDACBbACdLcHIbFLIbGbBEDcGbLbEbGJABdFPGEbNB",
     "BCAMdAEBCBBDObIHJJcDFAJbBIcCBCLdDJABHEBBPBbDLbBBbLDBEFBBdPGBABDBOBKGcOBCNJIBBHCBCbFBGBBBED",
     "ABABDCBCBDAMGbMJBACABcFBABBPABBDABCBBcHdHIBDABbEBABCbOcPBBGABBBACACDIJkGcOBBGDCACbKcEdCIBB",
     "ACDLJGMbDcKBABBIBGJGbDbMbKDABBEAJbGlJcOJACAgEfCMHCACHBBBbHBEBBGDBCJJeGHCcJIDBDbLAKcHGBEHJA",
     "GBDcNNACINeIHJlGcBOJGIBcFOABFKbMDbPbJAHACAeLGBBBcFbFAJJGFBBBcEEBBABAHJbdGbCCDJOBcDIBDbGfGA",
     "PdBNdjKgGgOBELmDkeMgCNecPbBFbJpjKFceGbklJbNMCDJgmGcdIHbOBJEfABJGbNHAKcPHOKJBGBbEFbCblAdJmG",
     "fKgFeKFdHLMeADbMbhpHIenFcJJccoHDBGBBBbcCPAbNCCAODIbiLjaEgKFMDIHJCACApgApJGblDjMhDdMpFKcGCd",
     "LFCbGBHbNEdMbFeBDAhKbDMbDMfGJbIiHfEBeGBBCACBCDBLBABGBeABDCHBGBbLBDBEBADGBbfDCbcDCcdBdHDdCH",
     "BNBGehEbOGFbaFdNjCcMKGCJEBbeAbNbCcLEJFAbnAbLEJnGbNCKEAboAGBDBBBOBmECIdAeDHAEJEBdbBeDeMdMmC",
     "DBbKBBBACABJBDBABAGAEABABABCBBBACABABABABABBBACDBGBDBDBABJBbAFCBEBbAdEBbaOcLEgDMOCOBOBcEKk",
     "NdIbMNcLEIHBOFjKdnHEbADMDhGEfOGLEAPLEdHIJGcHIbNCLEBdObfDMNCMDJFdHHOCKGIHjCBgFeaGkgnPcAbadJ",
     "GnNCbgiBObndAPcgNjkCcbNfoCbdeKFbafP"]),
  ("graphemeextend",
    ["daAgPbbDGbaHcMBABBBBBAeIKdAbEbAAgFGCFCBBDcDAbObKfLKdKIJAbIDBIBCBEcLCdLIcKbHBbPdHABAEHEADGK",
     "BbNAdKABACDIAJAKBbKACBdJAEBEBCCDAbOBDALBdJAEEBBEAbEBbGFBAdKABBBDIAHCKBbOAdLABAMAJAcIADAdHA",
     "BCFCBDHBLBbNAdKACBBADCBDHBLBbMBdJBBACDIAJAKBbNAeIAEACCBAIAfBACGMHgCACILGeJBbLABABAdHNBEBBF",
     "KBcDJAgGDBFBBCBbJBECbADNACBGAPAclPCdlCDbMCbNBbOBeABBGIACKJAcNCBAhFBcCAhGCEBJAGCnLBCAdKABGB",
     "ABACHGJCAdAbOdBDdAJECcGIMBcADCFdIABBDABEdIHCBjICBMBGEAGADBmGdPcaMAmDcAlpOCiNAgAbPccKFgJBhf",
     "nEDBJcABfABbbAADAEAbJBFAjHBbKbBNAcGHbJKBAcMCdAACDCBCAcEAeDFCBCBMAIAcPAdDABCCBFBBAcKBIAoOAC",
     "AEAepdAAcoBPbAPbgOBcfNAoCAjFEgiGCBBFDcICEAkFBcdNDeBEbdNBePDeGKdBDhLAdGOcJACBKCdBDCBHAdNCcE",
     "EBHdOAMBdEIBAIDCAfPCCDGACAjNADHbFBdJBBABAMAJAOGDEeDACFBACABCECBAOBfFHCCBAbHAfBACFBACABBBBo",
     "LACDGBBBbLBfFHCABBgKABACHgFABACDBEbaDIBBpFAKDEAjADCBEAcAJcIFCDIAJFCCcOMBBbjGGBFBAfCbFCGBBB",
     "BhKFDABBBGBAeIBDABAbfLBLBdEEFCbHAbeoFAGOcmmILDCjmAEdLGebIAdPDfBALBemkLBbcgBcNCbGcbOEDFIHCG",
     "bODjEChlLdGEdBIAOAbGEBOffAGBbACGBBBEgEAkAGbhHAdNDbpMDpOBcoAGgNGmbgnFfPiAoP"]),
  ("graphemelink",
    ["jeNAhPAhPAhPAhPAhPAhPAhPAgNBbAAhMAgPAhPAmJAlEBgnJBbOAjNAciNAoDAgFBeGBbbiLAhkiGAcFAjHAiOAgM",
     "AbdFApGAfofBAgaGAcJAOAdJAhJBiLAhEAlEAgCAiAChBAhPApMAhPAhGAhEAbaNAbaDBkBAfDAbCAfBAbkFAbaEBf",
     "BAbkJBeboMA"]),
  ("hexdigit", ["dAJHFbKFpokJJHFbKF"]),
  ("hyphen", ["cNAhPAenMAbchLAiaJBoaFAcoDAmngHAkJAfHA"]),
  ("idsbinaryoperator", ["cppABCJbpBA"]),
  ("idstrinaryoperator", ["cppCB"]),
  ("idsunaryoperator", ["cppOB"]),
  ("idcompatmathcontinue", ["lCBFAbplGADKBObhDAEAbGAblekCAbJAbPAbJAbPAbJAbPAbJAbPAbJA"]),
  ("idcompatmathstart", ["ccaCAEAbGAblekCAbJAbPAbJAbPAbJAbPAbJAbPAbJA"]),
  ("idcontinue",
    ["dAJHbJEABbJcPAKABACAFbGBbOBbmJELOEHABAbBhEBBCDBAGEBABbDBfCBiKBECkFBcFCAGcIIcMBABBBBBAIbKED",
     "bNKFeJEgFBHCJBbCCAbAdKCgEOdFEACACcNbCbLEKFbHBFIeKBiACJBbCBHCBCbFBGBADDCICBCDIAEBBECLKABACC",
     "BFEBCbFBGBBBBBBCABEEBCCDAHDBAHPLCBIBCBbFBGBBBECJBCBCCAPDCJJGBCBHCBCbFBGBBBECICBCCHCEBBECJB",
     "AbABBFDCBDDBBABBDBDCDLEEDCBDCAGAOJbAMBCBbGBPCIBCBDHBBCCACDCJbADBHBCBbGBJBECIBCBDHBGBBDCJBC",
     "MMBCBdCBCBEFDHECJKFBCBbBDbHBIBACGDAEFBABHGJCBNdJFOBJcHBBABEBbHBABbGCEBABGBJCDcAAbHBGJLABAB",
     "AEJBcDEbDBbBBcDJAdJeJGeNCcFBAFACcKBbeMBDCGBABDCcIBDCcABDCGBABDCOBdIBDCeCCCJIOPbAfFCFDcgLCb",
     "ABbJFeKDKHbFJbFLbDMMBCBBMfDDAEBCJcBCBKGfIHcKFeFKbOBLELKcHCELcLEbJGKcFbLEdOBbMCKGJNAINBPdBe",
     "MDJbBIMhDMdHIJDdACKFcKCCbACBcGFcbFCFCcFCFCHBABABABbOCdEBGBADCBGDDCFEMFCBGPBdBBbDAbMANAbAMd",
     "DMEADLbBAEACJBACFGABABABPCDFEEAbBcIkhHoEGIMcFBAFACdHHAPbHJGBGBGBGBGBGBGBGBbPcaFCbJOBECEEfF",
     "CGBfOFcKBfNbBbPdAPcaAbjlPeAfgiMeDcNCbaMDbLbEcPEJBhCcFICgGCeCCBBABHbFdFEAbDdDMeFKJGbHDABdAC",
     "cDMbMDeAOKGbOBdGJNCJGbGDeIbICCPCEKFCFCFJGBGBcKBNGhKBBCJGclkDMbGEdAcbaEbgNCgJcGGMEFLBMBEBAB",
     "BBBBgLcBbgKbCdPCdFcILEPbAPDBbICcAEBiGbDJHbJEABbJKfJDFCFCFCCcDLBbJBbCBBBOCNcChKeFdEiIAiCbMD",
     "dAPAbPbPNbNFcKFbNCcDEHBEcKjNCJGcDEcDEcHIdDMKBOBGBBBKBOBGBBDdDMbdGJbFKHbIFBcJBIeFFCABcLBBDA",
     "CbGKbGJbOeBbCBBKbFKbJeGdHGBeADBBFHBCBbMCCEAcAbMDbMcDHBbNbJdFKbFKbCNbBgOeIdHdCNdCNcHIJGcFDE",
     "BbGpKcJBBDBbACdHcAKAIcAbPbFcKbEbLbGJeGbPPJdLHANbIHJGdEBJEDIcDCAJeEEDBMBAcDbBBcEGDdOGBABDBO",
     "BJHdKFJGDBHCBCbFBGBBBEBJCBCCCAGAFGCGDELJBACABcFBJBACABDBHNBbNeKFJEDbOeFBAIJkGdFCIbHFcCeADA",
     "LJcGdIHJGbDbMbKCOEJGGlJdKgFeJbFHCACHBBBbNBBCIMJeGHCcNCHBBbLdOIAIeJDAbCeImHcAPJGIBcMBIPJbIb",
     "NCbFBNeJGBBBcLDABBBIIJGFBBBcEBBBFHJbdGbGJbABcIDENKfFAePdjJgGgObBmDkeMgAPecPbAbFKpjKFceGbkl",
     "JdJgmGcdIHbOBJGeOBJGbNCELdGJDMJJbEFbCblAcMDJmGdPiAeKEdIHbAeABBBLBObhpHIenFcJJccoHDBGBBBbcC",
     "PAbNCCAODIbiLjaEgKFMDIHJDBbafBJcaGcNCbGcbOEDFIHCGbODjECblLfEBeGBBCACBCDBLBABGBeABDCHBGBbLB",
     "DBEBADGBbfDCbIBbIBbOBbIBbOBbIBbOBbIBbOBbIBHCdBcaAdGEdBIAOAbGEBOefAbOGFnFGBbACGBBBEFdNcBAhA",
     "cMDNCJEAbeBbObBdJbnGcJnGcKboFGBDBBBOBmELGcJeLEJekGDBbKBBBACABJBDBABAGAEABABABCBBBACABABABA",
     "BABBBACDBGBDBDBABJBbAFCBEBbAndEJeaGkgnPcAbadJGnNCbgiBObndAPcgNjkCcbNfoCbdeKFbafPknnfAoP"]),
  ("idstart",
    ["eBbJGbJcPAKAEAFbGBbOBbmJELOEHABAiBEBBCDBAGABCBABbDBfCBiKIkFBcFCAGcIeHbKEDcNcKcDBBgCBAPBHBK",
     "CCAbAABbNbNfILAbIcAJBEAFbFEAJADAbHbIHKFbHBFbBcJdKdFDAbCAHJPPEHCBCbFBGBADDDAbAANBBCOBKAIFEB",
     "CbFBGBBBBBBbPDBAbDCbAIBCBbFBGBBBEDAbCAPBbHALHCBCbFBGBBBEDAbOBBCPAbBABFDCBDDBBABBDBDCDLbGAd",
     "EHBCBbGBPDAbKCCACBbOAEHBCBbGBJBEDAbPBBBPBbBIBCBcICAbAAFCICbIFFbBDbHBIBACGdKcPBBMGdKBBABEBb",
     "HBABJBBJACEBAbFDcAAdPHBcDbLEhDcKbEAbAFEDDADBHCEMMAbBcFBAFACcKBbeMBDCGBABDCcIBDCcABDCGBABDC",
     "OBdIBDCeCcFPbAfFCFDcgLCbABbJFeKDKHbBNbCObBOMBCPdDcDAEAeDfIHcIBAFeFKbOdBbNCELcLEbJdGbGJdEfC",
     "AfNcObBHdGbNNBKcLbKcDcJCKcDCKFcKCCcJDBFBBDAFlPeAbbFCFCcFCFCHBABABABbOCdEBGBADCBGDDCFEMFCBG",
     "hEANAbAMgFAEACJBACFGABABABPCDFEEAbBcIkhHoEGDDBMcFBAFACdHHAbAbGJGBGBGBGBGBGBGBGccGCbJIHECEE",
     "fFEEBfJBDFcKBfNbBbPdAPcaAbjlPeAfgiMeDcNCbaMDPKBbEcObAbOCePcHICgGCeCCBBABHbFPBCBDBbGbNdDOdB",
     "dOFDABBLbLKbGbJbMHcObMAbAEBJKEBcIbHCBHbEbGDADdBBADBCECABAbICCKHCMFCFCFJGBGBcKBNGhCbNclkDMb",
     "GEdAcbaEbgNCgJcGGMEFABJBMBEBABBBBBgLcBbgKbCdPCdFcILhEEBiGcEbJGbJLfIDFCFCFCCcDLBbJBbCBBBOCN",
     "cChKeFdEbaLbMDdAcPbPNbNFcFKbNCcDEHBEcKjNbCcDEcDEcHIdDMKBOBGBBBKBOBGBBDdDMbdGJbFKHbIFBcJBIe",
     "FFCABcLBBDACbGKbGJbOeBbCBBKbFKbJeGdHGBeAAPDBCBbMcKbMDbMcDHBbLbLdFKbFKbCNbBgOeIdHdCNdCNcDcG",
     "bLJbGpKcJGBbACdLbMKAIbFcKbBcObEbLbGMdEdJBCANcMcAbIbKcDbNACAIcCDAMcPODbFABAcDbBBbIbDBdPGBAB",
     "DBOBJHcOcGHCBCbFBGBBBEDAbCAMEbOJBACABcFBAbJABAcMdEbCDbECbOcPbEBBAlIcOcJDcEcPbEAdLcKNAeHbKc",
     "FGlJcLhEdPbPHCACHBBBbHPABAfOHCcGbAABAbMAKcHHAbFALcNbDAbCeImHcAbPIBcEbBAdBbNhAGBBBcFbFAbJFB",
     "BBbPOAbeHbCPABMBcBhMAePdjJgGgObBmDkeMgAPecPbBFbJpjKFceGbklJbNgoCcdIHbObBeObBbNbCcPbADbPbEF",
     "bCblAcMnDdPiAeKFAeCMeABBAbMbhpHIenFcJJccoHDBGBBBbcCPAbNCCAODIbiLjaEgKFMDIHJbhgGfEBeGBBCACB",
     "CDBLBABGBeABDCHBGBbLBDBEBADGBbfDCbIBbIBbOBbIBbOBbIBbOBbIBbOBbIBHhdEbOGFbaFdNjCcMKGbAAbeBbN",
     "bCcLboEbLoEbNCAboPGBDBBBOBmEdLeDHAelEDBbKBBBACABJBDBABAGAEABABABCBBBACABABABABABBBACDBGBDB",
     "DBABJBbAFCBEBbAbbeEkgnPcAbadJGnNCbgiBObndAPcgNjkCcbNfoCbdeKFbafP"]),
  ("ideographic",
    ["daaGBbJIOCdmFbjlPeAfbpPfjaAbgNCgJhfaKAbLbhpHIenFcJJcegHbiLenaEkgnPcAbadJGnNCbgiBObndAPcgNj",
     "kCcbNfoCbdeKFbafP"]),
  ("joincontrol", ["caaMB"]),
  ("logicalorderexception", ["oeAEhLEkpACCAjapKBCABB"]),
  ("lowercase",
    ["gBbJcPAKAEAcEbHBHBABABABABABABABABABABABABABABABABABABABABABABABABABABABBBABABABABABABABBB",
     "ABABABABABABABABABABABABABABABABABABABABABABACABABCCABACADBEACADCCACABABACABBBACADABACBCCG",
     "ACACABABABABABABABABBBABABABABABABABABBCABADABABABABABABABABABABABABABABABABABABABABABABAB",
     "ABABABABABABGCACBBAEABABABABeEBcDHBbOEgAAcLABADACDbCAbLcCBBDCBABABABABABABABABABABABEBACAC",
     "BdDcPBABABABABABABABABABABABABABABABABAJABABABABABABABABABABABABABABABABABABABABABABABABAB",
     "ABACABABABABABABBBABABABABABABABABABABABABABABABABABABABABABABABABABABABABABABABABABABABAB",
     "ABABABABABABABABABABABAdAcIleHcKBDcpIFiiCIBAhFlPeBABABABABABABABABABABABABABABABABABABABAB",
     "ABABABABABABABABABABABABABABABABABABABABABABABABABABABABABABABABABABABABABABABABABABABABAB",
     "ABABABABABABABABABIBABABABABABABABABABABABABABABABABABABABABABABABABABABABABABABABABABABAB",
     "ABABABABABABABABABABABABABIIFKHIHIFKHIHINCHIHIHIEBBGADCBBIDCBIHKCBBhJANAbAMgNADBDAbLAEAEAC",
     "BIDEAcBPEAdeLbJheGcPBADBBABABAEABBBHDABABABABABABABABABABABABABABABABABABABABABABABABABABA",
     "BABABABABABABABABABABABABABABABABABABABABABABBHABAEAMcFBAFAhjbDABABABABABABABABABABABABABA",
     "BABABABABABABABABAbDABABABABABABABABABABABABABCiFABABABABABABCBABABABABABABABABABABABABABA",
     "BABABABABABABABABABABABABABABABABJBABACABABABABAEABACABCBABABABABABABABABABAFAFABABABABABA",
     "BABAEABACADABABABABABAbGCBABCddFcKBNGePepeAGMEecJbJemNcHiIcDjLKBOBGBBbmDACCBcJBIfaFdChNbFl",
     "dKbPffiAbPgfjKbJbKGBbBbKbJbKDBABGBKbKbJbKbJbKbJbKbJbKbJbKbJbKbJbKbJbKbLbMbIBFbKbIBFbKbIBFb",
     "KbIBFbKbIBFBAhdEJBbDGFbaFdNilEcB"]),
  ("math",
    ["cLAbACbPAbNABAcNAEAcFAbPAcnICCAbKBCCcaPCbkaNAbLCLADANAODbFELEeBMEADBEEbCAEACJBACFGADBCBBCB",
     "FDNBAeEbHBFBBEBEbPBAGBObaLIDbEBfKAbObKBAbIALGblNBMJEFEBCBDEOABACFLHFBdJABAbNDJCbfAdPbaAbpP",
     "dAbECFmpnMAddHFBAkCAbACbNABAbNABAiDAGDnkBBmghAfEBeGBBCACBCDBLBABGBeABDCHBGBbLBDBEBADGBbfDC",
     "bcDCdBbgaADBbKBBBACABJBDBABAGAEABABABCBBBACABABABABABBBACDBGBDBDBABJBbAFCBEBbAdEB"]),
  ("modifiercombiningmark", ["gfEBCAiDAGADBboBBBCDAbPA"]),
  ("noncharactercodepoint",
    ["pnnAbPcaOBpppOBpppOBpppOBpppOBpppOBpppOBpppOBpppOBpppOBpppOBpppOBpppOBpppOBpppOBpppOBpppOB"]),
  ("otheralphabetic",
    ["deFAbNMceANBABBBBBAeIKdAMBGbAAgFGEDCBEAcDAbOPgGKgFBDIBCBDgKAdMLDGGbDdGBCOBBFCKBbNCdKGCBCBK",
     "AKBbNCdKEEBCBEAbOBDALCdKHBCBBbFBbGCECdKGCBCBJBKBbOAdLEDCBCKAcIEdJGBCBCIBLBbNCdKGBCBCIBLBPA",
     "MDdKGBCBCKAKBbNCeLFBABHbCBdNACGbCAgDACFBBbAAkDbCJKBcDgOLBACDbHDECBCCGDDNLBAKDghEBbOBbOBbOB",
     "eCbClMBcCAhGLEInOEdJJCbDeKBLCdBEdAOdMCbOICBdJKdCbCbjMcBgmBdDipGbPhihEHcCBbgCAIAbHEfIBdCPBA",
     "dJAcGEbMLcNDdALcFAeDNMAIBcNCdCABCCBFAcMEFAoNHepdDAifHEgiGCBBFDdbEDeBAbeBBePAbaDCdFNcNBLCcN",
     "IJAdNCcELbCBdJCdAMOBfMICAGACAjNJbHDdKGCBCBKAKBfEIBACABDBBgHMBCgKbBoNGCGbNBfCOBAgKKgHNbaBMp",
     "HFBBCBDABAiOGCFEAbMJcKEBDbCKcONbjHHBGfDbFBNhKFDABBBCBADAeCEBBBDbfMDJBBAdAGDCebnNbAocAABdGH",
     "DfNBemkMAcdgBGBbACGBBBEgEAilHAhoIbJGbJGbJ"]),
  ("otherdefaultignorablecodepoint", ["dePAoaPBgfDBikPAbapOAmodLAePInaaaHABbNgAhPpAoaP"]),
  ("othergraphemeextend",
    ["jlOAbIAbgGAbIAgGAbIAoIABAEBBBJBgHAbIAhHAPAjdFAbOAeaAAFABAFBgFAeHBebIAbacBBhjcDAgMAffnNBbcc",
     "AAhEAbaIAOAJAgAAJACABCFAoAAMApBAbaGAchJAMAgaDAfakOBgbhDBGFmcokNfP"]),
  ("otheridcontinue", ["lHAcmPApoBIggIAgdBBbaoNAmogJA"]),
  ("otheridstart", ["biiFBijBAbFApgMB"]),
  ("otherlowercase",
    ["kKAPAbpFIHBbOEgAAdEAniBAmcPdONAcCcEclBANAbAMnDPdfAbJhjCBhkbOBnCAiBCDBdgCDJAfmbGACCBcJBInih",
     "FdN"]),
  ("othermath",
    ["fOAdhBCCAbKBCBbmcAAbLCLAcADbIBOBeBMEADBEEbCAEACJBADEGADBCBBCBFDDFEeLECDBBBBBABECBEBEbBCBBA",
     "BGBAGBbcCDkIBBAbIAbBAblNBMIFEFBCBDEOABACFbIBdJABAbNDJBbfGBbPJbjDbFdPDcABnegDABAEAnDABAnemB",
     "fEBeGBBCACBCDBLBABGBeABDCHBGBbLBDBEBADGBbfDCbIBbIBbOBbIBbOBbIBbOBbIBbOBbIBHCdBbgaADBbKBBBA",
     "CABJBDBABAGAEABABABCBBBACABABABABABBBACDBGBDBDBABJBbAFCBEBbA"]),
  ("otheruppercase", ["cbgAPdeGbJbmmgAbJGbJGbJ"]),
  ("patternsyntax",
    ["cBOKGbKDBAbKDcCGBABBBABBEAEADAbHAbPAbpbIbHIOCbCBJbdBcmPkAchFbOegLcaAhPbiBCEbIPAmnaNBbaFB"]),
  ("patternwhitespace", ["JEbCAgEAbpiIBbIB"]),
  ("prependedconcatenationmark", ["gaAFnHAdBAbiABfAAbahnKAPA"]),
  ("quotationmark", ["cCAEAiDAPAbpfMHbJBoaHAbmJDNCmocBDlNAEAfKB"]),
  ("radical", ["coiAbJBfIMnF"]),
  ("regionalindicator", ["bpboGbJ"]),
  ("sentenceterminal",
    ["cBAMAbAAfeJAjDClEAcLCpGAdNABADBbcFBgoEBdbGAEBdaFAmGBjNBcNAFAbdKBbgCDkCBKBCBbNClLBeBBdkEAbH",
     "BJCmkPCbdCANAbGBbkNAhepMAbaOBoDADAbhOBfGBfPAjIBjDCjABpJAfccGACBdLADBkJAMAbAAeBAkpEBepNEcMD",
     "lNBhFDhPCiBBGAbABfIBBBgMAbcKBhFBbhFBFOgJBpJCcaFABApLBfHBbkEBclEBeKBelcJBiFAeBBLAccJBbcIAeo",
     "aGAbnoIA"]),
  ("softdotted",
    ["gJBmEAbbJAbOAdEAbEAbeAAgCABAbjaJAdDANADAiEAjNAbkFAnGBldCAbkhkFBdCBdCBdCBdCBdCBdCBdCBdCBdCB",
     "dCBdCBdCBiiGAbdBBbKA"]),
  ("terminalpunctuation",
    ["cBAKABALBDAddOAIAcaBAdJAeIAOABClEAcLKBAoLBdGFBHbPAbaFBepEBkMAEFbdHBdbFHdaFAhMCeHBjNCDAcHDC",
     "BbdKBbgCDkCBKBBCbNClLEdOBdkEAbHBJCmkPCbdCANAEAKABBDBbkMBhepLBbaNCoDEbhOBfGBfPAjHCjDChPAbAB",
     "pJAfccGACBdJCBDkJAKABALBDAeBACAedKAdAAeiGAmHAbdGBjIFeEFfJDdlIEcMDlNGhADhPCiBBGAbABfIEgMAbc",
     "KBhFCMBbgGDDOgJBpJCcaFABApLBfHBEBbjOCcNAciFBeKBfcLEefpJBiFAeBCKAccJBbcHBeoaGAbnoHD"]),
  ("unifiedideograph",
    ["deaAbjlPeAfbpPfkaOBBABBKABABBCCbafnGkgnPcAbadJGnNCbgiBObndAPcgNbbkCbdeKFbafP"]),
  ("uppercase",
    ["eBbJgFbGBGcBABABABABABABABABABABABABABABABABABABABABABABABABABABABACABABABABABABABACABABAB",
     "ABABABABABABABABABABABABABABABABABABABABBBABADBBABBBCCDBBBCDBBBBABABBBACABBBCBABBDAHACACAC",
     "ABABABABABABABACABABABABABABABABACACABCBABABABABABABABABABABABABABABABABABABABABABABABABAB",
     "ABABABAHBBBCABDBABABABAbcBABADAIAGABCBABBBbABIcDACCDABABABABABABABABABABABAFACABBCdCdAABAB",
     "ABABABABABABABABABABABABABABAJABABABABABABABABABABABABABABABABABABABABABABABABABABABBBABAB",
     "ABABABACABABABABABABABABABABABABABABABABABABABABABABABABABABABABABABABABABABABABABABABABAB",
     "ABABABABABABACcFleJcFBAFAcnCfFijDAGcKCCbeAABABABABABABABABABABABABABABABABABABABABABABABAB",
     "ABABABABABABABABABABABABABABABABABABABABABABABABABABABABABABABABABABABABABABABABABABABABAB",
     "ABABABABABAJABABABABABABABABABABABABABABABABABABABABABABABABABABABABABABABABABABABABABABAB",
     "ABABABABABABABABABAJHIFKHIHIFLABABABAIHeIDMDMDMELDbaGAEADCCCCADEGABABABDCDKBFAbKPbDAddCbJh",
     "dAcPdAABCCABABABDBACAICBABABABABABABABABABABABABABABABABABABABABABABABABABABABABABABABABAB",
     "ABABABABABABABABABABABABABABABAIABAEAhjeNABABABABABABABABABABABABABABABABABABABABABABAbDAB",
     "ABABABABABABABABABABABABAiHABABABABABABADABABABABABABABABABABABABABABABABABABABABABABABABA",
     "BABABABABABAKABABBBABABABAEABACABADABABABABABABABABABABEBEBABABABABABABABDBABBDAFABABABAbI",
     "AfhcLbJemFcHiIcDjMKBOBGBBgoKdCjNbFldKbPffiAbPgfkAbJbKbJbKbJbKABBCACBCDBHbKbJbKBBDCHBGbLBBD",
     "BEBADGbLbJbKbJbKbJbKbJbKbJbKbJbObIcBbIcBbIcBbIcBbIcBAbbdFcBiaObJGbJGbJ"]),
  ("variationselector", ["biaLCBAofpAPnacpAoP"]),
  ("whitespace", ["JEbCAgEAbKAbfnPAjhPKbNBFAcPApkAA"]),
  ("xidcontinue",
    ["dAJHbJEABbJcPAKABACAFbGBbOBbmJELOEHABAbBhEBBDCBAGEBABbDBfCBiKBECkFBcFCAGcIIcMBABBBBBAIbKED",
     "bNKFeJEgFBHCJBbCCAbAdKCgEOdFEACACcNbCbLEKFbHBFIeKBiACJBbCBHCBCbFBGBADDCICBCDIAEBBECLKABACC",
     "BFEBCbFBGBBBBBBCABEEBCCDAHDBAHPLCBIBCBbFBGBBBECJBCBCCAPDCJJGBCBHCBCbFBGBBBECICBCCHCEBBECJB",
     "AbABBFDCBDDBBABBDBDCDLEEDCBDCAGAOJbAMBCBbGBPCIBCBDHBBCCACDCJbADBHBCBbGBJBECIBCBDHBGBBDCJBC",
     "MMBCBdCBCBEFDHECJKFBCBbBDbHBIBACGDAEFBABHGJCBNdJFOBJcHBBABEBbHBABbGCEBABGBJCDcAAbHBGJLABAB",
     "AEJBcDEbDBbBBcDJAdJeJGeNCcFBAFACcKBbeMBDCGBABDCcIBDCcABDCGBABDCOBdIBDCeCCCJIOPbAfFCFDcgLCb",
     "ABbJFeKDKHbFJbFLbDMMBCBBMfDDAEBCJcBCBKGfIHcKFeFKbOBLELKcHCELcLEbJGKcFbLEdOBbMCKGJNAINBPdBe",
     "MDJbBIMhDMdHIJDdACKFcKCCbACBcGFcbFCFCcFCFCHBABABABbOCdEBGBADCBGDDCFEMFCBGPBdBBbDAbMANAbAMd",
     "DMEADLbBAEACJBACFGABABABPCDFEEAbBcIkhHoEGIMcFBAFACdHHAPbHJGBGBGBGBGBGBGBGBbPcaFCbJOBECEEfF",
     "CBCCBfOFcKBfNbBbPdAPcaAbjlPeAfgiMeDcNCbaMDbLbEcPEJBhCcFICgGCeCCBBABHbFdFEAbDdDMeFKJGbHDABd",
     "ACcDMbMDeAOKGbOBdGJNCJGbGDeIbICCPCEKFCFCFJGBGBcKBNGhKBBCJGclkDMbGEdAcbaEbgNCgJcGGMEFLBMBEB",
     "ABBBBBgLcBiKGnJbCdPCdFcIJGPbAPDBbICcBABADABABABABhNbDJHbJEABbJKfJDFCFCFCCcDLBbJBbCBBBOCNcC",
     "hKeFdEiIAiCbMDdAPAbPbPNbNFcKFbNCcDEHBEcKjNCJGcDEcDEcHIdDMKBOBGBBBKBOBGBBDdDMbdGJbFKHbIFBcJ",
     "BIeFFCABcLBBDACbGKbGJbOeBbCBBKbFKbJeGdHGBeADBBFHBCBbMCCEAcAbMDbMcDHBbNbJdFKbFKbCNbBgOeIdHd",
     "CNdCNcHIJGcFDEBbGpKcJBBDBbACdHcAKAIcAbPbFcKbEbLbGJeGbPPJdLHANbIHJGdEBJEDIcDCAJeEEDBMBAcDbB",
     "BcEGDdOGBABDBOBJHdKFJGDBHCBCbFBGBBBEBJCBCCCAGAFGCGDELJBACABcFBJBACABDBHNBbNeKFJEDbOeFBAIJk",
     "GdFCIbHFcCeADALJcGdIHJGbDbMbKCOEJGGlJdKgFeJbFHCACHBBBbNBBCIMJeGHCcNCHBBbLdOIAIeJDAbCeImHcA",
     "PJGIBcMBIPJbIbNCbFBNeJGBBBcLDABBBIIJGFBBBcEBBBFHJbdGbGJbABcIDENKfFAePdjJgGgObBmDkeMgAPecPb",
     "AbFKpjKFceGbklJdJgmGcdIHbOBJGeOBJGbNCELdGJDMJJbEFbCblAcMDJmGdPiAeKEdIHbAeABBBLBObhpHIenFcJ",
     "JccoHDBGBBBbcCPAbNCCAODIbiLjaEgKFMDIHJDBbafBJcaGcNCbGcbOEDFIHCGbODjECblLfEBeGBBCACBCDBLBAB",
     "GBeABDCHBGBbLBDBEBADGBbfDCbIBbIBbOBbIBbOBbIBbOBbIBbOBbIBHCdBcaAdGEdBIAOAbGEBOefAbOGFnFGBbA",
     "CGBBBEFdNcBAhAcMDNCJEAbeBbObBdJbnGcJnGcKboFGBDBBBOBmELGcJeLEJekGDBbKBBBACABJBDBABAGAEABABA",
     "BCBBBACABABABABABBBACDBGBDBDBABJBbAFCBEBbAndEJeaGkgnPcAbadJGnNCbgiBObndAPcgNjkCcbNfoCbdeKF",
     "bafPknnfAoP"]),
  ("xidstart",
    ["eBbJGbJcPAKAEAFbGBbOBbmJELOEHABAiBEBBDCBAGABCBABbDBfCBiKIkFBcFCAGcIeHbKEDcNcKcDBBgCBAPBHBK",
     "CCAbAABbNbNfILAbIcAJBEAFbFEAJADAbHbIHKFbHBFbBcJdKdFDAbCAHJPPEHCBCbFBGBADDDAbAANBBCOBKAIFEB",
     "CbFBGBBBBBBbPDBAbDCbAIBCBbFBGBBBEDAbCAPBbHALHCBCbFBGBBBEDAbOBBCPAbBABFDCBDDBBABBDBDCDLbGAd",
     "EHBCBbGBPDAbKCCACBbOAEHBCBbGBJBEDAbPBBBPBbBIBCBcICAbAAFCICbIFFbBDbHBIBACGdKcPBANGdKBBABEBb",
     "HBABJBAKACEBAbFDcAAdPHBcDbLEhDcKbEAbAFEDDADBHCEMMAbBcFBAFACcKBbeMBDCGBABDCcIBDCcABDCGBABDC",
     "OBdIBDCeCcFPbAfFCFDcgLCbABbJFeKDKHbBNbCObBOMBCPdDcDAEAeDfIHcIBAFeFKbOdBbNCELcLEbJdGbGJdEfC",
     "AfNcObBHdGbNNBKcLbKcDcJCKcDCKFcKCCcJDBFBBDAFlPeAbbFCFCcFCFCHBABABABbOCdEBGBADCBGDDCFEMFCBG",
     "hEANAbAMgFAEACJBACFGABABABPCDFEEAbBcIkhHoEGDDBMcFBAFACdHHAbAbGJGBGBGBGBGBGBGBGccGCbJIHECEE",
     "fFGCBfJBDFcKBfNbBbPdAPcaAbjlPeAfgiMeDcNCbaMDPKBbEcObAbOCePcHICgGCeCCBBABHbFPBCBDBbGbNdDOdB",
     "dOFDABBLbLKbGbJbMHcObMAbAEBJKEBcIbHCBHbEbGDADdBBADBCECABAbICCKHCMFCFCFJGBGBcKBNGhCbNclkDMb",
     "GEdAcbaEbgNCgJcGGMEFABJBMBEBABBBBBgLcBiKGnJbCdPCdFcIJhHABADABABABABhNcEbJGbJLdHCbODFCFCFCC",
     "cDLBbJBbCBBBOCNcChKeFdEbaLbMDdAcPbPNbNFcFKbNCcDEHBEcKjNbCcDEcDEcHIdDMKBOBGBBBKBOBGBBDdDMbd",
     "GJbFKHbIFBcJBIeFFCABcLBBDACbGKbGJbOeBbCBBKbFKbJeGdHGBeAAPDBCBbMcKbMDbMcDHBbLbLdFKbFKbCNbBg",
     "OeIdHdCNdCNcDcGbLJbGpKcJGBbACdLbMKAIbFcKbBcObEbLbGMdEdJBCANcMcAbIbKcDbNACAIcCDAMcPODbFABAc",
     "DbBBbIbDBdPGBABDBOBJHcOcGHCBCbFBGBBBEDAbCAMEbOJBACABcFBAbJABAcMdEbCDbECbOcPbEBBAlIcOcJDcEc",
     "PbEAdLcKNAeHbKcFGlJcLhEdPbPHCACHBBBbHPABAfOHCcGbAABAbMAKcHHAbFALcNbDAbCeImHcAbPIBcEbBAdBbN",
     "hAGBBBcFbFAbJFBBBbPOAbeHbCPABMBcBhMAePdjJgGgObBmDkeMgAPecPbBFbJpjKFceGbklJbNgoCcdIHbObBeOb",
     "BbNbCcPbADbPbEFbCblAcMnDdPiAeKFAeCMeABBAbMbhpHIenFcJJccoHDBGBBBbcCPAbNCCAODIbiLjaEgKFMDIHJ",
     "bhgGfEBeGBBCACBCDBLBABGBeABDCHBGBbLBDBEBADGBbfDCbIBbIBbOBbIBbOBbIBbOBbIBbOBbIBHhdEbOGFbaFd",
     "NjCcMKGbAAbeBbNbCcLboEbLoEbNCAboPGBDBBBOBmEdLeDHAelEDBbKBBBACABJBDBABAGAEABABABCBBBACABABA",
     "BABABBBACDBGBDBDBABJBbAFCBEBbAbbeEkgnPcAbadJGnNCbgiBObndAPcgNjkCcbNfoCbdeKFbafP"])
]

/-- **Short property names** and the full names that they stand for. -/
def binaryNames : List (String × String) := [
  ("alpha", "alphabetic"), ("ahex", "asciihexdigit"), ("bidic", "bidicontrol"),
  ("bidim", "bidimirrored"), ("ci", "caseignorable"), ("cwcf", "changeswhencasefolded"),
  ("cwcm", "changeswhencasemapped"), ("cwl", "changeswhenlowercased"),
  ("cwt", "changeswhentitlecased"), ("cwu", "changeswhenuppercased"),
  ("di", "defaultignorablecodepoint"), ("dep", "deprecated"), ("dia", "diacritic"),
  ("ecomp", "emojicomponent"), ("emod", "emojimodifier"), ("ebase", "emojimodifierbase"),
  ("epres", "emojipresentation"), ("extpict", "extendedpictographic"), ("ext", "extender"),
  ("grbase", "graphemebase"), ("grext", "graphemeextend"), ("grlink", "graphemelink"),
  ("hex", "hexdigit"), ("idc", "idcontinue"), ("ideo", "ideographic"),
  ("idsb", "idsbinaryoperator"), ("ids", "idstart"), ("idst", "idstrinaryoperator"),
  ("idsu", "idsunaryoperator"), ("joinc", "joincontrol"), ("loe", "logicalorderexception"),
  ("lower", "lowercase"), ("mcm", "modifiercombiningmark"), ("nchar", "noncharactercodepoint"),
  ("oalpha", "otheralphabetic"), ("odi", "otherdefaultignorablecodepoint"),
  ("ogrext", "othergraphemeextend"), ("oidc", "otheridcontinue"), ("oids", "otheridstart"),
  ("olower", "otherlowercase"), ("omath", "othermath"), ("oupper", "otheruppercase"),
  ("patsyn", "patternsyntax"), ("patws", "patternwhitespace"),
  ("pcm", "prependedconcatenationmark"), ("qmark", "quotationmark"), ("ri", "regionalindicator"),
  ("sterm", "sentenceterminal"), ("sd", "softdotted"), ("term", "terminalpunctuation"),
  ("uideo", "unifiedideograph"), ("upper", "uppercase"), ("vs", "variationselector"),
  ("space", "whitespace"), ("wspace", "whitespace"), ("xidc", "xidcontinue"),
  ("xids", "xidstart")
]

end OrderedChoice.Unicode
