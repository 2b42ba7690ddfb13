import OrderedChoice.Unicode.Packed

/-!
# General categories

The 29 general categories that a character can have, as packed range lists, and the names under
which a category or a group of categories may be asked for. Surrogate code points are no
characters, so their category is not listed.
-/

namespace OrderedChoice.Unicode

/-- **Ranges of each category**, by its two-letter code. -/
def categoryRanges : PackedTable := [
  ("Cc", ["AbPfPcA"]),
  ("Cf", ["kNAffCFbGAmAAdBAbiABfAApcLAhpMEbKEdBEBJnoiPApJCbamBAPAcdgCPiigADbemPHmcoiGAbOfP"]),
  ("Cn",
    ["dhIBGDHABAbEAbiNAcGBdCBDAdHHbLDGKbaOAdMBgFNdLBdBBPAbMBBALEbPACEoNAIBCBbGAHABCEBJBCBEHBDCAF",
     "BbJBDAGDCBbGAHACACACBBAFDCBDCBGEABGbBJDAJADAbGAHACAFBKADADBBOEBMGHADAIBCBbGAHACAFBJBCBDGDD",
     "CAFBbCJCAGCDAECCABACCCCDCMDFCDAEBBFBNbFENADAbHAbABJADAEGCADBBBEBKGbGADAbHAKAFBJADAEGCFCAEB",
     "KADLNADAdDADAGDbABbKADAbCCbIAJABBHCBDGABAIFKBDLdKDbNcECABAFAbIABAbHBFABAHAKBEbPeIAcEDcHAcE",
     "APANcEmGABEBBbhJAEBHABAEBcJAEBcBAEBHABAEBPAdJAEBeDBcACbKFfGBGBcjNCfJGbGIbIIbELNADACLfOBKFK",
     "FbKFfJGcLEeGJbPAMDMDBCcKBFKcMDbKFLCdOBeBAbNBLFKFOBbPdAeNAkGHdMCPCdOEcLBLHcLEcbGBGBcGBGBIAB",
     "ABABAbPBdFAPAOBGAbDBDAJAgFAMBbLANCcBOcBOiMDcjKbFLbEhbEBcAAbfNEcNABEBBdIGCNbIIHAHAHAHAHAHAH",
     "AHAhOcBbKAfJLnGbJfAAfGBgHEcLAfOAfGIdAAhcgNCdHIbfMbDlIHmOBCABAIbEdLCKFdIHeGHMFhEKbOCeOALDcB",
     "AdHIOBKBgHbHbMJGBGBGIHAHAdMDhOBKFclkELbHDdBDccgOBgKcFHLFEbKAFABACACAhNPblNBdGGBbPcKFdDAbDA",
     "EDFAiHBBAlOCGBGBGBDCHAHJFBMAbKAbDACAPBOcBhLEDDcNCfIANCBcOcOiBbNCdBObMDcEIbOEcLEbOAcFDOcJjO",
     "BKFcEDcEDcIHdEKMAPAHACALAPAHACCdELbdHIbGJIbHGAcKAJeEGBBAcMACCBBbHAeIHJcPbDACEcBCbLEBdPdIDb",
     "EBdCACEIADAbNBDDKGJGeAbPcHDMIdGCbNBbLEbKGELHePeJdGdDMdDGcOHKFcGCbNHCmPbPAcKADBCPDdGcMHcKbF",
     "bKcFbMbDbHIeODcEIeEJBBbJGKFdFAbCHcHIgAAbEKbCAcPdNHABAEAPALFdLEKFEAIBCBbGAHACAFAKBCBDBBFBEH",
     "BHCFKKABBBAcGAKABBBAEAKACHCbMfMAFbNeIHKkFdGBcGcBeFKKFNbCdKFKFbEbLbLBPDbHlIdMgDfDLIBBBIACAb",
     "OACBMIKeFIBcOBLbKeIHfDMeJGKlFcCNKFJAcNAOJbNCcABbGAOeIHACAcMCBACAJHKFGACAcFACAGGKbdFbJGbBAc",
     "JCbNfEBOdCMdjLgFgPAFKmEkeLgDMefGJpjLEceHbklIdKgmFcdJGbPAKDfBAKFbOBGJeGJKAHAbFEbDbkPdKmFfLg",
     "EeLDdJGbBdPFKCNbhpIHenGcIKccoGEAHACAbcDOBbMDBBNEHbiMjaDgLENCJGKBIpfLpKFblEeLcOBbHIhEdLpGJc",
     "HBmCbEeGhJbELbELfHIbJiGfFAeHACBBBCBEAMABAHAeBAEBIAHAbMAEAFABCHAbfEBbcEBclOOFAPeePbPFGnEHAb",
     "BBHACAFEdOcABgPcNCOBKDCbdPbPbAdKEBbmPcKnFcLDBbnPHAEACAPAmFBbAcIeMDKDCdbAeEeLdNmBEAbLACABBB",
     "AKAEABABFBDBABABADACABBBABABABABACABBEAHAEAEABAKAbBEDAFAbBdDCbaNcMDgELPBPAPAcFJkOdHbNMcMDJ",
     "GCNGjJdnIDbBCNChHDfPFMDBOMDdIHKFcIHbOBMDCdNbfELOBNCKEdIGPBLFJGjDAgGeaFkgoAbPbadKFnOBbgiCNb",
     "ndBOcgOjkBcbOfoBbdeLEbagAknmfABbNgAhPpApoaPpppOBpppOB"]),
  ("Co", ["oaaAbipPoahaApppNCpppN"]),
  ("Ll",
    ["gBbJdKAcJbHBHBABABABABABABABABABABABABABABABABABABABABABABABABABABABBBABABABABABABABBBABAB",
     "ABABABABABABABABABABABABABABABABABABABABACABABCCABACADBEACADCCACABABACABBBACADABACBCCGACAC",
     "ABABABABABABABABBBABABABABABABABABBCABADABABABABABABABABABABABABABABABABABABABABABABABABAB",
     "ABABABABGCACBBAEABABABABeEBbKmBABADADCbCAbLcCBBDCBABABABABABABABABABABABEBACACBdDcPBABABAB",
     "ABABABABABABABABABABABABABAJABABABABABABABABABABABABABABABABABABABABABABABABABABACABABABAB",
     "ABABBBABABABABABABABABABABABABABABABABABABABABABABABABABABABABABABABABABABABABABABABABABAB",
     "ABABABABABAdAcIleHcKCCcpIFiiCIBAhFcLdPMBcBgGABABABABABABABABABABABABABABABABABABABABABABAB",
     "ABABABABABABABABABABABABABABABABABABABABABABABABABABABABABABABABABABABABABABABABABABABABAB",
     "ABABABABABABIBABABABABABABABABABABABABABABABABABABABABABABABABABABABABABABABABABABABABABAB",
     "ABABABABABABABABABABIIFKHIHIFKHIHINCHIHIHIEBBGADCBBIDCBIHKCBBbbCADBDAbLAEAEACBIDEAdFAkkLcP",
     "BADBBABABAEABBBFFABABABABABABABABABABABABABABABABABABABABABABABABABABABABABABABABABABABABA",
     "BABABABABABABABABABABABABBHABAEAMcFBAFAhjbDABABABABABABABABABABABABABABABABABABABABABABAbD",
     "ABABABABABABABABABABABABABAiHABABABABABABCBABABABABABABABABABABABABABABABABABABABABABABABA",
     "BABABABABABABABHBABACABABABABAEABACABCBABABABABABABABABABAFAFABABABABABABABAEABACADABABABA",
     "BABAbKADAddFcKFIHePepeAGMEecJbJemNcHiIcDjLKBOBGBBhaDdChNbFldKbPffiAbPgfjKbJbKGBbBbKbJbKDBA",
     "BGBKbKbJbKbJbKbJbKbJbKbJbKbJbKbJbKbJbKbLbMbIBFbKbIBFbKbIBFbKbIBFbKbIBFBAhdEJBbDGFjpHcB"]),
  ("Lm",
    ["clAbBELOEHABAiFAFAbnOAoGAkEBbaNBEAbPAJADAkAAkHAenEAhPAcdFAgnKAgLAcgDAbnAFkOdONAcCcEclBANAb",
     "AMlnPBpBAlPAbnFAcLEFAgBBfNCgpbGAeoCFbaOAhCAbMBhJIfAAbHAgJCDBbnFAbGAiJAgMAbFBgHDJAfeaGAcNBh",
     "oAFBcJBIfjDAcAAfnnADbpMCcIBccGMeABBAeaaMDBGBBdadBdNmJGdkNAefPA"]),
  ("Lo",
    ["kKAPAbaAAEDnAAddLbKEDcNbPBJcDBBgCBAbIBKCCAbAABbNbNfILAbIcAbFbFcKbIHKFbHBFbBcIdLdFDAbCAHJbA",
     "OEHCBCbFBGBADDDAbAANBBCOBKAIFEBCbFBGBBBBBBbPDBAbDCbAIBCBbFBGBBBEDAbCAPBbHALHCBCbFBGBBBEDAb",
     "OBBCPAbBABFDCBDDBBABBDBDCDLbGAdEHBCBbGBPDAbKCCACBbOAEHBCBbGBJBEDAbPBBBPBbBIBCBcICAbAAFCICb",
     "IFFbBDbHBIBACGdKcPBBMFdLBBABEBbHBABJBBJACEbHDcAAdPHBcDbLEhDcKbEAbAFEDDADBHCEMMAhBbeIBDCGBA",
     "BDCcIBDCcABDCGBABDCOBdIBDCeCcFPhBcgLCbABbJFeKGHHbBNbCObBOMBCPdDcIAeDcCBdEHECcBBAFeFKbOdBbN",
     "CELcLEbJdGbGJdElAcObBHdGbNNBKcLbKcDcJCKbNhBDBFBBDAedKDlpHdHbIbGJGBGBGBGBGBGBGBGccHAdFAEfFI",
     "ABfJEAFcKBfNbBbPdAPcaAbjlPeAfcbEBehGeDcHIbaLEPKBeCAdBeFkJAgHADGBCBDBbGbNdDOdBdOFDABBLbLKbG",
     "bJbMHcOcNECIKEBcIbHCBHbEPBFDADdBBADBCECABAbIBDKHAOFCFCFJGBGjBcCbNclkDMbGEdAcbaEbgNCgJeDABJ",
     "BMBEBABBBBBgLcBbgKbCdPCdFcILhEEBiGgJJBcMCbODFCFCFCCcDLBbJBbCBBBOCNcChKbiFbMDdAcPbPNbDBHGcF",
     "KbNCcDEHiAeNgCcHIdDfMdDMbdGJbFKHjIFCABcLBBDACbGKbGJbOeBbCBBKbFKbJeGdHGBeAAPDBCBbMcKbMDbMcD",
     "HBbLbLdFKbFKbCNbBgOeIlHcDcGDBAbdAcJGBbACdLbMKAIbFcKbBcObEbLbGMdEdJBCANcMcAbIbKcDbNACAIcCDA",
     "McPODbFABAcDbBBbIbDBdPGBABDBOBJHcOcGHCBCbFBGBBBEDAbCAMEbOJBACABcFBAbJABAcMdEbCDbECbOcPbEBB",
     "AlIcOcJDcEcPbEAdLcKNAeHbKcFGlJcLnDHCACHBBBbHPABAfOHCcGbAABAbMAKcHHAbFALcNbDAbCeImHcAbPIBcE",
     "bBAdBbNhAGBBBcFbFAbJFBBBbPOAbeHbCPABMBcBhMAePdjJoGmDkeMgAPecPbBFbJpjKFceGbklJbNgoCcdIHbObB",
     "eObBbNbCcPdDbEFbCblDcHbjFeKFAkPbhpHIenFcJJccpHbcCPAbNCCAODIbiLjaEgKFMDIHJcchAAbpFcMcBAbeBb",
     "NbCcLboEbKoFbNCAboPGBDBBBOBmEfdLDBbKBBBACABJBDBABAGAEABABABCBBBACABABABABABBBACDBGBDBDBABJ",
     "BbAFCBEBbAbbeEkgnPcAbadJGnNCbgiBObndAPcgNjkCcbNfoCbdeKFbafP"]),
  ("Lt", ["bmFACACAcGAbnjFHIHIHMAPAcPA"]),
  ("Lu",
    ["eBbJgFbGBGcBABABABABABABABABABABABABABABABABABABABABABABABABABABABACABABABABABABABACABABAB",
     "ABABABABABABABABABABABABABABABABABABABABBBABADBBABBBCCDBBBCDBBBBABABBBACABBBCBABBDAHACACAC",
     "ABABABABABABABACABABABABABABABABACACABCBABABABABABABABABABABABABABABABABABABABABABABABABAB",
     "ABABABAHBBBCABDBABABABAbcBABADAIAGABCBABBBbABIcDACCDABABABABABABABABABABABAFACABBCdCdAABAB",
     "ABABABABABABABABABABABABABABAJABABABABABABABABABABABABABABABABABABABABABABABABABABABBBABAB",
     "ABABABACABABABABABABABABABABABABABABABABABABABABABABABABABABABABABABABABABABABABABABABABAB",
     "ABABABABABABACcFleJcFBAFAcnCfFijDAGcKCCbeAABABABABABABABABABABABABABABABABABABABABABABABAB",
     "ABABABABABABABABABABABABABABABABABABABABABABABABABABABABABABABABABABABABABABABABABABABABAB",
     "ABABABABABAJABABABABABABABABABABABABABABABABABABABABABABABABABABABABABABABABABABABABABABAB",
     "ABABABABABABABABABAJHIFKHIHIFLABABABAIHeIDMDMDMELDbaGAEADCCCCADEGABABABDCDKBFAdNAkhMcPdAAB",
     "CCABABABDBACAICBABABABABABABABABABABABABABABABABABABABABABABABABABABABABABABABABABABABABAB",
     "ABABABABABABABABABABABAIABAEAhjeNABABABABABABABABABABABABABABABABABABABABABABAbDABABABABAB",
     "ABABABABABABABABAiHABABABABABABADABABABABABABABABABABABABABABABABABABABABABABABABABABABABA",
     "BABAKABABBBABABABAEABACABADABABABABABABABABABABEBEBABABABABABABABDBABBDAFABABABAbIAfhcLbJe",
     "mFcHiIcDjMKBOBGBBgoKdCjNbFldKbPffiAbPgfkAbJbKbJbKbJbKABBCACBCDBHbKbJbKBBDCHBGbLBBDBEBADGbL",
     "bJbKbJbKbJbKbJbKbJbKbJbObIcBbIcBbIcBbIcBbIcBAbbdFcB"]),
  ("Mc",
    ["jaDAdHACCIDBBdCBdKCGBCBKAcLAdKCeCAdKCIABBdFBdKABAGBCBKAgGBBBDCBCKAcJCdNDdNBdKABECBBBJBbMAO",
     "BdKCFCBCKAcKBeLCGHbCBbeKBdPAkLBEAGACBbJBKCCGbFBCFCAKCghIAbOAiBAHHBBbfKDCCEBBFoABdKABAJABBI",
     "FjBAdAAFABEBBdNAbOAEBCAdMACCBADBdAHIBkLAbFAbddGBhhpDBCAfIBdCPiOBcPAdABEBCCgOBCBbIAcNABAgNA",
     "CBFAoNBBBBBBAgebDABAhPAcNCEBhDAbIBdLAdACJBNAfNCDBBAkKCbPBdKBBDCBCCJAKBfECHACABDBBBAgFCIBDA",
     "gKCGABDCAoNCGDCAhBCIBBAgNABBGAgHABBEAbaFCJApHFBBEACABAiOCIDEAfEAbNBdOAbjHAOAgKAHACAnFEEBBA",
     "bfOBMAdABIBBAeboICocEdGgIBgbhDBGF"]),
  ("Me", ["eiIBbgdEAgbODBCifiLC"]),
  ("Mn",
    ["daAgPbbDEbaJcMBABBBBBAeIKdAbEbAAgFGCFCBBDcDAbObKfLKdKIJAbIDBIBCBEcLCdLIcKbHBbPdHABAEHEADGK",
     "BbNAdKAEDIAbEBbKACBdJAEBEBCCDAbOBDALBdJAEEBBEAbEBbGFBAdKACABDIAHBLBbOAdNAMAdCADAdHABCFCBDH",
     "BLBbNAdKACAGAFBbEBbMBdJBEDIAbEBbNAeIAHCBAfKACGMHgCACILGeJBbLABABAdHNBEBBFKBcDJAgGDBFBBCBbJ",
     "BECbADNACBGAPAclPCdlCCbNBbOBbOBeABBGIACKJAcNCBAhFBcCAhGCEBJAGCnLBCAdKABGBABACHGJCAdANBPdBD",
     "dAABEBAFAcIIMBcADCBBCdIABBDABCdKHCBjICBMBGEAGADBmGdPcnAMEADLlpOCiNAgAbPccKDgLBhfnEAEJcABfA",
     "BbbAADAEAbJBFAjHBbKbBNAcGHbJKcOCdAACDCBcHAeDFCBCBMAIAcPAdDABCCBFBBAcKBIAoOACAEAepdAAcoBPbA",
     "PdmNAoCAjFEgiGCBBFDcICEAkFBcdNDeBEbdNBePDeGKdBDhLAdGOcJACBKCdBDCBHAdNCcEEBHdOAMBdEIKDCAfPC",
     "CABBGACAjNADHbFBdJBDAcFGDEeGFNABABAOBfFHCCBAbHAfEFBAEBBBoODGBBBbLBfFHCABBgKABACFBAgFABACDB",
     "EbaDIBBbaABBAEAjADCBEAcAJcIFCDIAJFCCcOMBBbjGGBFBAfCbFCGBBBBhKFDABBBGBAeIBDABAbfLBLBdEEFABA",
     "bHAbeoFAGOcmmILDCjmAEdLGebIAdPDfBAemlIBbcgBcNCbGccACbBHCGbODjEChlLdGEdBIAOAbGEBOffAGBbACGB",
     "BBEgEAkAGbhHAdNDbpMDpOBcoAGgNGmbhlFoP"]),
  ("Nd",
    ["dAJgcGJiGJmGJbjMJhGJhGJhGJhGJhGJhGJhGJhGJhGJgAJhGJeGJbbGJeGJheGJcGJbcMJiAJkGJGJlGJfGJiGJGJ",
     "ijmGJckGJcGJmGJbGJfGJbjGJfdbGJfiGJiiGJGJdbMJiAJdMJjAJbbGJbfGJhGJbhGJgGJGbDeMJbkGJgGJcjGJfG",
     "JpGJeGJbkGJebnGJjcGJfGJiGJcbGJfphGJknEdBjeAJbkGJbpGJpHJdfFJbcjGJ"]),
  ("Nl", ["bgoOCkgPcCCDohOAbJIOChgkLJfkfAdEbmMAIAiGEcacKgO"]),
  ("No",
    ["lCBFACCjdFFbhIFhICiFGnJGbBIblBJedFbDehDJboAAgjFADFGJmGPcJAcnGdLeObFchGbNfgJAejEDiKJbOHBOcA",
     "JcHOhfhAFfinBcMeBDbBBbfFbKcEDfdEHbJGcHIeLEbGFkABCPCcNeAIdEBbOCeLEgIHbIHcJGbeKFbgAbOjOJcKDh",
     "AGiGbDbhLbDfeFBbkOIdgHbCdfDbEeliGGdbObGgecJbDMbDgMbIbfeOIdkBdKBCBDeMcMBOdmCM"]),
  ("Pc", ["fPAbpnPBbDAnnnOBbICoPA"]),
  ("Pd", ["cNAffMAdDAoeBAeaFAiaJFoaBACAbPBEAbMAblOAbDAgPAmnjABcFAKAkJAogAAbdOA"]),
  ("Pe",
    ["cJAdDAbPAolNABAhfOAjkJAdHAPAchKABAbOAedOABABABABABABAfAAcAABABABABAbjEABABABABABABABABABAB",
     "AeAABAcBAecFABABABAcMABABABAbkMABABABABADABABABACBmnbOAnJAbNABABABABABABABADAbBABABAkKAdDA",
     "bPACACA"]),
  ("Pf", ["lLAbpfNADAbMAnmIABAEACAPADA"]),
  ("Pi", ["kLAbpgMACBCAbJAnmIABAEACAPADA"]),
  ("Po",
    ["cBCBCCABABBKBDBbLAeEAFAOBHAclOAIAbnCFcJAdGACACAcMBbEBBBNABCeKDgGAcLNoJCdGObPAbaFBKAiMAhIAh",
     "JAbiGAMAbgPAfKAKBkIOBAhAAeKEEBgPFkLAcgEIdaFAhMCeHBjNCBCcFFBDbdJBnIBiAGBFkABKGbMChMDdLEdOBe",
     "AHLAdeCBIHIICDCCDKBABJmjKDBBhAAiPBECCACIBBBACBKEBJCDBABMCCbkMCdJAlNAheaCBbaNCgDAKAhDFbhMDf",
     "GBcICBAdBBcPAgBMbABhMDhOBbABpJAfccEGCAbGAbEBCDDCBDHCGABBjFCBCCABABBKBDBbLAcEACBbjKCcjMAdAA",
     "bjOAcoHAmHAbPAbbAIcGAhAGeCGfJDdlIEcMDlNGgNBBDhODdABePDEANABCfIFgLAbcKBBBhCEKBBAgIApKbGgJCb",
     "MMeMAiCCpMAbaICjLAfMHfDCBEfNJnHAfPEcKBciFBeKMkPAehAElhMBdkhLBiFAeBEIAccICbcHDbeHAemlMAbnoH",
     "ElhDAdfOB"]),
  ("Ps",
    ["cIAdCAbPAolOABAhfOAjhOADAcGAdHAPAchKABAbOAedOABABABABABABAfAAcAABABABABAbjEABABABABABABABA",
     "BABABAeAABAcBAecFABABABAbJAbCABABABAbkMABABABABADABABABACAmncBAnHAbNABABABABABABABADAbBABA",
     "BAkKAdCAbPADACA"]),
  ("Sc", ["cEAhNDeoJAhLAbpCBbpCBHApFAbaHAceFAjjLAimEcAihhHAffmDAgMAjKAnLBDBbppGDmdbOAjlAA"]),
  ("Sk",
    ["fOABAeHAGAEADAcaJDMNFGBABbAhFAOBfaCAbhdEABCLCNCNCNBbajMBhggDbGJBgHBdnAAOBfaeGbAdhLABAkCApe",
     "bHE"]),
  ("Sm",
    ["cLAbACdNABAcNAEAcFAbPAcpOAcaPCbkdLANAcHCNCiLAcHEGAeEEFBEACACAHAbPBCABAbPbaLcABfKAbObIcIFbn",
     "FAJAdGHgPAbfAECbOKPbaAiCbGdOEbPCbaBdAbECFmpnMAddIABCkEAbACdNABAiDAGDnkBBmjdBAbJAbPAbJAbPAb",
     "JAbPAbJAbPAbJAbhcMB"]),
  ("So",
    ["kGACAEABAdnBAbaKBhPBmOAKAbDBpHAcaDAbhFAiCFBAiEAmPAcJAbiHCPABCCFbEABABAiFHBFBBFDmFBcpAJcnDA",
     "cnCAjNcBbgBJJIfiDBBDBBKABBGFBABABAEALBOABBBAdKBJECDBBBBBGBbOCBBABbObaMHEbDCGCfABbNbJcHGeHb",
     "GKfBeNbGlGBIBdFIgOBpHcMcLeApPcaAcPbFBGcGCbPBgIoFFbgFBcObJBfIMnFbKPEANBMAbFBGBbfABEJcAcFJAb",
     "AbOLbNIAPbPKcGPbdPbjmAdPfgjAdGdgBDKBBAcdNCfcmGPhPAcNCboEADAEBNBbdJIdJbACCBMDAcPcMghKBcePAm",
     "hGAijFHEbAeleKDFAfbfGApgDoPbAblDjMhDdMpFKcGCdLFCbGBHbNEdMbFeBDAlKfGekJbpPdHDdCHBNBBgmIAlfM",
     "AiBAcnBcLEgDMOCOBOBcEbHkAdIbMNcLEIHBOFjKpKFcnHEbADMDhGEfOGLEAPLEdHIJGcHIbNCLEBdObfDMNCMDJF",
     "dHHOCKGIHjCBfL"]),
  ("Zl", ["cacIA"]),
  ("Zp", ["cacJA"]),
  ("Zs", ["cAAhPAbfnPAjhPKcEAcPApkAA"])
]

/-- **Category names**, folded to lower case without separators, and the code of the category (or of
the group, by its first letter) that each one stands for. -/
def categoryNames : List (String × String) := [
  ("c", "C"), ("other", "C"), ("cc", "Cc"), ("cntrl", "Cc"), ("control", "Cc"), ("cf", "Cf"),
  ("format", "Cf"), ("cn", "Cn"), ("unassigned", "Cn"), ("co", "Co"), ("privateuse", "Co"),
  ("l", "L"), ("letter", "L"), ("casedletter", "LC"), ("lc", "LC"), ("ll", "Ll"),
  ("lowercaseletter", "Ll"), ("lm", "Lm"), ("modifierletter", "Lm"), ("lo", "Lo"),
  ("otherletter", "Lo"), ("lt", "Lt"), ("titlecaseletter", "Lt"), ("lu", "Lu"),
  ("uppercaseletter", "Lu"), ("combiningmark", "M"), ("m", "M"), ("mark", "M"), ("mc", "Mc"),
  ("spacingmark", "Mc"), ("enclosingmark", "Me"), ("me", "Me"), ("mn", "Mn"),
  ("nonspacingmark", "Mn"), ("n", "N"), ("number", "N"), ("decimalnumber", "Nd"),
  ("digit", "Nd"), ("nd", "Nd"), ("letternumber", "Nl"), ("nl", "Nl"), ("no", "No"),
  ("othernumber", "No"), ("p", "P"), ("punct", "P"), ("punctuation", "P"),
  ("connectorpunctuation", "Pc"), ("pc", "Pc"), ("dashpunctuation", "Pd"), ("pd", "Pd"),
  ("closepunctuation", "Pe"), ("pe", "Pe"), ("finalpunctuation", "Pf"), ("pf", "Pf"),
  ("initialpunctuation", "Pi"), ("pi", "Pi"), ("otherpunctuation", "Po"), ("po", "Po"),
  ("openpunctuation", "Ps"), ("ps", "Ps"), ("s", "S"), ("symbol", "S"), ("currencysymbol", "Sc"),
  ("sc", "Sc"), ("modifiersymbol", "Sk"), ("sk", "Sk"), ("mathsymbol", "Sm"), ("sm", "Sm"),
  ("othersymbol", "So"), ("so", "So"), ("separator", "Z"), ("z", "Z"), ("lineseparator", "Zl"),
  ("zl", "Zl"), ("paragraphseparator", "Zp"), ("zp", "Zp"), ("spaceseparator", "Zs"),
  ("zs", "Zs")
]

end OrderedChoice.Unicode
