import OrderedChoice.Unicode.Packed

/-!
# Age

The version of the standard in which each character was assigned, as packed range lists.
-/

namespace OrderedChoice.Unicode

/-- **Ranges of each age**, oldest first, by the version number. -/
def ageRanges : PackedTable := [
  ("1.1",
    ["AbpFEbNdIfIHcOBJbGeFbKBbCBEADAFGBABbDBcLBGDABABABABbBNLBeBBLBcIJdECBCBDbLCHCBdHcFCGBcGBAcG",
     "JBIMbKFEbHAOADABbJFbCNNCeHCEBOBbNCJcaHCBdECbBCEDbIbACBHCBCbFBGBADDCABGCBCCJAEBBECbEHACFEBC",
     "bFBGBBBBBBCABEEBCCLDBAHOMCBGBABCBbFBGBBBECJBCBCCAPAFJbBCBHCBCbFBGBBCDCHDBCCIBEBBCEKbBBBFDC",
     "BDDBBABBDBDCDHBCEEDCBDJAPLOCBHBCBbGBJBEEGBCBDHBJBEJbCBBHBCBbGBJBEEGBCBDHBHABBEJbCBBHBCBbGB",
     "PEFCCBDJAIBEJjBdJEbMcFBBACBBACAGDBGBCBABACBBMBCCEBABFCJCBbmCcFKcGEAEfJFeDFfBmaGjKFfJGbFCFC",
     "cFCFCHBABABABbOCdEBOBNCFBbCCCBIBcOBbGcDGDbKbBKcFbBbOdIbKcPNfKbFpBOABhIiFcEbLKbFiKbFjFKePbA",
     "bDGfFjBDBDCbLBcCBABDDABGCGObODbHBNieBdHHABfDEFCfNGcHEfNBPgAbMDcDbMbLDdBPLEcOBhGEgCCbObkaBf",
     "bkFeafKbkcNnCGMEGbIBEBABBBBBgLcBbgMbAdPCdFcILcEDMbEEJBbCBDECBABiGCABfNCfNDFCFCFCCDGBGOC"]),
  ("2.0",
    ["fjBbABMbEAjdLeHBcAHbKEFBABbEDGBAooBAcaPAilfEclkDbcifKBpppOBpppOBpppOBpppOBpppOBpppOBpppOBp",
     "ppOBpppOBpppOBpppOBpppOBpppOcaaaB"]),
  ("2.1", ["cakMAnpePA"]),
  ("3.0",
    ["bpGDbOHCbBhFEdBAKEfHIbDAhEADABABABAbOAMAeCAMAcKBCDfMBjMAmICgCBFAPAcKEBNBbNDbKdFdAfnBBBbBDb",
     "HBIBACGDAEFBABHbCCbhFAcLAbHCHABCBOCAdAcBBEBBBGDDGbJbkGGBdOBABDCGBABDCcGBABDCbOBABDCGBABDCG",
     "BGBbGBbOBABDCGBcGBbCGbLcDfEMchFJbMDfAiPfMDJbGOBJGfHIcJhiFAbIFfPCdCBfFBeIAgHIbaNAhJABbNiKBb",
     "mJHcBAfGBbiOpPfiAbJBfIMnFbKLdMCDAbgBbHceIbjlFfceKeiMDbBCPBLBCBAfgfGAenLC"]),
  ("3.1",
    ["dpEBpjnKbPfbAbOBDMbKlFcFCcFmllCpFKcGDlDccCfEBeGBBCACBCDBLBABDBBBeABDCHBGBbLBDBEBADGBbfBEbc",
     "BEdBciaAkgnGfbcJcbNlafoDAbOfP"]),
  ("3.2",
    ["ccAAbcOAbDMgIBbMAjDBdJBCBCBdBPbfOBbeBAjeFBgaHMBGLbGJbDMMBCBBinDAGEEAHENAdOBdCGfCOkILpCNhMA",
     "bOdDbbMbDjHJfIHbGBfKLCJnONfKbLEPbaAbpPfdLCfHBIBfOApAPfBOfBOhboCBbAAMADAffgKdKdjBADPdFBcMAo",
     "LB"]),
  ("4.0",
    ["ccBAbCChHBdPbAfAHFCjHEcaEDJIeACjFBPAcNCbNCblEAlIAeDABAiIAfECNAeDAdLAiBHmBBlbPAbCJbaGbMDLEL",
     "EADcJCEgLbPdaAgLcoHBoGAcjDBbcOAbbEBhEHOBefONhaPBdBAcLBeODkHDgDBbPAbjmAdPkppNAeJBblHLBbJBbC",
     "BBBOCNcChKFCEcMDIceAbNBAiGBcGePCJdfGFCABcLBBDACAmkmAfGbgKAmcmdOoP"]),
  ("4.1",
    ["cdHKbbGEjPDpGBkKAcCCeDAbCAdKFpBbNcaPAfAAboHAcPAdoJBbcHBBAbaKAdPAdPAcHAbPAbPAbPAPAcHAbHBbPb",
     "JfoGcJGbJGJEBcAbLCBdeMfHcjBBBGdBEbNDdFAfAAPAciEKcdMAgFBbCKFPbaOGdeHFoMcOBcOcBgKOcMKdFJAbAb",
     "GJGBGBGBGBGBGBGBGcBbHEBdkCPkOAgncHbFheEbGoJcLfceEgJddGJdcGeKcbFcDENgcKDBBFHBCBbKECEIIImhkH",
     "eFefOB"]),
  ("5.0",
    ["ceCNbcLCbfBAcKFbADkGAcaFdKbiABBBdgCBNBoaNeLEcMceHGdDBcoMDfNBdFAcfHLcmKAbbEDdeJGFDbdMMHDhkj",
     "PDFBbbOdHgaiIbJFAbgoAdgOjBgCNDkooMbBefIB"]),
  ("5.1",
    ["dhADCBfHAlHAiMPoCELEcAEbcObBbpBBnOAcDAmOAbNBgMAgMAbKBIBbEHlNAGAbNBMFDGboLBgBADCeNAFACAHCEF",
     "bKdPEBiaKAcnFcKDLeGdHDODdCbeLbLlFDfKFbgEAiLAfOAdFDfbEAbFJDDbaIAbPDdcLEEcIDEbbICBCEFbgCbPbI",
     "DCbCcpMAkCbDgnnIHfdMbcLbEbPCbBIbLiDECgKgOEiAeEJLcGfDLAkAdGJNCJCDfdmECdgJLdEcNiCbMDdAgePbJF",
     "AmhoJAbonGcLEgD"]),
  ("5.2",
    ["fcEBcnKcNCOmBAeNAGAcDBiAAfnJDmBDlMEeEEfCFcaAAchGIcdAeFlEBcOAeFdOBbMCKGJGNccCcCbaKAclICjHCd",
     "GAcfOAclFBbNCEJBbCBAEbHfHAdpNEbbGANBgLGbdPAebCLgnhEHfaEcPbkAfHbdIJkGbLgEbMDeNBKEBiAbLEeCbI",
     "EoAcNCJcllGbGEdAccgPCnnCbFBIlKBbeEbPiAdFDbMCbKFHiAeIcbHbOcaBeBbpdOecOlmnBKFbOCALABACADADEI",
     "AHAbJABBCAKDCAgPAPcBOIlelHbadE"]),
  ("6.0",
    ["fcGBpIAdOAboAbLCAnLBbDAGBbLEbpKFblBAbAAbDAcdNDeJBdiCBigBdDIDbpMAcjIHbMAdcPKcnKAbDABDbNAEBb",
     "MAcDABAECJBdECbIAOAOBfkAAOAedIChekFBbcLBBBOJfAAdaGFCFCFJGBGfaiDPbedOeNEbNfhjAcdIefmHBeajOO",
     "CNCOBOfAABKBABBBCBCFHBGBJGIBACBBJEBBJeLbJBBcPIbFBkOcAPFBeFDbDMcEBEbFbAPdOBABlFBDDdNbCbHjDE",
     "BPBCBABABABCBFCDBACDBLEKdAeFdKhDlpmMnN"]),
  ("6.1",
    ["fiPAhEAcjLABKdHbKbpBAdoNBboHAFAcPCkkLCMFbaAHcLDknEABAfcEBdDAFAdIBmKJhbjAAgkHHcDApCBbGAeNBc",
     "oGbGepdHBpfAdHGBhbAbIHJGdEBNdMeIHJekGdHIJfidGeELcObAbAhogADBbKBBBACABJBDBABAGAEABABABCBBBA",
     "CABABABABABBBACDBGBDBDBABJBbAFCBEBbAdEBchIBdnEDlMAbAADABABABADAGBEABBEA"]),
  ("6.2", ["calKA"]),
  ("6.3", ["gbMAbkeJD"]),
  ("7.0",
    ["dhPAbkIHfNBhGAcjLALFeMAhIAHAchPAdDAeMAhPAoEJjaBHccEBbjBOcdJBoNOcmFCddGGdaFAeeMCKbJCbPCcBDL",
     "BHcgKGhifFFpGLLCCBeFAboIbOhNDlAcPEBfcmBGdfNBbDAbdPbLcDAdAcKbiFcHIdDLAjAbdGJbFKHpIdOIIbnAbP",
     "cAcGELiJbBHDMGemPAnAcGfGAMAGbDLbBBcKhCdKFJHCBHCBCbFBGBBBECICBCCJAFGCGDEbaLeHIJkGdFCbBdGeEL",
     "JceGfCMAbmAdIihGcJmKLFAefmLbOBJEBgAbNCFKeFKJBGBbEFbCfahAgKFMDIHJCHclfMmECPhoIAcAbFbFBcbELJ",
     "AeGAbGLcFAFDFLbBGeHABAlGAEBdPBEGbNbBBcIBfFeGBNcPeGJbAMDDiMfEcLLEdHIJGcHIbN"]),
  ("8.0",
    ["ilDBcOAcbFAbgAAbaEAgjFACFmmAAmLBkgADhdnNIgmIApAAcCFbeEBcgCDMePfcgOBklAbCBBFElMBCPCcNciAdCN",
     "dCHFemJDOEkAGBABDBOBKfGAePAchJbDbcCbJDOEPmfJAoGmDbolMceGiljHKgbHciLPEBObihNCeOBePEcEHpPAeL",
     "EpDBiLAcdPIgHEdLAlofPbgiB"]),
  ("9.0",
    ["ilGHbGOdjNAmOAECBGbHCpaHIbhCAfpPDkeEBhjgJAbbGAfimHBdcBcDEcDneCAbmBfJBABAcaCMfjDIBcMBNKbMDb",
     "PCbFBNfdcJAbPbhoMbDcpCffaNGBbACGBBBEinFeKFJEBidLbBiOAddOAcJAbcMBcBCccCFBHIACLBLEOcGM"]),
  ("10.0",
    ["igAKbjBBpMFcaAAdKBplKApODcmFAddPAhnCAchCEcoEAgokHbEgdeCCbgnAeHIdDCbGBEcfNGBBBcLDABBBIIJfci",
     "HAeacAbbMfBbiLdpgEFegNBcCBcaHLbDAIHBBbJAbCMcGFdIbGnemJbndA"]),
  ("11.0",
    ["fgAAcHAgGAcaNCnDAbcKAhHAbiNAhPAlpDAebHcKCCopKCbGbIEOceLEcoAAgolLEhlPAIBbeEBgbdEBbCAclHcHIJ",
     "bmGcHIcJbhDAhGCbpEAbcCAclLAoFdLcgBAcmCFBBBcEBBBFHJbdGbIepeHfKbjfCEekoObDhOGbipIeDehKAfmJAn",
     "LDbhECbMECDDABDbIKNJHBcEbIgAN"]),
  ("12.0",
    ["mhHAcaOACACABFEAHAHBCANAodPAomOAdFAcePAhjgKFCEdjPBgehIbGegIAcfIAcoHHCcNCKjPBfdKdBNAbedAIdl",
     "aMFEAcPIfKBbiaOFcjfICbBDcpjIcMDNCJEBbhAdJFAgeLAdlFdMecOAfgIAcEAoFLbcBCcPAdBAJAcJFDBKFDHCCd",
     "AfDbMDECFCNF"]),
  ("12.1", ["dcpPA"]),
  ("13.0",
    ["ilOJciNAbkOAhMAndNBbanGAclICdgIEblpGJfcdAMhmKDcKBdFAddLDfgdAAmoDcJBCCBpObLbhLAiGBciKAFBejO",
     "GCACHBBBbNBBCLJJgfGAfadDALBblaBboCcKIgeaECfNCdNAfcIBcDBblDBfKAgFAEBcKBGCbNAkIAODPbCHGJCNGc",
     "JjCBdGcFJkknNGfjcCbdeK"]),
  ("14.0",
    ["gbNAcfCbOBBGHbFAbCKdgJAcAAhPAkcPAHAJAoPAclBNhNAdABchLAcmFAlgOAcPAbpDKhbjPChmABOBBABEbICfdm",
     "NAbhNPhPAcOBhhAKBOBGBBBKBOBGBBbmDFBcJBIhlFbJoGFeMAfpGAiGGdgJPbenAgCdkhNeOBJefcGDBGBBbcADbn",
     "nNcNCbGJhDccFBnbFbOdhBbOfdBGBDBBBOonOCbbAAbiIAfCAkOBcMDKDICbBCGHIGkloHBbafFD"]),
  ("15.0",
    ["mpDAbnKAbaacOCddPCilOJdpGbABcIDbLbenFAJbMhmnMAcCAcbgKbDmfBFbaFdNcBAeeAcJbboCAjHCEEfJAcjLCP",
     "BcECLCBAOBKBMAOBlmeAAfmbGbafP"]),
  ("15.1", ["cppMDboPAclkaAcgN"]),
  ("16.0",
    ["ijHAbclGBcPAbaJBhjMCnlKBhfoFCMCfnoDdDheMcFDbMIBbdCCdHAeiDJBACABcFBJBACABDBJBBIBcoNbDenMcBO",
     "JdgAAbfaFpjKbnaFdJmaGdJbpiFAdpaApJGblDbhbMcKEAbclCJEBbmHAFAcOAHAbFACAJAoBcE"])
]

end OrderedChoice.Unicode
