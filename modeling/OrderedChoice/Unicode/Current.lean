import OrderedChoice.Unicode.Packed

/-!
# Tables of the current version

What a pattern matches follows version 16 of the standard. The names of its groups and the display
of text follow version 17, the tables of which are kept here as packed range lists.
-/

namespace OrderedChoice.Unicode

/-- **Alphabetic characters**, which may begin the name of a group. -/
def letterRanges : List String :=
  ["eBbJGbJcPAKAEAFbGBbOBbmJELOEHABAfGAbNbBBBCDBAGABCBABbDBfCBiKIkFBcFCAGcIcHNBABBBBBAIbKEDbNK",
     "FdHBGOgFBHEHECKCCAbAcPNgEbIcAJBEAFbHCbCbDbIHKFbHBGHAIcJKLDGGeLBPBCEONbCBHCBCbFBGBADDDHCBCB",
     "BAIAEBBEMBKAECBFEBCbFBGBBBBBBEEEBCBEAHDBAbBFLCBIBCBbFBGBBBEDIBCBBDAPDbFDECBHCBCbFBGBBBEDHC",
     "BCBJBEBBENAbABBFDCBDDBBABBDBDCDLEEDCBCDAGAcIMBCBbGBPDHBCBCIBBCBBCDbMDBHBCBbGBJBEDHBCBCIBFC",
     "BDNCMMBCBcICHBCBCBAFDHEbGFBCBbBDbHBIBACGIFBABHbCBNdJFGGAdDBBABEBbHBABbCBCCEBAGAODcAAdPHBcD",
     "EbCEPBcDeDdGBACEbAdPKDCcFBAFACcKBbeMBDCGBABDCcIBDCcABDCGBABDCOBdIBDCeCcFPbAfFCFDcgLCbABbJF",
     "eKDKHbDLbEMbDMMBCBBMdDCbCOAEAeDfIHcKFeFKbOBLEIbHbNCELcLEbJdGbLEdOCbDdCAbHBLCdBdDBOBHdDcJCD",
     "KcLBKOdGbGCKcDCKFcKCCcJDBFBBDAFlPbDcBLbbFCFCcFCFCHBABABABbOCdEBGBADCBGDDCFEMFCBGhEANAbAMgF",
     "AEACJBADEGABABABDBKCDFEEAbBcIdcNdDhbGoEGDDBMcFBAFACdHHAbAbGJGBGBGBGBGBGBGBGBbPcPAbnFCbJIHE",
     "CEEfFGCBfJBDFcKBfNbBbPdAPcaAbjlPeAfgiMeDcNCbaMDPKBbEcOFHDhAcHICgGCfBbEbEBcAbIdDMeDBAcMFDAB",
     "CKcAFcCNbMDdCBLPAbAPKEBdGJNbCbGDeEBABAbICCPCDLFCFCFJGBGBcKBNGhKbFclkDMbGEdAcbaEbgNCgJcGGME",
     "FLBMBEBABBBBBgLcBbgKbCdPCdFcILhEEBiGcEbJGbJLfIDFCFCFCCcDLBbJBbCBBBOCNcChKeFdEbaLbMDdAcPbPN",
     "bNFcKFbNCcDEHBEcKjNbCcDEcDEcHIdDMKBOBGBBBKBOBGBBDdDMbdGJbFKHbIFBcJBIeFFCABcLBBDACbGKbGJbOe",
     "BbCBBKbFKbJGbJcGdHGBeADBBFHBCBbMcKbMDbMcDHBbLbLdFKbFKbCNbBgOeIdHdCNdCNcHcCbLDAFbGpKcJBBDBb",
     "AFdCCDbMKAIbFcKbBcObEbLbGJeFcLEKdIJANbIbHdCbBDIcCDAJdPBDJBKABAcDbBBcBCAGDdOGBABDBOBJHdIbHD",
     "BHCBCbFBGBBBEDHCBCBDAGAFGbMJBACABcFBJBACABDBBDABAcMeBBCBDbECbOeBCBBAlIdFCGbJFcCdOBADAdLdFC",
     "AeHbKCNbFGlJdIgHdPbPHCACHBBBbNBBCBCDfNHCcNCFBABBbLdCCJbBeHFAbCeIgHHfIcAbPIBcMBGBAdBbNCbFBN",
     "eJGBBBcLDABBBCBACBbIFBBBcEBBBDBAbHcLbaEbGJbABcIDCgPAePdjJgGgObBmDkeMgAPecPbBFbJpjKFceGbklJ",
     "cOgnBcdIHbObBeObBbNbCcPbADbPbEFbCblAcMnDdPcAbICbIcMeKEdIHbAeABBAMGJbmnFcJbPgBhCcbpNDBGBBBb",
     "cCPAbNCCAODIbiLjaEgKFMDIHJEAbhgBfEBeGBBCACBCDBLBABGBeABDCHBGBbLBDBEBADGBbfDCbIBbIBbOBbIBbO",
     "BbIBbOBbIBbOBbIBHhdEbOGFnFGBbACGBBBEFdNcBAhAcMKGbAAbeBbNbCcLboEbLoEbNCAmPbOBbFIBoAGBDBBBOB",
     "mEdLeDDADAelEDBbKBBBACABJBDBABAGAEABABABCBBBACABABABABABBBACDBGBDBDBABJBbAFCBEBbAchEbJGbJG",
     "bJohGkgnPcAbbbNCbgiNCbndAPcgNjkCcbNfoCbdeKFcbcJ"]

/-- **Numbers of every kind**, which may follow in the name of a group. -/
def numberRanges : List String :=
  ["dAJhIBFACCfkBJiGJmGJbjMJhGJEFgMJhGJhGJCFgOMhDJIGgHJgIGHbCgNJgAJhGJeGbDbaMJeGJcmPbDdhBCoPJG",
     "JbGJbcMJiAKkFJGJlGJfGJiGJGJebGADFGJmGdCCEcnGdLeObFchGbNfgJAdaJAbJIOCbfHDiKJbOHBOcAJcHOhdgA",
     "JlMJbeAFjKJcGJmGJbGJfGJbjGJfdbGJboNcMMdIbBBbfFbKcEDbNAIAiGEmKJdkOHbJGcHIeLEbGFkABCPCcNeAId",
     "EBbOCeLEgIHbIHcJGbeKFdAJGJbbGbOjOJcKDhAGiGbNiAJdMJjAJHbDpLJbfGJhGJbhGJgGJGbDeMLbkEbCfNJcjG",
     "JfGbMoDJeGJdGJbgGJgGbEecLgOdmmBJjcGJfGJiGJBGcaOJbaGbGbfNCfmpJJfmGbDMbDgMbIefFdBjeAJbkGJbpG",
     "JpHJcmMIiAJdbHdKBCBDeMcMBOdmCMkoDJ"]

/-- **Characters that are not shown as they are**: controls, formats, unassigned and private code
points, every separator but the space, characters that most programs leave out of the display, and
those that extend the character before them, the two halfwidth sound marks excepted. -/
def hiddenRanges : List String :=
  ["AbPfPcBMAcfCgPIBGDHABAbEAoAGkGAcGBdCBDcNBABBBBBIbLDGbAKKBAcObEbAAgFHBFCBBDcABBAbObMfJKBNcL",
     "IHCbIDBIBCBGPAbJEBALEcAPcKdIdHABAEHEADGKBbNACAIBCBbGAHABCECBACFCBCABMCADDbIEBAGDCBbGAHACAC",
     "ACDDbHEABGKBDABLBAJADAbGAHACAFCEHBACCBOCDMGBHCAIBCBbGAHACAFCBBBFCBCOCADDbCKBAGCDAECCABACCC",
     "CDCMEBACCDADCBbEbFFDAIADAbHAbACBCEbCDACBCDKGKALADAbHAKAFCCBBACbGDACDKADNLADAcJBBACEDADACDD",
     "AKDbKBCAbCCbIAJABBHICFHGKBDLdAACKIHNcECABAFAbIABAKACIBBFABIKBEbPbIBbLABABAOAcEbBBEBBFdAIAG",
     "ANcEcNDBFBBCBbJBECbADNACBGAPAcIABEBBiPBoIAEBHABAEBcJAEBcBAEBHABAEBPAdJAEBeDEbNCbKFfGBGBciA",
     "AbMCfJGbCMbDCCIbCNNADOdEBBGIACKJCKFKFLEKFfJGFBcCABEeGJbPDEBDDCAGGBCcKBFKcMDbKFLCdJBCCdIABI",
     "BACHGMKFKFOfFdAJECIAbNIMBcADCFdIABBDABMdAHCEPCdOEcLBLKBMBGEAGADBBEmAdPbbGBGBcGBGBIABABABAb",
     "PBdFAPAOBGAbDBDAJbAbIHcPbACBbLANCcCdNiMDcjKbFLbEhbEBbhJCCEcNABEBBdIGCObHIHAHAHAHAHAHAHAHcA",
     "fOcBbKAfJLnGbJbAAcJFbAAfGDgFEcLAdDAcKAfGIdAAhcgNCdHIbfMbDcPDBJcABfABGHnNbDbBADAEAbJBFDKFdI",
     "HeEJMbHNAcGHbJKBLbOFdAACDCBCANALDHAbJAcJFCBCKDAIABBKBcAAdDABCCBFBBABbHbBBIKGBGBGIHAHAdMDhF",
     "ACAECKFclkELbHDdBDiaAbipPbgOBgKcFHLFEBAbIAFABACACAciKbPbAPKbFcDAbDAEDFAiHDjPAbOCGBGBGBDCHA",
     "HMCBMAbKAbDACAPBOcBhLEDDcNCfIANCBcOcNiCbNCdBPbLDcEIbOEcGJbOAcFDOcJjOBKFcEDcEDcIHdEKMAPAHAC",
     "ALAPAHACCdELbdHIbGJIbHGAcKAJeEGBBAcMACCBBbHAeIHJcPbDACEcBCbLEbLcFdIDbEBcPOEADAbNJJGJGeAbPc",
     "FFMIdGCbNBbLEbKGELHePeJdGdDMdDGcKLKFcGHbIHCmPbPAcKCBBCPGHJcGcIHbGKJbFbCDEcFbMbDbHIBAdGOHDb",
     "OACBBLdBDCBCAENbJGKIcEEBIbCHcDADKdEIBAIDCAbAAbEKbCAbMCCDGACdOHABAEAPALFcPADMKHCAIBCBbGAHAC",
     "AFCBABAEBCBCCBLHbLKABBBAcGABACOBACCBADACcGdIHCCBAbFABADbNdAACFBACABBBBEHKkFcPACFEBBBbLcDdD",
     "HCABBEKKFNbCcLABACHCFKFbEbLbLCBACDBIbHlIcPIBBBgDfDLIBBBIACAbIAFACFEADIKeFIBcKHEAEbKBJcIFCD",
     "IIBFCCcOMBBJMeJGKfGBCBABfHcCNKFJAcGNBAGJbNCcAbIBGBBBeKHACAcGbEBIKFGACAcFDCABABGKFcMDKpFbDB",
     "EIPAcEHCCbHfFBOdCMdjLgFgPAFKmEkeLgDMedAbAGbIpjLEceHbklIbOLDCKgmFcdJGbPAKDfBAKFbOGBJdAGPJKA",
     "HAbFEbDbkPdKmFfLEbJBbJcLeLEdIKNdPENFIbmnGcIcAgAhDcbpMEAHACAbcDOBbMDBBNEHbiMjaDgLENCJGKBBBB",
     "pfPpNCblEFbHObBfOhEdLpGJcHBdMEDbFCGbODdNbEeCCBhJbELbELfHIbJiGfFAeHACBBBCBEAMABAHAeBAEBIAHA",
     "bMAEAFABCHAbfEBbcEBcdCdGEdBIAOAHehDbPFGbaEdOjBcNJHBKDCbdPbObBcMDKEBbmPbMDKnFbOBLDBlPbPADAC",
     "AHBFICnPHAEACAPAmFBJcPeEGBDKDCdbAeEeLdNmBEAbLACABBBAKAEABABFBDBABABADACABBBABABABABACABBEA",
     "HAEAEABAKAbBEDAFAbBdDCbaNcMDgELPBPAPAcFJkOdHbNMcMDJGCNGjJdnJCbBCNCnKFMDBOMDdIHKFcIHbOBMDCN",
     "JcGbfIHOBNCLCdJABDbABMDKGjDAgHeaEkgoAbPbbbOBbgiOBbndBOcgOjkBcbOfoBbdeLEcbcKnmliF"]

/-- Characters that may begin the name of a group, beside the underscore. -/
def letters : CharSet := unpackSet letterRanges

/-- Characters that may follow in the name of a group, beside a few signs. -/
def lettersAndNumbers : CharSet := letters.union (unpackSet numberRanges)

/-- The characters that are not shown as they are. -/
def hidden : CharSet := unpackSet hiddenRanges

end OrderedChoice.Unicode
