import OrderedChoice.Unicode.Packed

/-!
# Simple case folding

Two characters are variants of each other when simple case folding maps them to one character.
The variants are listed as runs: a first character, how many characters follow at a stride of one
or two, and the distance from each of them to its variant.
-/

namespace OrderedChoice.Unicode

/-- **Packed runs of case variants**, by first character. Three numbers describe a run: the distance
from the first character of the run before; twice the count less one, plus one if the stride is two;
twice the distance to the variant, plus one if it lies below. -/
def foldRuns : List String :=
  ["eBdCeAKAeblOIAcfIOdCeBKAebhOIAcbIeCAfmOAAgaOLcMeAFAeamMbDMeAHAdlhOBcMeBFAeaiMbDMeBHApCBcPC",
     "BcPDdBFCBFDGPCBPDbAcNCBcNDcNApDBFCBFDFAcfJAAcbJBAbiGBAbkEBDCBDDDAbjMBACBADBCbjKCACBADCAjOB",
     "AbjEBAbjGBACBADBAbjKBAbjOBAmCBAbkGBAbkCBACBADBAbeGBAbemiCBAbkGBAbkKBAbaEBAbkMBFCBFDFAblEBA",
     "CBADBAblEDACBADBAblEBACBADBCblCCDCBDDDAblGBACBADDACBADCAhAFAEACCBCDBAFBAEACCBCDBAFBAEACCBC",
     "DBAFBPCBPDPAjPBbBCBbBDbCAEACCBCDBAFBACBADBAmDBAhBBcHCBcHDcHAbaFCbBCBbBDbHAfefGBACBADBAbeHB",
     "AfefABCfehOCACBADBAbiHBAiKBAiOBJCBJDJAfedOBAfedIBAfedMBAbkFBAbjNCCbjLDAbjFCAbjHBAbekjOEAbj",
     "LBAbekjGCAbjPBAbekmOBAbekfABAbekiICAbkDBAbkHBAbekiIBAfdoOBAbekiCDAbkHCAfdpKBAbkLDAbkNIAfdm",
     "ODAblFCAbekiGBAblFEAbekfEBAblFBAiLBCblDCAiPGAblHLAbekcKBAbekcEkHAkIAAoIAAdipCcLDCBDDFACBAD",
     "EEbaEEAoIHAeMCEeKEAiACChOCAdiiGBcAeABAhMDAmADAhCAAlIBAkJAAdieKBAkMCAfmPEAgMBAkACAdOAbAeADA",
     "fODAdkpKDAeNBEeLDAdigGBcAeBBAdMDAiADAdCAAhIBAoJAAdiaKBAgMCAgaPEAcMBAgABAdPAACBADAbAeBDAbOD",
     "AdklKDAiBBChPCAbABAhNAAdNBAhDAAdDAAeGEAfPAAbPBAgNAAcNBAbBBbHCBbHDbHAkNAAgNBAkBAAgBBAOBAoJB",
     "AlJAAhJAAeHBAmBAAiBCACBADBAPBACBADCEbaFDbOkAbAdOeACAdanMCAdanKKAdamIDCdamEBAdamGIAdalIGdOe",
     "BCAdajMCAdajKKAdaiIDCdaiEBAdaiGIAdahIGbOkBbAcBCBcBDBAdaeKBAdaeIcHdFCBdFDdFAbOBNCBNDNAbPBfP",
     "CBfPDgAeKgAdAeKgBldPeKdimAcHAdimAGAdimADfEbhiAcNEbhiAckDjObcpkAfAKbAIKbBiiIAdanNAAdajNBAda",
     "nLAAdajLBAdamJAAdaiJBCdamFACdaiFBACBAdamHAAdaiHAADBAdalJAAdahJBAdaeLAAdaeJBAbbdiEAAbbdiGBA",
     "CBADGfEbhiBcNEbhiBlMAbbeaIEAbnmMbBAbbehAhCjFCBjFDfPAhGBAhEdKAhHAAhFDAdlhPCfPCBfPDfPObAIObB",
     "IKbAIKbBIObAIObBIObAIObBIKbAIKbBJHbAIHbBHObAIObBICjECGkMECmICCbaACCoACCpMEObAIObBIObAIObBI",
     "ObAIObBICbADAbCFCbBCCjFCAbDCAdipDAAdieLAAdiaLFAbCFGkNEAbDECbADAdiiHFCbBCCmJGCbADAdigHCAODC",
     "bBCCoBCAPHAbCFCbaBCCpNCAbDbcKAdkpLAAdklLEAeblPAAebhPBAeamNAAeaiNHAdIbMAdJbCbOcAbAbOcBbDACB",
     "ADddCdCdEbKdCdFhdAfOgAdAfOgBdAACBADBAfdoPBAbnmNBAfdmPBAfefHBAfefBBFCBFDFAfedJBAfdpLBAfedPB",
     "AfedNCACBADCACBADICfehPCgDCBgDDgKDCBDDGACBADNeKdimBcHAdimBGAdimBhjbDcNCBcNDJAbbdiFBAbbdiHd",
     "FbLCBbLDkBNCBNDPdNCBdNDeGDCBDDDAbbeaJBJCBJDMACBADBAbekfBDDCBDDDAgACbDCBbDDbDAbekiJBAbekjPB",
     "AbekjHBAbekiDBAbekiJCAbekcFBAbekfFBAbekcLBAheABPCBPDPAgBBAbekiHBAbbehBBDCBDDDAbekmPBACBADD",
     "ACBADFFCBFDFAbemiDbJACBADdfNAheBbNjObcpkBepjFACBADebLdCeAcAdCeBelPeOfAcIeOfBiIeGfAcIeGfBjI",
     "bEeOMbMeObAMeOICeODbEePMbMePbAMePICePgmFgEiAeAgEiBjAcKeAcAcKeBldAdOeAcAdOeBffiAdOeAcAdOeBh",
     "kkAeCeEcCeCeF"]

end OrderedChoice.Unicode
