import OrderedChoice.Unicode.Packed

/-!
# Script extensions

The scripts whose extension, the characters used with the script, differs from the script itself.
-/

namespace OrderedChoice.Unicode

/-- **Ranges of each script extension** that is not the script itself, by the full script name. -/
def extensionRanges : PackedTable := [
  ("adlam", ["gbPAcAAbkaOAnpBAblklOeLEJEB"]),
  ("arabic",
    ["gaAEBnGBcBfAcPpAbOBBFeKBbMbhePAnpBAmnaOhCbAblMCdFHAcAPhAEBiGdoDbLlgEbOeDCdHDnpaADBbKBBBACA",
     "BJBDBABAGAEABABABCBBBACABABABABABBBACDBGBDBDBABJBbAFCBEBbAdEB"]),
  ("armenian", ["daIAccIcFCdBCCpfiDE"]),
  ("avestan", ["lHAcnhIBnmmOdFDG"]),
  ("bengali", ["clMAgjEBbBBbKDBHCBCbFBGBADDCICBCDIAEBBECbIbcnBABACBBAIAIACAEACCilpJA"]),
  ("bopomofo", ["cmHABCNAbABcnbFCEJBMKDCAGAmDAJcKhAbPmmiFBbbKE"]),
  ("buginese", ["bkaAbLCBipkPA"]),
  ("buhid", ["bhdFBJbD"]),
  ("carian", ["lHAbpkCACAnnDAnegOdA"]),
  ("caucasianalbanian", ["daEAcMAcMAbabnBdDLA"]),
  ("chakma", ["joGJgfAJbaalGdEBbB"]),
  ("cherokee", ["daACBAGBbGBLBbagOfFCFjhhCeP"]),
  ("common",
    ["AeAbKFbKcOBLBBBEbHAbPAbmBCBJBADABIBABFFECbDhOAGABAchNAnHAcaEAffMAbjFDbacHLCcABbOBJBBBGBKDK",
     "BObBcAdPcFBCCFBbKBbAcJCEcjJbGKbFdjPbaAchDCbPBgIcaAbGBbHCJBDBABbJbkCADANANAbFAcbBbHbPAdBOMD",
     "kBJFfPbPAbjmAdPfjaIbJgGCdnAAOBfckEJbGbECLBbCBDjDABbPbKFbKFhPGBGKEbjCMdDcMmkaDpJGblDjMhDdMp",
     "FKcGCdNDbAIBHbNEdMnFbDMbDMfGbLGiHfEBeGBBCACBCDBLBABGBeABDCHBGBbLBDBEBADGBbfDCbcDCdBbehBeDe",
     "MdMcmCcLEgDMOCOBOBcEKkNdIbJBBNcLEIbHFjKdnHEbADMDhGEfOGLEAPLEdHIJGcHIbNCLEBdObfDMNCMDJFdHHO",
     "CKGIHjCBgFmaeaHAbOfP"]),
  ("coptic", ["lHAceIADBBAgMBgMNcijAhDFGbbHAnemIbL"]),
  ("cypriot", ["babaACEcMDIgmAFCABcLBBDACA"]),
  ("cyprominoan", ["babaABcoiOgC"]),
  ("cyrillic", ["clMAeDCBABABACAFAoObcPbhfAKkAAeMAhPApoHbPeDAhhpMfPfhiOBocaAdNcBA"]),
  ("devanagari", ["clMAgeDfCCcKbdfAcGBBdpGAihdPJkGbPhcaAJ"]),
  ("dogra", ["jgELjomAJgpmGdL"]),
  ("duployan", ["lHAcePBBAbIBclbHAbinmDgKFMDIHJCH"]),
  ("elbasan", ["lHAceNAbabpKcH"]),
  ("ethiopic",
    ["daOAopBeIBDCGBABDCcIBDCcABDCGBABDCOBdIBDCeCCbPDbJbjoGbGJGBGBGBGBGBGBGBGhncCFCFCFJGBGbdmlBG",
     "BDBBBO"]),
  ("garay", ["gaMAOADAbahcAcFDbMIB"]),
  ("georgian", ["lHAenBAlbGcFBAFACcPljAcKCCdjKAmkFcFBAFAbaDA"]),
  ("glagolitic", ["lHAceLABAbhOACAbaBAlhBApfOAlkFfPboDAhicLAbdjjAGBbACGBBBE"]),
  ("gothic", ["lHAceMBCAcIApppObK"]),
  ("grantha", ["jfBBbBBciANbanMABBbOCDBdpGApcaPDBHCBCbFBGBBBEBJCBCCCAGAFGCGDEmfLBBA"]),
  ("greek",
    ["lHAceIBCABABAKAcOACAcKHCDBAEABABCBABbDBdOOPbjcGEdCEEEfECbdObFCFCcFCFCHBABABABbOCdEBOBNCFBb",
     "CCCBIfOAmIAikdOAffnKeObBAnafPeF"]),
  ("gujarati", ["jfBBbBBbbLCBIBCBbFBGBBBECJBCBCCAPDCLHGjndAJ"]),
  ("gunjalagondi", ["lHAikMBbbdpKFBBBcEBBBFHJ"]),
  ("gurmukhi", ["jfBBbBBjLCBFEBCbFBGBBBBBBCABEEBCCDAHDBAHbAjnlJJ"]),
  ("gurungkhema", ["jgFAbfhjKdJ"]),
  ("han",
    ["lHAcnmIbJBfIMnFbKPBCBMBMBMCAGIlLAjEPcAcFJAdAcHdIdAPLdDAfIbIKEgAbOBbjlPeAfbpPhaAHfbpIbgNCgJ",
     "dgLBbbKEhahMBMBgdgObBbonOBnkOkgnPcAbadJGnNCbgiBObndAPcgNjkCcbNfoCbdeKFbafP"]),
  ("hangul", ["bbaApPboaBCEJBMOCGAmDAdFfNhBbOeBbOhgoBbMciDclkDMbGEdAcgeJBbbKEdKbODFCFCFCC"]),
  ("hanifirohingya", ["gaMAOADAcAAjDAbagcLcHIJ"]),
  ("hanunoo", ["bhcAbG"]),
  ("hebrew", ["daHBciIdGIbKEFpfcIbJBEBABBBBBJ"]),
  ("hiragana", ["daaBCEJBMbAFBAEBDfFCHfKBmneIBbbKEKAcNBlagBbbObCAbNCeakNA"]),
  ("inherited",
    ["daPACABLBBDGCACPBBBbBBEBDfpABbbfLbOcpDdFBABEcaMBmCbPnnbAPbANdmPAmnaCcNCbGccACbBHCGbODmcpfC",
     "oP"]),
  ("javanese", ["kjiAeNBKEB"]),
  ("kaithi", ["jgGJcemBAhjpOJgieGeCKA"]),
  ("kannada", ["jfBBbBBdbKMBCBbGBJBECIBCBDHBGBBDCJBCpnMABBGAbHABAildLF"]),
  ("katakana", ["daFAbNAcmnNCEJBMbAFBAEBfLDDfPpAPnAcOBfHmkoNBbbKdOlafADBGBBBAbbPCdCAOD"]),
  ("kayahli", ["kjaAcP"]),
  ("khojki", ["koGJjneAJgjmGbBBcO"]),
  ("khudawadi", ["jgEBjomKJgkhGdKFJ"]),
  ("latin",
    ["eBbJGbJcPAMACAFbGBbOBbmADAKABCBAJABAGEbLOBBBAMACCHBBBcGAFAEMbbFBemKBhkIAmaEcFGdAFDFMBeFdJA",
     "HpPbcPAeBANAbAMfDAdJBGAbLAbBcIknHbPbjHAhioIHbKgFDeCCBBABHbFNbcOAcaBcKBIBDepjGGebKbJGbJicFF",
     "BcJBInheFbOGF"]),
  ("limbu", ["jgFApjKbOBLELEADL"]),
  ("lineara", ["babaHcMemMbdGJbFKH"]),
  ("linearb", ["baaaALBbJBbCBBBOCNcChKFCEcMDI"]),
  ("lisu", ["clMAbAAcndMBhemEcPhklAA"]),
  ("lycian", ["cafKAoccFbM"]),
  ("lydian", ["lHAcnhJAnkoObJFA"]),
  ("mahajani", ["lHAikMLjomAJgjbGcG"]),
  ("malayalam", ["jfBBbBBdjKMBCBdCBCBFEPCbJpfKAbHAildNC"]),
  ("mandaic", ["geAAbpPbLCA"]),
  ("manichaean", ["geAAbaehPcGEL"]),
  ("masaramgondi", ["jgEBbbdjKGBBBcLDABBBIIJ"]),
  ("meroitichieroglyphs", ["cafNAojcCbP"]),
  ("modi", ["kidAJgnmGeELJ"]),
  ("mongolian", ["biaAbJGfIHcKhiEApnBBFDogfEM"]),
  ("multani", ["kgGJbaibAGBABDBOBK"]),
  ("myanmar", ["baaAjPjiiOAlBbOgBbPgmfAbD"]),
  ("nandinagari", ["jgEBdiAJppJAIAHAildFFhbgKHCcNCK"]),
  ("nko", ["gaMAOADAbkAdKCCpfdOB"]),
  ("olonal", ["jgEBbnmgKcKEA"]),
  ("oldhungarian", ["cafKACAnnDAPAnodOdCNdCHF"]),
  ("oldpermic", ["lHAceIAFCKAbgPApomMcK"]),
  ("oldturkic", ["cafKAnnFAnnmPeI"]),
  ("olduyghur", ["geAAbaelBAehNbJ"]),
  ("oriya", ["jfBBbBBbjLCBHCBCbFBGBBBECICBCCHCEBBECbBbbgCAbHA"]),
  ("osage", ["daBACAGAeMAbabfHcDEcD"]),
  ("phagspa", ["biaCBBAicJApnCAhidNdH"]),
  ("psalterpahlavi", ["geAAbafdPbBHDMG"]),
  ("runic", ["bgkAfI"]),
  ("samaritan", ["iaAcNCOcfpCA"]),
  ("sharada", ["jfBAbdiFABACBCAilePFCAgjeHfP"]),
  ("shavian", ["lHAbadjIcP"]),
  ("sinhala", ["jgEBebLCBbBDbHBIBACGDAEFBABHGJCCopNApeoObD"]),
  ("sogdian", ["geAAbaioPcJ"]),
  ("sunuwar", ["daABBAJACAbMADAbbiiOcBOJ"]),
  ("sylotinagri", ["jgEBiAJjobAcM"]),
  ("syriac", ["daDBCBBAbFACCHBBAcnLAOBCAcAAKKbKAiPNBdLCCbbAKbfiNABA"]),
  ("tagalog", ["bhaAbFJAbFB"]),
  ("tagbanwa", ["bhdFBcJMBCBB"]),
  ("taile", ["daABFBDAndDJjaGbNCE"]),
  ("takri", ["jgEBjomKJgoeGdJGJ"]),
  ("tamil", ["jfBBbBBcbMBBFDCBDDBBABBDBDCDLEEDCBDCAGAObEbanPAimbIAgkaNABAdHBmiDdBNA"]),
  ("tangut", ["cppAPboPAbdnpAAbPbhpHIcpPcaAI"]),
  ("telugu", ["jfBBbBBcjKMBCBbGBPCIBCBDHBBCCACDCJHIbafKAbHA"]),
  ("thaana", ["gaMAOBCAeAJbbGdBpgeAAKA"]),
  ("thai", ["clMAbKAcLAcNAkmPdJFbL"]),
  ("tibetan", ["paAeHBcDEcGBcDBOBGEBcacND"]),
  ("tifinagh", ["daCABACABAckcGdHHBOA"]),
  ("tirhuta", ["jfBBbBBbdiMAildNJgmeGeHIJ"]),
  ("todhri", ["daBACACAJABAeKAbacgBdD"]),
  ("toto", ["clMAbnpnDbO"]),
  ("tulutigalari", ["moGJbaaCABAildLFlLAgkiOJBACABcFBJBACABDBJBBIB"]),
  ("yezidi", ["gaMAOADAeAJbaibGcJBCCB"]),
  ("yi", ["daaBBFJCHnPAgpaEeiMDdGfkjKE"])
]

end OrderedChoice.Unicode
