import OrderedChoice.Unicode.Packed

/-!
# Scripts

The script that each assigned character belongs to, as packed range lists.
-/

namespace OrderedChoice.Unicode

/-- **Ranges of each script**, by its full name in lower case without separators. -/
def scriptRanges : PackedTable := [
  ("adlam", ["bojaAeLEJEB"]),
  ("ahom", ["bbhaAbKCOEbG"]),
  ("anatolianhieroglyphs", ["beeaAceG"]),
  ("arabic",
    ["gaAEBFBNBCBbPBJLbJBgLBcBfAcPpAbOBBFeKBbMpcfAhCbAbgKCePCdFHAcAPhAEBiGpgDbOeDCdHDnpaADBbKBBB",
     "ACABJBDBABAGAEABABABCBBBACABABABABABBBACDBGBDBDBABJBbAFCBEBbAdEB"]),
  ("armenian", ["fdBcFCdBCCpfiDE"]),
  ("avestan", ["balaAdFDG"]),
  ("balinese", ["blaAeMBdB"]),
  ("bamum", ["kgkAfHmbaIcdI"]),
  ("bassavah", ["bgknAbNCF"]),
  ("batak", ["blmAdDID"]),
  ("bengali", ["jiADBHCBCbFBGBADDCICBCDIAEBBECbI"]),
  ("bhaiksuki", ["bbmaAIBcMBNKbM"]),
  ("bopomofo", ["coKBcobJcKhAbP"]),
  ("brahmi", ["bbaaAeNEcDJA"]),
  ("braille", ["ciaApP"]),
  ("buginese", ["bkaAbLCB"]),
  ("buhid", ["bheAbD"]),
  ("canadianaboriginal", ["beaAchPcdAeFbablKP"]),
  ("carian", ["backAdA"]),
  ("caucasianalbanian", ["bafdAdDLA"]),
  ("chakma", ["bbbaAdEBbB"]),
  ("cham", ["kkaAdGJNCJCD"]),
  ("cherokee", ["bdkAfFCFjhhCeP"]),
  ("chorasmian", ["baplAbL"]),
  ("common",
    ["AeAbKFbKcOBOBEbHAbPAbmBcGFECbDhEAJAGABAchNAGAOADAcAAjMAcaEAiBBenJAbjFDbcCAfoPCeHBmLBBAemNA",
     "NAHDBFBCCAdaFLCfGBKDKBObBcAdPcFBCCFBbKBbAcJCEcjJbGKbFdjPbaAchDCbPBgIcaAfNbjCbEBABbIPHEDfLB",
     "DAfKBjDPcAcFJAdAdPbPfAcPAfIkHbjmAdPfjaAcBgGCkFJpEAkAAbiLAOBfbnCBnAJbGcCBbCBDjDABbPbKFbKKKA",
     "cNBeAGBGKEbaCCEcMDIfAMdDcMoEbKljkEDpfMpJGblDjMhDdMpFKcGCdNDbAIBHbNEdMnFbDMbDMfGJbIiHfEBeGB",
     "BCACBCDBLBABGBeABDCHBGBbLBDBEBADGBbfDCbcDCdBbehBeDeMdMcmCcLEgDMOCOBOBcEKkNdIbJBBNcLEIHBOFj",
     "KdnHEbADMDhGEfOGLEAPLEdHIJGcHIbNCLEBdObfDMNCMDJFdHHOCKGIHjCBgFmaeaHAbOfP"]),
  ("coptic", ["doCNcijAhDFG"]),
  ("cuneiform", ["bcaaAdjJgGgOBELmD"]),
  ("cypriot", ["baiaAFCABcLBBDACA"]),
  ("cyprominoan", ["bcpjAgC"]),
  ("cyrillic", ["eaAiECkIbhfAKkAAeMAbagHbPhieAfPfhiOBocaAdNcBA"]),
  ("deseret", ["baeaAeP"]),
  ("devanagari", ["jaAfAEOCbJjpgAbPhcaAJ"]),
  ("divesakuru", ["bbjaAGCACHBBBbNBBCLJJ"]),
  ("dogra", ["bbiaAdL"]),
  ("duployan", ["blmaAgKFMDIHJCD"]),
  ("egyptianhieroglyphs", ["bdaaAefFKpjK"]),
  ("elbasan", ["bafaAcH"]),
  ("elymaic", ["bapoAbG"]),
  ("ethiopic",
    ["bcaAeIBDCGBABDCcIBDCcABDCGBABDCOBdIBDCeCCbPDbJbjoGbGJGBGBGBGBGBGBGBGhncCFCFCFJGBGbdmlBGBDB",
     "BBO"]),
  ("garay", ["baneAcFDbMIB"]),
  ("georgian", ["bakAcFBAFACcKBDljAcKCCbaeAcFBAFA"]),
  ("glagolitic", ["cmaAfPbldkAGBbACGBBBE"]),
  ("gothic", ["baddAbK"]),
  ("grantha", ["bbdaADBHCBCbFBGBBBECICBCCCAGAFGCGDE"]),
  ("greek",
    ["dhADBCCDBAEABABCBABbDBdOOPbjcGEdCEEEfEAbeAbFCFCcFCFCHBABABABbOCdEBOBNCFBbCCCBIbcHAikdOAffn",
     "KeObBAnafPeF"]),
  ("gujarati", ["kiBCBIBCBbFBGBBBECJBCBCCAPDCLHG"]),
  ("gunjalagondi", ["bbngAFBBBcEBBBFHJ"]),
  ("gurmukhi", ["kaBCBFEBCbFBGBBBBBBCABEEBCCDAHDBAHbA"]),
  ("gurungkhema", ["bgbaAdJ"]),
  ("han",
    ["coiAbJBfIMnFcPABAbJIODdmEbjlPeAfbpPfjaAbgNCgJhfaIBMBjaaOkgnPcAbadJGnNCbgiBObndAPcgNjkCcbNf",
     "oCbdeKFbafP"]),
  ("hangul", ["bbaApPbocOBbaBfNhBbOeBbOhgoBbMciDclkDMbGEdAchkEbODFCFCFCC"]),
  ("hanifirohingya", ["banaAcHIJ"]),
  ("hanunoo", ["bhcAbE"]),
  ("hatran", ["baioAbCBBFE"]),
  ("hebrew", ["fjBdGIbKEFpfcIbJBEBABBBBBJ"]),
  ("hiragana", ["daeBfFGCbhpgBbbObCAbNCeakNA"]),
  ("imperialaramaic", ["baieAbFBI"]),
  ("inherited",
    ["daAgPbbFBbmEKbKAcoADbbfLbOcaBCBMBGEAGADBmGdPcaMBmCcApdJDgLBmngFPbANdmPAoCAbafKAllmEcNCbGcc",
     "ACbBHCGbODmcpfCoP"]),
  ("inscriptionalpahlavi", ["balgAbCFH"]),
  ("inscriptionalparthian", ["baleAbFCH"]),
  ("javanese", ["kjiAeNCJEB"]),
  ("kaithi", ["bbaiAeCKA"]),
  ("kannada", ["miAMBCBbGBJBECIBCBDHBGBBDCJBC"]),
  ("katakana", ["dakBfJCCpAPnAcOBfHmmaOJBcMlafCDBGBBBAbbPCdCAOD"]),
  ("kawi", ["bbpaAbABcIDbM"]),
  ("kayahli", ["kjaAcNBA"]),
  ("kharoshthi", ["bakaADBBFHBCBbMCCEJHI"]),
  ("khitansmallscript", ["bgpoEAblbLbnFcJA"]),
  ("khmer", ["bhiAfNCJGJboGbP"]),
  ("khojki", ["bbcaAbBBcO"]),
  ("khudawadi", ["bbclAdKFJ"]),
  ("kiratrai", ["bgneAdJ"]),
  ("lao", ["oiBBBABEBbHBABbGCEBABGBJCD"]),
  ("latin",
    ["eBbJGbJcPAPAFbGBbOBbmAcHEbkbLcFGdAFDFMBeFeBpPbhBANAbAMiNBGAbLAbBcIknHbPhkkCgFDeCCBBABHbFNd",
     "dAcKBIBDepjGGebKbJGbJicFFBcJBInheFbOGF"]),
  ("lepcha", ["bmaAdHDODC"]),
  ("limbu", ["bjaAbOBLELEADL"]),
  ("lineara", ["bagaAbdGJbFKH"]),
  ("linearb", ["baaaALBbJBbCBBBOCNcChK"]),
  ("lisu", ["kenAcPhklAA"]),
  ("lycian", ["baciAbM"]),
  ("lydian", ["bajcAbJFA"]),
  ("mahajani", ["bbbfAcG"]),
  ("makasar", ["bbooAbI"]),
  ("malayalam", ["naAMBCBdCBCBFEPCbJ"]),
  ("mandaic", ["ieAbLCA"]),
  ("manichaean", ["bakmAcGEL"]),
  ("marchen", ["bbmhAbPCbFBN"]),
  ("masaramgondi", ["bbnaAGBBBcLDABBBIIJ"]),
  ("medefaidrin", ["bgoeAfK"]),
  ("meeteimayek", ["kkoAbGmJcNCJ"]),
  ("mendekikakui", ["boiaAmECP"]),
  ("meroiticcursive", ["bajkAbHEbDCcN"]),
  ("meroitichieroglyphs", ["bajiAbP"]),
  ("miao", ["bgpaAeKEdIHbA"]),
  ("modi", ["bbgaAeELJ"]),
  ("mongolian", ["biaABCABbDGfIHcKpnlFM"]),
  ("mro", ["bgkeAbOBJEB"]),
  ("multani", ["bbciAGBABDBOBK"]),
  ("myanmar", ["baaAjPjjeAbOgBbPgmfAbD"]),
  ("nabataean", ["baiiAbOII"]),
  ("nagmundari", ["boenAcJ"]),
  ("nandinagari", ["bbjkAHCcNCK"]),
  ("newtailue", ["bjiAcLEbJGKDB"]),
  ("newa", ["bbeaAfLBE"]),
  ("nko", ["hmAdKCC"]),
  ("nushu", ["bgpoBAebiObiL"]),
  ("nyiakengpuachuehmong", ["bobaAcMDNCJEB"]),
  ("ogham", ["bgiAbM"]),
  ("olchiki", ["bmfAcP"]),
  ("olonal", ["bofnAcKEA"]),
  ("oldhungarian", ["bamiAdCNdCHF"]),
  ("olditalic", ["badaAcDJC"]),
  ("oldnortharabian", ["bakiAbP"]),
  ("oldpermic", ["badfAcK"]),
  ("oldpersian", ["badkAcDEN"]),
  ("oldsogdian", ["bapaAcH"]),
  ("oldsoutharabian", ["bakgAbP"]),
  ("oldturkic", ["bamaAeI"]),
  ("olduyghur", ["baphAbJ"]),
  ("oriya", ["laBCBHCBCbFBGBBBECICBCCHCEBBECbB"]),
  ("osage", ["baelAcDEcD"]),
  ("osmanya", ["baeiAbNCJ"]),
  ("pahawhhmong", ["bglaAeFKJBGBbEFbC"]),
  ("palmyrene", ["baigAbP"]),
  ("paucinhau", ["bbkmAdI"]),
  ("phagspa", ["kieAdH"]),
  ("phoenician", ["bajaAbLDA"]),
  ("psalterpahlavi", ["baliAbBHDMG"]),
  ("rejang", ["kjdAcDLA"]),
  ("runic", ["bgkAeKDK"]),
  ("samaritan", ["iaAcNCO"]),
  ("saurashtra", ["kiiAeFIL"]),
  ("sharada", ["bbbiAfP"]),
  ("shavian", ["baefAcP"]),
  ("siddham", ["bbfiAdFCcF"]),
  ("signwriting", ["bniaAciLPEBO"]),
  ("sinhala", ["niBCBbBDbHBIBACGDAEFBABHGJCCbadoMbD"]),
  ("sogdian", ["bapdAcJ"]),
  ("sorasompeng", ["bbanAbIHJ"]),
  ("soyombo", ["bbkfAfC"]),
  ("sundanese", ["bliAdPbaAH"]),
  ("sunuwar", ["bblmAcBOJ"]),
  ("sylotinagri", ["kiaAcM"]),
  ("syriac", ["haANBdLCCbbAK"]),
  ("tagalog", ["bhaAbFJA"]),
  ("tagbanwa", ["bhgAMBCBB"]),
  ("taile", ["bjfAbNCE"]),
  ("taitham", ["bkcAdOBbMCKGJGN"]),
  ("taiviet", ["kkiAeCbIE"]),
  ("takri", ["bbgiAdJGJ"]),
  ("tamil", ["liCBBFDCBDDBBABBDBDCDLEEDCBDCAGAObEbbdmFdBNA"]),
  ("tangsa", ["bgkhAeOBJ"]),
  ("tangut", ["bgpoAAbPbhpHIcpPcaAI"]),
  ("telugu", ["maAMBCBbGBPCIBCBDHBBCCACDCJHI"]),
  ("thaana", ["hiAdB"]),
  ("thai", ["oaBdJFbL"]),
  ("tibetan", ["paAeHBcDEcGBcDBOBGEB"]),
  ("tifinagh", ["cndAdHHBOA"]),
  ("tirhuta", ["bbeiAeHIJ"]),
  ("todhri", ["bafmAdD"]),
  ("toto", ["bocjAbO"]),
  ("tulutigalari", ["bbdiAJBACABcFBJBACABDBJBBIB"]),
  ("ugaritic", ["badiAbNBA"]),
  ("vai", ["kfaAbcL"]),
  ("vithkuqi", ["bafhAKBOBGBBBKBOBGBB"]),
  ("wancho", ["bocmAdJFA"]),
  ("warangciti", ["bbikAfCMA"]),
  ("yezidi", ["baoiAcJBCCB"]),
  ("yi", ["kaaAeiMDdG"]),
  ("zanabazarsquare", ["bbkaAeH"])
]

/-- **Short script names** and the full names that they stand for. -/
def scriptNames : List (String × String) := [
  ("adlm", "adlam"), ("aghb", "caucasianalbanian"), ("arab", "arabic"),
  ("armi", "imperialaramaic"), ("armn", "armenian"), ("avst", "avestan"), ("bali", "balinese"),
  ("bamu", "bamum"), ("bass", "bassavah"), ("batk", "batak"), ("beng", "bengali"),
  ("bhks", "bhaiksuki"), ("bopo", "bopomofo"), ("brah", "brahmi"), ("brai", "braille"),
  ("bugi", "buginese"), ("buhd", "buhid"), ("cakm", "chakma"), ("cans", "canadianaboriginal"),
  ("cari", "carian"), ("cher", "cherokee"), ("chrs", "chorasmian"), ("copt", "coptic"),
  ("cpmn", "cyprominoan"), ("cprt", "cypriot"), ("cyrl", "cyrillic"), ("deva", "devanagari"),
  ("diak", "divesakuru"), ("dogr", "dogra"), ("dsrt", "deseret"), ("dupl", "duployan"),
  ("egyp", "egyptianhieroglyphs"), ("elba", "elbasan"), ("elym", "elymaic"),
  ("ethi", "ethiopic"), ("gara", "garay"), ("geor", "georgian"), ("glag", "glagolitic"),
  ("gong", "gunjalagondi"), ("gonm", "masaramgondi"), ("goth", "gothic"), ("gran", "grantha"),
  ("grek", "greek"), ("gujr", "gujarati"), ("gukh", "gurungkhema"), ("guru", "gurmukhi"),
  ("hang", "hangul"), ("hani", "han"), ("hano", "hanunoo"), ("hatr", "hatran"),
  ("hebr", "hebrew"), ("hira", "hiragana"), ("hluw", "anatolianhieroglyphs"),
  ("hmng", "pahawhhmong"), ("hmnp", "nyiakengpuachuehmong"), ("hung", "oldhungarian"),
  ("ital", "olditalic"), ("java", "javanese"), ("kali", "kayahli"), ("kana", "katakana"),
  ("khar", "kharoshthi"), ("khmr", "khmer"), ("khoj", "khojki"), ("kits", "khitansmallscript"),
  ("knda", "kannada"), ("krai", "kiratrai"), ("kthi", "kaithi"), ("lana", "taitham"),
  ("laoo", "lao"), ("latn", "latin"), ("lepc", "lepcha"), ("limb", "limbu"), ("lina", "lineara"),
  ("linb", "linearb"), ("lyci", "lycian"), ("lydi", "lydian"), ("mahj", "mahajani"),
  ("maka", "makasar"), ("mand", "mandaic"), ("mani", "manichaean"), ("marc", "marchen"),
  ("medf", "medefaidrin"), ("mend", "mendekikakui"), ("merc", "meroiticcursive"),
  ("mero", "meroitichieroglyphs"), ("mlym", "malayalam"), ("mong", "mongolian"), ("mroo", "mro"),
  ("mtei", "meeteimayek"), ("mult", "multani"), ("mymr", "myanmar"), ("nagm", "nagmundari"),
  ("nand", "nandinagari"), ("narb", "oldnortharabian"), ("nbat", "nabataean"), ("nkoo", "nko"),
  ("nshu", "nushu"), ("ogam", "ogham"), ("olck", "olchiki"), ("onao", "olonal"),
  ("orkh", "oldturkic"), ("orya", "oriya"), ("osge", "osage"), ("osma", "osmanya"),
  ("ougr", "olduyghur"), ("palm", "palmyrene"), ("pauc", "paucinhau"), ("perm", "oldpermic"),
  ("phag", "phagspa"), ("phli", "inscriptionalpahlavi"), ("phlp", "psalterpahlavi"),
  ("phnx", "phoenician"), ("plrd", "miao"), ("prti", "inscriptionalparthian"),
  ("qaac", "coptic"), ("qaai", "inherited"), ("rjng", "rejang"), ("rohg", "hanifirohingya"),
  ("runr", "runic"), ("samr", "samaritan"), ("sarb", "oldsoutharabian"), ("saur", "saurashtra"),
  ("sgnw", "signwriting"), ("shaw", "shavian"), ("shrd", "sharada"), ("sidd", "siddham"),
  ("sind", "khudawadi"), ("sinh", "sinhala"), ("sogd", "sogdian"), ("sogo", "oldsogdian"),
  ("sora", "sorasompeng"), ("soyo", "soyombo"), ("sund", "sundanese"), ("sunu", "sunuwar"),
  ("sylo", "sylotinagri"), ("syrc", "syriac"), ("tagb", "tagbanwa"), ("takr", "takri"),
  ("tale", "taile"), ("talu", "newtailue"), ("taml", "tamil"), ("tang", "tangut"),
  ("tavt", "taiviet"), ("telu", "telugu"), ("tfng", "tifinagh"), ("tglg", "tagalog"),
  ("thaa", "thaana"), ("tibt", "tibetan"), ("tirh", "tirhuta"), ("tnsa", "tangsa"),
  ("todr", "todhri"), ("tutg", "tulutigalari"), ("ugar", "ugaritic"), ("vaii", "vai"),
  ("vith", "vithkuqi"), ("wara", "warangciti"), ("wcho", "wancho"), ("xpeo", "oldpersian"),
  ("xsux", "cuneiform"), ("yezi", "yezidi"), ("yiii", "yi"), ("zanb", "zanabazarsquare"),
  ("zinh", "inherited"), ("zyyy", "common")
]

end OrderedChoice.Unicode
