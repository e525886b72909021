import MarkupOrder.Unicode.Script.Table

/-!
# Characters of several scripts

A character is used with the script that it belongs to, unless the standard lists the scripts that
it is used with.

* `scriptExtensions`: the listed characters, by the codes of their scripts.
* `Script.uses`: whether a character is used with a script.
-/

namespace MarkupOrder.Unicode

/-- The characters whose scripts are listed, with the codes of these scripts. -/
def scriptExtensions : List (List String × CodeRanges) :=
  [(["Avst", "Cari", "Copt", "Dupl", "Elba", "Geor", "Glag", "Goth", "Grek", "Gong", "Hani",
     "Latn", "Lydi", "Mahj", "Perm", "Shaw"],
    [(0xB7, 0xB7)]),
   (["Beng", "Cyrl", "Deva", "Latn", "Lisu", "Thai", "Toto"], [(0x2BC, 0x2BC)]),
   (["Bopo", "Latn"], [(0x2C7, 0x2C7), (0x2C9, 0x2CB), (0x2D9, 0x2D9)]),
   (["Latn", "Lisu"], [(0x2CD, 0x2CD)]),
   (["Latn", "Thai"], [(0x2D7, 0x2D7)]),
   (["Cher", "Copt", "Cyrl", "Grek", "Latn", "Perm", "Sunu", "Tale"], [(0x300, 0x300)]),
   (["Cher", "Cyrl", "Grek", "Latn", "Osge", "Sunu", "Tale", "Todr"], [(0x301, 0x301)]),
   (["Cher", "Cyrl", "Latn", "Tfng"], [(0x302, 0x302)]),
   (["Glag", "Latn", "Sunu", "Syrc", "Thai"], [(0x303, 0x303)]),
   (["Aghb", "Cher", "Copt", "Cyrl", "Goth", "Grek", "Latn", "Osge", "Syrc", "Tfng", "Todr"],
    [(0x304, 0x304)]),
   (["Copt", "Elba", "Glag", "Goth", "Kana", "Latn"], [(0x305, 0x305)]),
   (["Cyrl", "Grek", "Latn", "Perm", "Tfng"], [(0x306, 0x306)]),
   (["Copt", "Dupl", "Hebr", "Latn", "Perm", "Syrc", "Tale", "Tfng", "Todr"], [(0x307, 0x307)]),
   (["Armn", "Cyrl", "Dupl", "Goth", "Grek", "Hebr", "Latn", "Perm", "Syrc", "Tale", "Tfng"],
    [(0x308, 0x308)]),
   (["Latn", "Tfng"], [(0x309, 0x309)]),
   (["Dupl", "Latn", "Syrc"], [(0x30A, 0x30A)]),
   (["Cher", "Cyrl", "Latn", "Osge"], [(0x30B, 0x30B)]),
   (["Cher", "Latn", "Tale"], [(0x30C, 0x30C)]),
   (["Latn", "Sunu"], [(0x30D, 0x30D), (0x310, 0x310)]),
   (["Ethi", "Latn"], [(0x30E, 0x30E)]),
   (["Cyrl", "Latn", "Todr"], [(0x311, 0x311)]),
   (["Grek", "Latn", "Perm", "Todr"], [(0x313, 0x313)]),
   (["Cher", "Dupl", "Kana", "Latn", "Syrc", "Tfng"], [(0x323, 0x323)]),
   (["Cher", "Dupl", "Latn", "Syrc"], [(0x324, 0x324)]),
   (["Latn", "Syrc"], [(0x325, 0x325), (0x32E, 0x32E)]),
   (["Latn", "Sunu", "Syrc"], [(0x32D, 0x32D)]),
   (["Cher", "Latn", "Syrc"], [(0x330, 0x330)]),
   (["Aghb", "Cher", "Goth", "Latn", "Sunu", "Syrc", "Thai"], [(0x331, 0x331)]),
   (["Grek"], [(0x342, 0x342), (0x345, 0x345), (0x1DC0, 0x1DC1)]),
   (["Latn", "Osge"], [(0x358, 0x358)]),
   (["Aghb", "Latn", "Todr"], [(0x35E, 0x35E)]),
   (["Latn"], [(0x363, 0x36F)]),
   (["Copt", "Grek"], [(0x374, 0x375)]),
   (["Cyrl", "Perm"], [(0x483, 0x483)]),
   (["Cyrl", "Glag"], [(0x484, 0x484), (0x487, 0x487), (0x2E43, 0x2E43), (0xA66F, 0xA66F)]),
   (["Cyrl", "Latn"], [(0x485, 0x486)]),
   (["Armn", "Geor", "Glag"], [(0x589, 0x589)]),
   (["Arab", "Gara", "Rohg", "Nkoo", "Syrc", "Thaa", "Yezi"], [(0x60C, 0x60C), (0x61B, 0x61B)]),
   (["Arab", "Syrc", "Thaa"], [(0x61C, 0x61C)]),
   (["Adlm", "Arab", "Gara", "Rohg", "Nkoo", "Syrc", "Thaa", "Yezi"], [(0x61F, 0x61F)]),
   (["Adlm", "Arab", "Rohg", "Mand", "Mani", "Ougr", "Phlp", "Sogd", "Syrc"], [(0x640, 0x640)]),
   (["Arab", "Syrc"], [(0x64B, 0x655), (0x670, 0x670)]),
   (["Arab", "Thaa", "Yezi"], [(0x660, 0x669)]),
   (["Arab", "Rohg"], [(0x6D4, 0x6D4)]),
   (["Beng", "Deva", "Gran", "Gujr", "Guru", "Knda", "Latn", "Mlym", "Nand", "Newa", "Orya",
     "Shrd", "Taml", "Telu", "Tirh"],
    [(0x951, 0x951)]),
   (["Beng", "Deva", "Gran", "Gujr", "Guru", "Knda", "Latn", "Mlym", "Newa", "Orya", "Taml",
     "Telu", "Tirh"],
    [(0x952, 0x952)]),
   (["Beng", "Deva", "Dogr", "Gran", "Gujr", "Gong", "Guru", "Knda", "Sind", "Mahj", "Mlym",
     "Gonm", "Nand", "Onao", "Orya", "Sinh", "Sylo", "Takr", "Taml", "Telu", "Tirh"],
    [(0x964, 0x964)]),
   (["Beng", "Deva", "Dogr", "Gran", "Gujr", "Gong", "Guru", "Gukh", "Knda", "Sind", "Limb",
     "Mahj", "Mlym", "Gonm", "Nand", "Onao", "Orya", "Sinh", "Sylo", "Takr", "Taml", "Telu",
     "Tirh"],
    [(0x965, 0x965)]),
   (["Deva", "Dogr", "Kthi", "Mahj"], [(0x966, 0x96F)]),
   (["Beng", "Cakm", "Sylo"], [(0x9E6, 0x9EF)]),
   (["Guru", "Mult"], [(0xA66, 0xA6F)]),
   (["Gujr", "Khoj"], [(0xAE6, 0xAEF)]),
   (["Gran", "Taml"],
    [(0xBE6, 0xBF3), (0x11301, 0x11301), (0x11303, 0x11303), (0x1133B, 0x1133C),
     (0x11FD0, 0x11FD1), (0x11FD3, 0x11FD3)]),
   (["Knda", "Nand", "Tutg"], [(0xCE6, 0xCEF)]),
   (["Cakm", "Mymr", "Tale"], [(0x1040, 0x1049)]),
   (["Geor", "Glag", "Latn"], [(0x10FB, 0x10FB)]),
   (["Runr"], [(0x16EB, 0x16ED)]),
   (["Buhd", "Hano", "Tglg", "Tagb"], [(0x1735, 0x1736)]),
   (["Mong", "Phag"], [(0x1802, 0x1803), (0x1805, 0x1805)]),
   (["Beng", "Deva", "Gran", "Knda"], [(0x1CD0, 0x1CD0), (0x1CD2, 0x1CD2)]),
   (["Deva"],
    [(0x1CD1, 0x1CD1), (0x1CD4, 0x1CD4), (0x1CDB, 0x1CDB), (0x1CDE, 0x1CDF), (0x1CE3, 0x1CE8),
     (0x1CEC, 0x1CEC), (0x1CEE, 0x1CF1)]),
   (["Deva", "Gran", "Knda"], [(0x1CD3, 0x1CD3)]),
   (["Beng", "Deva", "Newa", "Telu", "Tirh"], [(0x1CD5, 0x1CD5)]),
   (["Beng", "Deva", "Telu"], [(0x1CD6, 0x1CD6)]),
   (["Deva", "Newa", "Shrd"], [(0x1CD7, 0x1CD7)]),
   (["Beng", "Deva", "Newa", "Telu"], [(0x1CD8, 0x1CD8)]),
   (["Deva", "Shrd"], [(0x1CD9, 0x1CD9), (0x1CDC, 0x1CDD), (0x1CE0, 0x1CE0)]),
   (["Deva", "Knda", "Mlym", "Orya", "Taml", "Telu"], [(0x1CDA, 0x1CDA)]),
   (["Beng", "Deva"], [(0x1CE1, 0x1CE1), (0x1CF5, 0x1CF6)]),
   (["Deva", "Newa", "Tirh"], [(0x1CE2, 0x1CE2)]),
   (["Deva", "Nand", "Newa"], [(0x1CE9, 0x1CE9)]),
   (["Beng", "Deva", "Shrd"], [(0x1CEA, 0x1CEA)]),
   (["Deva", "Newa"], [(0x1CEB, 0x1CEB)]),
   (["Beng", "Deva", "Newa", "Shrd"], [(0x1CED, 0x1CED)]),
   (["Beng", "Deva", "Gran", "Knda", "Mlym", "Nand", "Orya", "Sinh", "Telu", "Tirh", "Tutg"],
    [(0x1CF2, 0x1CF2)]),
   (["Deva", "Gran"], [(0x1CF3, 0x1CF3), (0x1CF8, 0x1CF9)]),
   (["Deva", "Gran", "Knda", "Tutg"], [(0x1CF4, 0x1CF4)]),
   (["Beng"], [(0x1CF7, 0x1CF7)]),
   (["Nand"], [(0x1CFA, 0x1CFA)]),
   (["Cyrl", "Latn", "Syrc"], [(0x1DF8, 0x1DF8)]),
   (["Syrc"], [(0x1DFA, 0x1DFA)]),
   (["Latn", "Mong", "Phag"], [(0x202F, 0x202F)]),
   (["Adlm", "Arab"], [(0x204F, 0x204F)]),
   (["Cari", "Geor", "Glag", "Lyci", "Hung", "Orkh"], [(0x205A, 0x205A)]),
   (["Cari", "Grek", "Mero", "Hung"], [(0x205D, 0x205D)]),
   (["Deva", "Gran", "Latn"], [(0x20F0, 0x20F0)]),
   (["Copt", "Latn"], [(0x2E17, 0x2E17)]),
   (["Avst", "Orkh"], [(0x2E30, 0x2E30)]),
   (["Avst", "Cari", "Geor", "Kthi", "Lydi", "Hung", "Samr"], [(0x2E31, 0x2E31)]),
   (["Dupl"], [(0x2E3C, 0x2E3C), (0x1BCA0, 0x1BCA3)]),
   (["Adlm", "Arab", "Hung"], [(0x2E41, 0x2E41)]),
   (["Hani", "Tang"], [(0x2FF0, 0x2FFF), (0x31EF, 0x31EF)]),
   (["Bopo", "Hani", "Hang", "Hira", "Kana", "Mong", "Yiii"], [(0x3001, 0x3001)]),
   (["Bopo", "Hani", "Hang", "Hira", "Kana", "Mong", "Phag", "Yiii"], [(0x3002, 0x3002)]),
   (["Bopo", "Hani", "Hang", "Hira", "Kana"],
    [(0x3003, 0x3003), (0x3013, 0x3013), (0x301C, 0x301F), (0x3030, 0x3030), (0x3037, 0x3037),
     (0xFE45, 0xFE46)]),
   (["Hani"],
    [(0x3006, 0x3006), (0x303E, 0x303F), (0x3190, 0x319F), (0x31C0, 0x31E5), (0x3220, 0x3247),
     (0x3280, 0x32B0), (0x32C0, 0x32CB), (0x32FF, 0x32FF), (0x3358, 0x3370), (0x337B, 0x337F),
     (0x33E0, 0x33FE), (0x1D360, 0x1D371), (0x1F250, 0x1F251)]),
   (["Bopo", "Hani", "Hang", "Hira", "Kana", "Mong", "Tibt", "Yiii"], [(0x3008, 0x3009)]),
   (["Bopo", "Hani", "Hang", "Hira", "Kana", "Lisu", "Mong", "Tibt", "Yiii"], [(0x300A, 0x300B)]),
   (["Bopo", "Hani", "Hang", "Hira", "Kana", "Yiii"],
    [(0x300C, 0x3011), (0x3014, 0x301B), (0x30FB, 0x30FB), (0xFF61, 0xFF65)]),
   (["Bopo", "Hani"], [(0x302A, 0x302D)]),
   (["Hira", "Kana"],
    [(0x3031, 0x3035), (0x3099, 0x309C), (0x30A0, 0x30A0), (0x30FC, 0x30FC), (0xFF70, 0xFF70),
     (0xFF9E, 0xFF9F)]),
   (["Hani", "Hira", "Kana"], [(0x303C, 0x303D)]),
   (["Hani", "Latn"], [(0xA700, 0xA707)]),
   (["Deva", "Dogr", "Gujr", "Guru", "Kthi", "Knda", "Khoj", "Sind", "Mahj", "Mlym", "Modi",
     "Nand", "Shrd", "Takr", "Tirh", "Tutg"],
    [(0xA830, 0xA832)]),
   (["Deva", "Dogr", "Gujr", "Guru", "Kthi", "Knda", "Khoj", "Sind", "Mahj", "Modi", "Nand",
     "Shrd", "Takr", "Tirh", "Tutg"],
    [(0xA833, 0xA835)]),
   (["Deva", "Dogr", "Gujr", "Guru", "Kthi", "Khoj", "Sind", "Mahj", "Modi", "Takr", "Tirh"],
    [(0xA836, 0xA837), (0xA839, 0xA839)]),
   (["Deva", "Dogr", "Gujr", "Guru", "Kthi", "Khoj", "Sind", "Mahj", "Modi", "Shrd", "Takr",
     "Tirh"],
    [(0xA838, 0xA838)]),
   (["Beng", "Deva", "Tutg"], [(0xA8F1, 0xA8F1)]),
   (["Deva", "Taml"], [(0xA8F3, 0xA8F3)]),
   (["Kali", "Latn", "Mymr"], [(0xA92E, 0xA92E)]),
   (["Bugi", "Java"], [(0xA9CF, 0xA9CF)]),
   (["Arab", "Nkoo"], [(0xFD3E, 0xFD3F)]),
   (["Arab", "Thaa"], [(0xFDF2, 0xFDF2), (0xFDFD, 0xFDFD)]),
   (["Cprt", "Cpmn", "Linb"], [(0x10100, 0x10101)]),
   (["Cprt", "Linb"], [(0x10102, 0x10102), (0x10137, 0x1013F)]),
   (["Cprt", "Lina", "Linb"], [(0x10107, 0x10133)]),
   (["Arab", "Copt"], [(0x102E0, 0x102FB)]),
   (["Mani", "Ougr"], [(0x10AF2, 0x10AF2)])]

/-- Whether a character is used with a script. -/
def Script.uses (s : Script) (c : Char) : Bool :=
  match scriptExtensions.find? fun entry => entry.2.has c with
  | some (codes, _) => codes.any s.codes.contains
  | none => s.ranges.has c

end MarkupOrder.Unicode
