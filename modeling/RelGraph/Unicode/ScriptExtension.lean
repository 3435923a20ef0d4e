import RelGraph.Unicode.Script

/-! Characters that several scripts use, as of version 16.0 of the character database. -/

namespace RelGraph.Unicode

/-- Code points in a row with the codes of all scripts that use them. -/
structure SharedRun where
  first : Nat
  last : Nat
  scripts : String

/-- The code points whose scripts are others than the one that they belong to. -/
def sharedRuns : List SharedRun :=
  [⟨0x00b7, 0x00b7, "Avst Cari Copt Dupl Elba Geor Glag Gong Goth Grek Hani Latn Lydi "
      ++ "Mahj Perm Shaw"⟩,
   ⟨0x02bc, 0x02bc, "Beng Cyrl Deva Latn Lisu Thai Toto"⟩,
   ⟨0x02c7, 0x02c7, "Bopo Latn"⟩,
   ⟨0x02c9, 0x02cb, "Bopo Latn"⟩,
   ⟨0x02cd, 0x02cd, "Latn Lisu"⟩,
   ⟨0x02d7, 0x02d7, "Latn Thai"⟩,
   ⟨0x02d9, 0x02d9, "Bopo Latn"⟩,
   ⟨0x0300, 0x0300, "Cher Copt Cyrl Grek Latn Perm Sunu Tale"⟩,
   ⟨0x0301, 0x0301, "Cher Cyrl Grek Latn Osge Sunu Tale Todr"⟩,
   ⟨0x0302, 0x0302, "Cher Cyrl Latn Tfng"⟩,
   ⟨0x0303, 0x0303, "Glag Latn Sunu Syrc Thai"⟩,
   ⟨0x0304, 0x0304, "Aghb Cher Copt Cyrl Goth Grek Latn Osge Syrc Tfng Todr"⟩,
   ⟨0x0305, 0x0305, "Copt Elba Glag Goth Kana Latn"⟩,
   ⟨0x0306, 0x0306, "Cyrl Grek Latn Perm"⟩,
   ⟨0x0307, 0x0307, "Copt Dupl Hebr Latn Perm Syrc Tale Tfng Todr"⟩,
   ⟨0x0308, 0x0308, "Armn Cyrl Dupl Goth Grek Hebr Latn Perm Syrc Tale"⟩,
   ⟨0x0309, 0x0309, "Latn Tfng"⟩,
   ⟨0x030a, 0x030a, "Dupl Latn Syrc"⟩,
   ⟨0x030b, 0x030b, "Cher Cyrl Latn Osge"⟩,
   ⟨0x030c, 0x030c, "Cher Latn Tale"⟩,
   ⟨0x030d, 0x030d, "Latn Sunu"⟩,
   ⟨0x030e, 0x030e, "Ethi Latn"⟩,
   ⟨0x0310, 0x0310, "Latn Sunu"⟩,
   ⟨0x0311, 0x0311, "Cyrl Latn Todr"⟩,
   ⟨0x0313, 0x0313, "Grek Latn Perm Todr"⟩,
   ⟨0x0320, 0x0320, "Latn Syrc"⟩,
   ⟨0x0323, 0x0323, "Cher Dupl Kana Latn Syrc"⟩,
   ⟨0x0324, 0x0324, "Cher Dupl Latn Syrc"⟩,
   ⟨0x0325, 0x0325, "Latn Syrc"⟩,
   ⟨0x032d, 0x032d, "Latn Sunu Syrc"⟩,
   ⟨0x032e, 0x032e, "Latn Syrc"⟩,
   ⟨0x0330, 0x0330, "Cher Latn Syrc"⟩,
   ⟨0x0331, 0x0331, "Aghb Cher Goth Latn Sunu Thai"⟩,
   ⟨0x0342, 0x0342, "Grek"⟩,
   ⟨0x0345, 0x0345, "Grek"⟩,
   ⟨0x0358, 0x0358, "Latn Osge"⟩,
   ⟨0x035e, 0x035e, "Aghb Latn Todr"⟩,
   ⟨0x0363, 0x036f, "Latn"⟩,
   ⟨0x0374, 0x0375, "Copt Grek"⟩,
   ⟨0x0483, 0x0483, "Cyrl Perm"⟩,
   ⟨0x0484, 0x0484, "Cyrl Glag"⟩,
   ⟨0x0485, 0x0486, "Cyrl Latn"⟩,
   ⟨0x0487, 0x0487, "Cyrl Glag"⟩,
   ⟨0x0589, 0x0589, "Armn Geor Glag"⟩,
   ⟨0x060c, 0x060c, "Arab Gara Nkoo Rohg Syrc Thaa Yezi"⟩,
   ⟨0x061b, 0x061b, "Arab Gara Nkoo Rohg Syrc Thaa Yezi"⟩,
   ⟨0x061c, 0x061c, "Arab Syrc Thaa"⟩,
   ⟨0x061f, 0x061f, "Adlm Arab Gara Nkoo Rohg Syrc Thaa Yezi"⟩,
   ⟨0x0640, 0x0640, "Adlm Arab Mand Mani Ougr Phlp Rohg Sogd Syrc"⟩,
   ⟨0x064b, 0x0655, "Arab Syrc"⟩,
   ⟨0x0660, 0x0669, "Arab Thaa Yezi"⟩,
   ⟨0x0670, 0x0670, "Arab Syrc"⟩,
   ⟨0x06d4, 0x06d4, "Arab Rohg"⟩,
   ⟨0x0951, 0x0951, "Beng Deva Gran Gujr Guru Knda Latn Mlym Orya Shrd Taml Telu Tirh"⟩,
   ⟨0x0952, 0x0952, "Beng Deva Gran Gujr Guru Knda Latn Mlym Orya Taml Telu Tirh"⟩,
   ⟨0x0964, 0x0964, "Beng Deva Dogr Gong Gonm Gran Gujr Guru Knda Mahj Mlym Nand Onao "
      ++ "Orya Sind Sinh Sylo Takr Taml Telu Tirh"⟩,
   ⟨0x0965, 0x0965, "Beng Deva Dogr Gong Gonm Gran Gujr Gukh Guru Knda Limb Mahj Mlym "
      ++ "Nand Onao Orya Sind Sinh Sylo Takr Taml Telu Tirh"⟩,
   ⟨0x0966, 0x096f, "Deva Dogr Kthi Mahj"⟩,
   ⟨0x09e6, 0x09ef, "Beng Cakm Sylo"⟩,
   ⟨0x0a66, 0x0a6f, "Guru Mult"⟩,
   ⟨0x0ae6, 0x0aef, "Gujr Khoj"⟩,
   ⟨0x0be6, 0x0bf3, "Gran Taml"⟩,
   ⟨0x0ce6, 0x0cef, "Knda Nand Tutg"⟩,
   ⟨0x1040, 0x1049, "Cakm Mymr Tale"⟩,
   ⟨0x10fb, 0x10fb, "Geor Glag Latn"⟩,
   ⟨0x16eb, 0x16ed, "Runr"⟩,
   ⟨0x1735, 0x1736, "Buhd Hano Tagb Tglg"⟩,
   ⟨0x1802, 0x1803, "Mong Phag"⟩,
   ⟨0x1805, 0x1805, "Mong Phag"⟩,
   ⟨0x1cd0, 0x1cd0, "Beng Deva Gran Knda"⟩,
   ⟨0x1cd1, 0x1cd1, "Deva"⟩,
   ⟨0x1cd2, 0x1cd2, "Beng Deva Gran Knda"⟩,
   ⟨0x1cd3, 0x1cd3, "Deva Gran Knda"⟩,
   ⟨0x1cd4, 0x1cd4, "Deva"⟩,
   ⟨0x1cd5, 0x1cd6, "Beng Deva"⟩,
   ⟨0x1cd7, 0x1cd7, "Deva Shrd"⟩,
   ⟨0x1cd8, 0x1cd8, "Beng Deva"⟩,
   ⟨0x1cd9, 0x1cd9, "Deva Shrd"⟩,
   ⟨0x1cda, 0x1cda, "Deva Knda Mlym Orya Taml Telu"⟩,
   ⟨0x1cdb, 0x1cdb, "Deva"⟩,
   ⟨0x1cdc, 0x1cdd, "Deva Shrd"⟩,
   ⟨0x1cde, 0x1cdf, "Deva"⟩,
   ⟨0x1ce0, 0x1ce0, "Deva Shrd"⟩,
   ⟨0x1ce1, 0x1ce1, "Beng Deva"⟩,
   ⟨0x1ce2, 0x1ce8, "Deva"⟩,
   ⟨0x1ce9, 0x1ce9, "Deva Nand"⟩,
   ⟨0x1cea, 0x1cea, "Beng Deva"⟩,
   ⟨0x1ceb, 0x1cec, "Deva"⟩,
   ⟨0x1ced, 0x1ced, "Beng Deva"⟩,
   ⟨0x1cee, 0x1cf1, "Deva"⟩,
   ⟨0x1cf2, 0x1cf2, "Beng Deva Gran Knda Mlym Nand Orya Sinh Telu Tirh Tutg"⟩,
   ⟨0x1cf3, 0x1cf3, "Deva Gran"⟩,
   ⟨0x1cf4, 0x1cf4, "Deva Gran Knda Tutg"⟩,
   ⟨0x1cf5, 0x1cf6, "Beng Deva"⟩,
   ⟨0x1cf7, 0x1cf7, "Beng"⟩,
   ⟨0x1cf8, 0x1cf9, "Deva Gran"⟩,
   ⟨0x1cfa, 0x1cfa, "Nand"⟩,
   ⟨0x1dc0, 0x1dc1, "Grek"⟩,
   ⟨0x1df8, 0x1df8, "Cyrl Latn Syrc"⟩,
   ⟨0x1dfa, 0x1dfa, "Syrc"⟩,
   ⟨0x202f, 0x202f, "Latn Mong Phag"⟩,
   ⟨0x204f, 0x204f, "Adlm Arab"⟩,
   ⟨0x205a, 0x205a, "Cari Geor Glag Hung Lyci Orkh"⟩,
   ⟨0x205d, 0x205d, "Cari Grek Hung Mero"⟩,
   ⟨0x20f0, 0x20f0, "Deva Gran Latn"⟩,
   ⟨0x2e17, 0x2e17, "Copt Latn"⟩,
   ⟨0x2e30, 0x2e30, "Avst Orkh"⟩,
   ⟨0x2e31, 0x2e31, "Avst Cari Geor Hung Kthi Lydi Samr"⟩,
   ⟨0x2e3c, 0x2e3c, "Dupl"⟩,
   ⟨0x2e41, 0x2e41, "Adlm Arab Hung"⟩,
   ⟨0x2e43, 0x2e43, "Cyrl Glag"⟩,
   ⟨0x2ff0, 0x2fff, "Hani Tang"⟩,
   ⟨0x3001, 0x3001, "Bopo Hang Hani Hira Kana Mong Yiii"⟩,
   ⟨0x3002, 0x3002, "Bopo Hang Hani Hira Kana Mong Phag Yiii"⟩,
   ⟨0x3003, 0x3003, "Bopo Hang Hani Hira Kana"⟩,
   ⟨0x3006, 0x3006, "Hani"⟩,
   ⟨0x3008, 0x3009, "Bopo Hang Hani Hira Kana Mong Tibt Yiii"⟩,
   ⟨0x300a, 0x300b, "Bopo Hang Hani Hira Kana Lisu Mong Tibt Yiii"⟩,
   ⟨0x300c, 0x3011, "Bopo Hang Hani Hira Kana Yiii"⟩,
   ⟨0x3013, 0x3013, "Bopo Hang Hani Hira Kana"⟩,
   ⟨0x3014, 0x301b, "Bopo Hang Hani Hira Kana Yiii"⟩,
   ⟨0x301c, 0x301f, "Bopo Hang Hani Hira Kana"⟩,
   ⟨0x302a, 0x302d, "Bopo Hani"⟩,
   ⟨0x3030, 0x3030, "Bopo Hang Hani Hira Kana"⟩,
   ⟨0x3031, 0x3035, "Hira Kana"⟩,
   ⟨0x3037, 0x3037, "Bopo Hang Hani Hira Kana"⟩,
   ⟨0x303c, 0x303d, "Hani Hira Kana"⟩,
   ⟨0x303e, 0x303f, "Hani"⟩,
   ⟨0x3099, 0x309c, "Hira Kana"⟩,
   ⟨0x30a0, 0x30a0, "Hira Kana"⟩,
   ⟨0x30fb, 0x30fb, "Bopo Hang Hani Hira Kana Yiii"⟩,
   ⟨0x30fc, 0x30fc, "Hira Kana"⟩,
   ⟨0x3190, 0x319f, "Hani"⟩,
   ⟨0x31c0, 0x31e5, "Hani"⟩,
   ⟨0x31ef, 0x31ef, "Hani Tang"⟩,
   ⟨0x3220, 0x3247, "Hani"⟩,
   ⟨0x3280, 0x32b0, "Hani"⟩,
   ⟨0x32c0, 0x32cb, "Hani"⟩,
   ⟨0x32ff, 0x32ff, "Hani"⟩,
   ⟨0x3358, 0x3370, "Hani"⟩,
   ⟨0x337b, 0x337f, "Hani"⟩,
   ⟨0x33e0, 0x33fe, "Hani"⟩,
   ⟨0xa66f, 0xa66f, "Cyrl Glag"⟩,
   ⟨0xa700, 0xa707, "Hani Latn"⟩,
   ⟨0xa830, 0xa832, "Deva Dogr Gujr Guru Khoj Knda Kthi Mahj Mlym Modi Nand Shrd Sind "
      ++ "Takr Tirh Tutg"⟩,
   ⟨0xa833, 0xa835, "Deva Dogr Gujr Guru Khoj Knda Kthi Mahj Modi Nand Shrd Sind Takr "
      ++ "Tirh Tutg"⟩,
   ⟨0xa836, 0xa837, "Deva Dogr Gujr Guru Khoj Kthi Mahj Modi Sind Takr Tirh"⟩,
   ⟨0xa838, 0xa838, "Deva Dogr Gujr Guru Khoj Kthi Mahj Modi Shrd Sind Takr Tirh"⟩,
   ⟨0xa839, 0xa839, "Deva Dogr Gujr Guru Khoj Kthi Mahj Modi Sind Takr Tirh"⟩,
   ⟨0xa8f1, 0xa8f1, "Beng Deva Tutg"⟩,
   ⟨0xa8f3, 0xa8f3, "Deva Taml"⟩,
   ⟨0xa92e, 0xa92e, "Kali Latn Mymr"⟩,
   ⟨0xa9cf, 0xa9cf, "Bugi Java"⟩,
   ⟨0xfd3e, 0xfd3f, "Arab Nkoo"⟩,
   ⟨0xfdf2, 0xfdf2, "Arab Thaa"⟩,
   ⟨0xfdfd, 0xfdfd, "Arab Thaa"⟩,
   ⟨0xfe45, 0xfe46, "Bopo Hang Hani Hira Kana"⟩,
   ⟨0xff61, 0xff65, "Bopo Hang Hani Hira Kana Yiii"⟩,
   ⟨0xff70, 0xff70, "Hira Kana"⟩,
   ⟨0xff9e, 0xff9f, "Hira Kana"⟩,
   ⟨0x10100, 0x10101, "Cpmn Cprt Linb"⟩,
   ⟨0x10102, 0x10102, "Cprt Linb"⟩,
   ⟨0x10107, 0x10133, "Cprt Lina Linb"⟩,
   ⟨0x10137, 0x1013f, "Cprt Linb"⟩,
   ⟨0x102e0, 0x102fb, "Arab Copt"⟩,
   ⟨0x10af2, 0x10af2, "Mani Ougr"⟩,
   ⟨0x11301, 0x11301, "Gran Taml"⟩,
   ⟨0x11303, 0x11303, "Gran Taml"⟩,
   ⟨0x1133b, 0x1133c, "Gran Taml"⟩,
   ⟨0x11fd0, 0x11fd1, "Gran Taml"⟩,
   ⟨0x11fd3, 0x11fd3, "Gran Taml"⟩,
   ⟨0x1bca0, 0x1bca3, "Dupl"⟩,
   ⟨0x1d360, 0x1d371, "Hani"⟩,
   ⟨0x1f250, 0x1f251, "Hani"⟩]

/-- The code points that a script uses: those of its own that are not listed as shared, and the
shared ones that list it. -/
def scriptExtensionSet (code : String) : CodeSet :=
  let stretch (r : SharedRun) : Stretch := ⟨r.first, r.last⟩
  let own := (scriptSet code).diff (.ofStretches (sharedRuns.map stretch))
  own.union (.ofStretches ((sharedRuns.filter fun r =>
    (r.scripts.toLower.splitOn " ").contains code).map stretch))

end RelGraph.Unicode
