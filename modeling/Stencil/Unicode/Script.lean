import Stencil.Unicode.Ranges

/-!
# Scripts

The scripts of code points: the names of each script (in lower case, without
separators), the code points written in it alone, and those also written in it.
-/
namespace Stencil.Unicode

/-- A script; an empty `extended` stands for the same code points as `own`. -/
structure Script where
  names : List String
  own : List String
  extended : List String

def scripts : List Script := [
  ⟨["adlm", "adlam"],
    [
    "1e900 4c 4 a 4 2"],
    [
    "61f 1 20 1 1e2bf 4c 4 a 4 2"]⟩,
  ⟨["aghb", "caucasianalbanian"],
    [
    "10530 34 b 1"],
    []⟩,
  ⟨["ahom"],
    [
    "11700 1b 2 f 4 17"],
    []⟩,
  ⟨["arab", "arabic"],
    [
    "600 5 1 6 1 e 1 3 1 20 1 a b 1a 1 6c 1 22 50 30 f0 1f 1 2 6 4a 1 1d f250 73 10 16b 2 50 2 36",
    "7 1 20 10 70 5 1 87 f63 1f 7e 3 df00 4 1 1b 1 2 1 1 2 1 1 a 1 4 1 1 1 1 6 1 4 1 1 1 1 1 1 3",
    "1 2 1 1 2 1 1 1 1 1 1 1 1 1 1 2 1 1 2 4 1 7 1 4 1 4 1 1 1 a 1 11 5 3 1 5 1 11 34 2"],
    [
    "600 5 1 d7 1 22 50 30 f0 1f 1 2 6 4a 1 1d f250 73 10 1bd 2 36 7 1 20 10 70 5 1 87 3e3 1c b64",
    "1f 7e 3 df00 4 1 1b 1 2 1 1 2 1 1 a 1 4 1 1 1 1 6 1 4 1 1 1 1 1 1 3 1 2 1 1 2 1 1 1 1 1 1 1",
    "1 1 1 2 1 1 2 4 1 7 1 4 1 4 1 1 1 a 1 11 5 3 1 5 1 11 34 2"]⟩,
  ⟨["armi", "imperialaramaic"],
    [
    "10840 16 1 9"],
    []⟩,
  ⟨["armn", "armenian"],
    [
    "531 26 2 32 2 3 f583 5"],
    []⟩,
  ⟨["avst", "avestan"],
    [
    "10b00 36 3 7"],
    []⟩,
  ⟨["bali", "balinese"],
    [
    "1b00 4d 3 2f"],
    []⟩,
  ⟨["bamu", "bamum"],
    [
    "a6a0 58 c108 239"],
    []⟩,
  ⟨["bass", "bassavah"],
    [
    "16ad0 1e 2 6"],
    []⟩,
  ⟨["batk", "batak"],
    [
    "1bc0 34 8 4"],
    []⟩,
  ⟨["beng", "bengali"],
    [
    "980 4 1 8 2 2 2 16 1 7 1 1 3 4 2 9 2 2 2 4 8 1 4 2 1 5 2 19"],
    [
    "951 2 11 2 1a 4 1 8 2 2 2 16 1 7 1 1 3 4 2 9 2 2 2 4 8 1 4 2 1 5 2 19 12d1 1 1 1 2 2 1 1 8 1",
    "8 1 2 1 4 1 2 3 8bf9 1"]⟩,
  ⟨["bhks", "bhaiksuki"],
    [
    "11c00 9 1 2d 1 e a 1d"],
    []⟩,
  ⟨["bopo", "bopomofo"],
    [
    "2ea 2 2e19 2b 70 20"],
    [
    "2ea 2 2d15 3 4 a 1 d a 4 2 1 6 1 c3 1 9 2b 70 20 cc85 2 11a 5"]⟩,
  ⟨["brah", "brahmi"],
    [
    "11000 4e 4 24 9 1"],
    []⟩,
  ⟨["brai", "braille"],
    [
    "2800 100"],
    []⟩,
  ⟨["bugi", "buginese"],
    [
    "1a00 1c 2 2"],
    [
    "1a00 1c 2 2 8faf 1"]⟩,
  ⟨["buhd", "buhid"],
    [
    "1740 14"],
    [
    "1735 2 9 14"]⟩,
  ⟨["cakm", "chakma"],
    [
    "11100 35 1 12"],
    [
    "9e6 a 650 a 100b6 35 1 12"]⟩,
  ⟨["cans", "canadianaboriginal"],
    [
    "1400 280 230 46 101ba 10"],
    []⟩,
  ⟨["cari", "carian"],
    [
    "102a0 31"],
    []⟩,
  ⟨["cham"],
    [
    "aa00 37 9 e 2 a 2 4"],
    []⟩,
  ⟨["cher", "cherokee"],
    [
    "13a0 56 2 6 9772 50"],
    []⟩,
  ⟨["chrs", "chorasmian"],
    [
    "10fb0 1c"],
    []⟩,
  ⟨["copt", "coptic", "qaac"],
    [
    "3e2 e 2890 74 5 7"],
    [
    "3e2 e 2890 74 5 7 d5e0 1c"]⟩,
  ⟨["cpmn", "cyprominoan"],
    [
    "12f90 63"],
    [
    "10100 2 2e8e 63"]⟩,
  ⟨["cprt", "cypriot"],
    [
    "10800 6 2 1 1 2c 1 2 3 1 2 1"],
    [
    "10100 3 4 2d 3 9 6c0 6 2 1 1 2c 1 2 3 1 2 1"]⟩,
  ⟨["cyrl", "cyrillic"],
    [
    "400 85 2 a9 1750 9 a2 1 4c 1 1067 20 7840 60 578e 2 e200 3e 21 1"],
    [
    "400 130 1750 9 a2 1 4c 1 7f 1 fe7 20 43 1 77fc 60 578e 2 e200 3e 21 1"]⟩,
  ⟨["deva", "devanagari"],
    [
    "900 51 4 f 2 1a 9f60 20 7200 a"],
    [
    "900 53 2 2b 1350 27 1 2 3f6 1 873f a a6 20 7200 a"]⟩,
  ⟨["diak", "divesakuru"],
    [
    "11900 7 2 1 2 8 1 2 1 1e 1 2 2 c 9 a"],
    []⟩,
  ⟨["dogr", "dogra"],
    [
    "11800 3c"],
    [
    "964 c 9ec0 a 6fc6 3c"]⟩,
  ⟨["dsrt", "deseret"],
    [
    "10400 50"],
    []⟩,
  ⟨["dupl", "duployan"],
    [
    "1bc00 6b 5 d 3 9 7 a 2 4"],
    [
    "1bc00 6b 5 d 3 9 7 a 2 8"]⟩,
  ⟨["egyp", "egyptianhieroglyphs"],
    [
    "13000 456"],
    []⟩,
  ⟨["elba", "elbasan"],
    [
    "10500 28"],
    []⟩,
  ⟨["elym", "elymaic"],
    [
    "10fe0 17"],
    []⟩,
  ⟨["ethi", "ethiopic"],
    [
    "1200 49 1 4 2 7 1 1 1 4 2 29 1 4 2 21 1 4 2 7 1 1 1 4 2 f 1 39 1 4 2 43 2 20 3 1a 19e6 17 9",
    "7 1 7 1 7 1 7 1 7 1 7 1 7 1 7 7d22 6 2 6 2 6 9 7 1 7 13cb1 7 1 4 1 2 1 f"],
    []⟩,
  ⟨["geor", "georgian"],
    [
    "10a0 26 1 1 5 1 2 2b 1 4 b90 2b 2 3 1040 26 1 1 5 1"],
    [
    "10a0 26 1 1 5 1 2 30 b90 2b 2 3 1040 26 1 1 5 1"]⟩,
  ⟨["glag", "glagolitic"],
    [
    "2c00 60 1b3a0 7 1 11 2 7 1 2 1 5"],
    [
    "484 1 2 1 2778 60 1e3 1 782b 1 13990 7 1 11 2 7 1 2 1 5"]⟩,
  ⟨["gong", "gunjalagondi"],
    [
    "11d60 6 1 2 1 25 1 2 1 6 7 a"],
    [
    "964 2 113fa 6 1 2 1 25 1 2 1 6 7 a"]⟩,
  ⟨["gonm", "masaramgondi"],
    [
    "11d00 7 1 2 1 2c 3 1 1 2 1 9 8 a"],
    [
    "964 2 1139a 7 1 2 1 2c 3 1 1 2 1 9 8 a"]⟩,
  ⟨["goth", "gothic"],
    [
    "10330 1b"],
    []⟩,
  ⟨["gran", "grantha"],
    [
    "11300 4 1 8 2 2 2 16 1 7 1 2 1 5 2 9 2 2 2 3 2 1 6 1 5 7 2 7 3 5"],
    [
    "951 2 11 2 280 e 10dc 1 1 2 1e 3 3 2 3f6 1 f20f 4 1 8 2 2 2 16 1 7 1 2 1 5 1 a 2 2 2 3 2 1 6",
    "1 5 7 2 7 3 5 c5b 2 1 1"]⟩,
  ⟨["grek", "greek"],
    [
    "370 4 1 3 2 4 1 1 4 1 1 1 1 3 1 1 1 14 1 3f e 10 1926 5 32 5 4 5 54 1 140 16 2 6 2 26 2 6 2",
    "8 1 1 1 1 1 1 1 1f 2 35 1 f 1 e 2 6 1 13 2 3 1 9 127 1 8a3e 1 55da 4f 11 1 d05f 46"],
    [
    "342 1 2 1 2a 4 1 3 2 4 1 1 4 1 1 1 1 3 1 1 1 14 1 3f e 10 1926 5 32 5 4 5 54 3 13e 16 2 6 2",
    "26 2 6 2 8 1 1 1 1 1 1 1 1f 2 35 1 f 1 e 2 6 1 13 2 3 1 9 127 1 8a3e 1 55da 4f 11 1 d05f 46"]⟩,
  ⟨["gujr", "gujarati"],
    [
    "a81 3 1 9 1 3 1 16 1 7 1 2 1 5 2 a 1 3 1 3 2 1 f 4 2 c 7 7"],
    [
    "951 2 11 2 11b 3 1 9 1 3 1 16 1 7 1 2 1 5 2 a 1 3 1 3 2 1 f 4 2 c 7 7 9d30 a"]⟩,
  ⟨["guru", "gurmukhi"],
    [
    "a01 3 1 6 4 2 2 16 1 7 1 2 1 2 1 2 2 1 1 5 4 2 2 3 3 1 7 4 1 1 7 11"],
    [
    "951 2 11 2 9b 3 1 6 4 2 2 16 1 7 1 2 1 2 1 2 2 1 1 5 4 2 2 3 3 1 7 4 1 1 7 11 9db9 a"]⟩,
  ⟨["hang", "hangul"],
    [
    "1100 100 1e2e 2 101 5e 71 1f 41 1f 76e1 1d 283 2ba4 c 17 4 31 27a4 1f 3 6 2 6 2 6 2 3"],
    [
    "1100 100 1e01 3 4 a 1 d e 3 6 1 c3 1 35 5e 71 1f 41 1f 76e1 1d 283 2ba4 c 17 4 31 2649 2 11a",
    "5 3a 1f 3 6 2 6 2 6 2 3"]⟩,
  ⟨["hani", "han"],
    [
    "2e80 1a 1 59 c d6 2f 1 1 1 19 9 e 4 3c4 19c0 40 5200 5900 16e 2 6a 7508 2 c 2 900e a6e0 20",
    "103a 6 de 2 1682 e 1d31 c1f 21e 5e2 134b 5 1060"],
    [
    "2e80 1a 1 59 c d6 2b 3 1 d 1 d 1 d 2 1 6 9 bb 1 94 10 20 24 3c 28 38 31 f c 33 1 58 19 a 5",
    "60 1f 1 19c0 40 5200 700 8 51f8 16e 2 6a 36b 2 11a 5 707c 2 c 2 636e 12 1ede 2 dae a6e0 20",
    "103a 6 de 2 1682 e 1d31 c1f 21e 5e2 134b 5 1060"]⟩,
  ⟨["hano", "hanunoo"],
    [
    "1720 15"],
    [
    "1720 17"]⟩,
  ⟨["hatr", "hatran"],
    [
    "108e0 13 1 2 5 5"],
    []⟩,
  ⟨["hebr", "hebrew"],
    [
    "591 37 8 1b 4 6 f528 1a 1 5 1 1 1 2 1 2 1 a"],
    []⟩,
  ⟨["hira", "hiragana"],
    [
    "3041 56 6 3 17f61 11f 12 1 1d 3 40ad 1"],
    [
    "3001 3 4 a 1 d 10 6 1 1 4 2 3 56 2 8 5a 2 cd48 2 11a 5 a 1 2d 2 b061 11f 12 1 1d 3 40ad 1"]⟩,
  ⟨["hluw", "anatolianhieroglyphs"],
    [
    "14400 247"],
    []⟩,
  ⟨["hmng", "pahawhhmong"],
    [
    "16b00 46 a a 1 7 1 15 5 13"],
    []⟩,
  ⟨["hmnp", "nyiakengpuachuehmong"],
    [
    "1e100 2d 3 e 2 a 4 2"],
    []⟩,
  ⟨["hung", "oldhungarian"],
    [
    "10c80 33 d 33 7 6"],
    []⟩,
  ⟨["ital", "olditalic"],
    [
    "10300 24 9 3"],
    []⟩,
  ⟨["java", "javanese"],
    [
    "a980 4e 2 a 4 2"],
    [
    "a980 4e 1 b 4 2"]⟩,
  ⟨["kali", "kayahli"],
    [
    "a900 2e 1 1"],
    [
    "a900 30"]⟩,
  ⟨["kana", "katakana"],
    [
    "30a1 5a 2 3 f0 10 d0 2f 1 58 cc0e a 1 2d b052 4 1 7 1 2 1 1 11f 3 32 1 e 4"],
    [
    "3001 3 4 a 1 d 10 6 1 1 4 2 5b 4 3 60 f0 10 d0 2f 1 58 caed 2 11a 3f b050 4 1 7 1 2 1 1 11f",
    "3 32 1 e 4"]⟩,
  ⟨["kawi"],
    [
    "11f00 11 1 29 3 1c"],
    []⟩,
  ⟨["khar", "kharoshthi"],
    [
    "10a00 4 1 2 5 8 1 3 1 1d 2 3 4 a 7 9"],
    []⟩,
  ⟨["khmr", "khmer"],
    [
    "1780 5e 2 a 6 a 1e6 20"],
    []⟩,
  ⟨["khoj", "khojki"],
    [
    "11200 12 1 2f"],
    [
    "ae6 a 9d40 a 69c6 12 1 2f"]⟩,
  ⟨["kits", "khitansmallscript"],
    [
    "16fe4 1 1b1b 1d6"],
    []⟩,
  ⟨["knda", "kannada"],
    [
    "c80 d 1 3 1 17 1 a 1 5 2 9 1 3 1 4 7 2 6 2 1 4 2 a 1 3"],
    [
    "951 2 11 2 31a d 1 3 1 17 1 a 1 5 2 9 1 3 1 4 7 2 6 2 1 4 2 a 1 3 fdc 1 1 1 7 1 17 1 1 1",
    "8b3b 6"]⟩,
  ⟨["kthi", "kaithi"],
    [
    "11080 43 a 1"],
    [
    "966 a 9ec0 a 6846 43 a 1"]⟩,
  ⟨["lana", "taitham"],
    [
    "1a20 3f 1 1d 2 b 6 a 6 e"],
    []⟩,
  ⟨["laoo", "lao"],
    [
    "e81 2 1 1 1 5 1 18 1 1 1 17 2 5 1 1 1 7 1 a 2 4"],
    []⟩,
  ⟨["latn", "latin"],
    [
    "41 1a 6 1a 2f 1 f 1 5 17 1 1f 1 1c1 27 5 1a1b 26 6 31 5 4 5 d 1 46 41 100 171 1 d 1 10 d 8d",
    "2 6 1 1b 1 11 29 ad7 20 7aa2 66 3 40 5 2 1 1 1 5 18 e 330 2b 1 9 1 4 4f96 7 41a 1a 6 1a 825",
    "6 1 2a 1 9 d745 1f 6 6"],
    [
    "41 1a 6 1a 2f 1 f 1 5 17 1 1f 1 1c1 27 5 7e d 115 2 4ca 2 7a8 1 c04 26 6 31 5 4 5 d 1 46 41",
    "100 12f 1 41 1 d 1 10 d 53 1 39 2 6 1 1b 1 11 29 ad7 20 7a80 8 1a 66 3 40 5 2 1 1 1 5 18 e",
    "12e 1 201 2b 1 9 1 4 4f96 7 41a 1a 6 1a 825 6 1 2a 1 9 d745 1f 6 6"]⟩,
  ⟨["lepc", "lepcha"],
    [
    "1c00 38 3 f 3 3"],
    []⟩,
  ⟨["limb", "limbu"],
    [
    "1900 1f 1 c 4 c 4 1 3 c"],
    [
    "965 1 f9a 1f 1 c 4 c 4 1 3 c"]⟩,
  ⟨["lina", "lineara"],
    [
    "10600 137 9 16 a 8"],
    [
    "10107 2d 4cc 137 9 16 a 8"]⟩,
  ⟨["linb", "linearb"],
    [
    "10000 c 1 1a 1 13 1 2 1 f 2 e 22 7b"],
    [
    "10000 c 1 1a 1 13 1 2 1 f 2 e 22 7b 5 3 4 2d 3 9"]⟩,
  ⟨["lisu"],
    [
    "a4d0 30 7ab0 1"],
    []⟩,
  ⟨["lyci", "lycian"],
    [
    "10280 1d"],
    []⟩,
  ⟨["lydi", "lydian"],
    [
    "10920 1a 5 1"],
    []⟩,
  ⟨["mahj", "mahajani"],
    [
    "11150 27"],
    [
    "964 c 9ec0 a 6916 27"]⟩,
  ⟨["maka", "makasar"],
    [
    "11ee0 19"],
    []⟩,
  ⟨["mand", "mandaic"],
    [
    "840 1c 2 1"],
    [
    "640 1 1ff 1c 2 1"]⟩,
  ⟨["mani", "manichaean"],
    [
    "10ac0 27 4 c"],
    [
    "640 1 1047f 27 4 c"]⟩,
  ⟨["marc", "marchen"],
    [
    "11c70 20 2 16 1 e"],
    []⟩,
  ⟨["medf", "medefaidrin"],
    [
    "16e40 5b"],
    []⟩,
  ⟨["mend", "mendekikakui"],
    [
    "1e800 c5 2 10"],
    []⟩,
  ⟨["merc", "meroiticcursive"],
    [
    "109a0 18 4 14 2 2e"],
    []⟩,
  ⟨["mero", "meroitichieroglyphs"],
    [
    "10980 20"],
    []⟩,
  ⟨["mlym", "malayalam"],
    [
    "d00 d 1 3 1 33 1 3 1 6 4 10 2 1a"],
    [
    "951 2 11 2 39a d 1 3 1 33 1 3 1 6 4 10 2 1a f5a 1 8b55 3"]⟩,
  ⟨["modi"],
    [
    "11600 45 b a"],
    [
    "a830 a 6dc6 45 b a"]⟩,
  ⟨["mong", "mongolian"],
    [
    "1800 2 2 1 1 14 6 59 7 2b fdb5 d"],
    [
    "1800 1a 6 59 7 2b 784 1 f630 d"]⟩,
  ⟨["mroo", "mro"],
    [
    "16a40 1f 1 a 4 2"],
    []⟩,
  ⟨["mtei", "meeteimayek"],
    [
    "aae0 17 c9 2e 2 a"],
    []⟩,
  ⟨["mult", "multani"],
    [
    "11280 7 1 1 1 4 1 f 1 b"],
    [
    "a66 a 10810 7 1 1 1 4 1 f 1 b"]⟩,
  ⟨["mymr", "myanmar"],
    [
    "1000 a0 9940 1f 61 20"],
    [
    "1000 a0 988e 1 b1 1f 61 20"]⟩,
  ⟨["nagm", "nagmundari"],
    [
    "1e4d0 2a"],
    []⟩,
  ⟨["nand", "nandinagari"],
    [
    "119a0 8 2 2e 2 b"],
    [
    "964 2 380 a ff9 1 8 1 7 1 8b35 6 716a 8 2 2e 2 b"]⟩,
  ⟨["narb", "oldnortharabian"],
    [
    "10a80 20"],
    []⟩,
  ⟨["nbat", "nabataean"],
    [
    "10880 1f 8 9"],
    []⟩,
  ⟨["newa"],
    [
    "11400 5c 1 5"],
    []⟩,
  ⟨["nkoo", "nko"],
    [
    "7c0 3b 2 3"],
    [
    "60c 1 e 1 3 1 1a0 3b 2 3 f53e 2"]⟩,
  ⟨["nshu", "nushu"],
    [
    "16fe1 1 418e 18c"],
    []⟩,
  ⟨["ogam", "ogham"],
    [
    "1680 1d"],
    []⟩,
  ⟨["olck", "olchiki"],
    [
    "1c50 30"],
    []⟩,
  ⟨["orkh", "oldturkic"],
    [
    "10c00 49"],
    []⟩,
  ⟨["orya", "oriya"],
    [
    "b01 3 1 8 2 2 2 16 1 7 1 2 1 5 2 9 2 2 2 3 7 3 4 2 1 5 2 12"],
    [
    "951 2 11 2 19b 3 1 8 2 2 2 16 1 7 1 2 1 5 2 9 2 2 2 3 7 3 4 2 1 5 2 12 1162 1 17 1"]⟩,
  ⟨["osge", "osage"],
    [
    "104b0 24 4 24"],
    []⟩,
  ⟨["osma", "osmanya"],
    [
    "10480 1e 2 a"],
    []⟩,
  ⟨["ougr", "olduyghur"],
    [
    "10f70 1a"],
    [
    "640 1 104b1 1 47d 1a"]⟩,
  ⟨["palm", "palmyrene"],
    [
    "10860 20"],
    []⟩,
  ⟨["pauc", "paucinhau"],
    [
    "11ac0 39"],
    []⟩,
  ⟨["perm", "oldpermic"],
    [
    "10350 2b"],
    [
    "483 1 fecc 2b"]⟩,
  ⟨["phag", "phagspa"],
    [
    "a840 38"],
    [
    "1802 2 1 1 903a 38"]⟩,
  ⟨["phli", "inscriptionalpahlavi"],
    [
    "10b60 13 5 8"],
    []⟩,
  ⟨["phlp", "psalterpahlavi"],
    [
    "10b80 12 7 4 c 7"],
    [
    "640 1 1053f 12 7 4 c 7"]⟩,
  ⟨["phnx", "phoenician"],
    [
    "10900 1c 3 1"],
    []⟩,
  ⟨["plrd", "miao"],
    [
    "16f00 4b 4 39 7 11"],
    []⟩,
  ⟨["prti", "inscriptionalparthian"],
    [
    "10b40 16 2 8"],
    []⟩,
  ⟨["rjng", "rejang"],
    [
    "a930 24 b 1"],
    []⟩,
  ⟨["rohg", "hanifirohingya"],
    [
    "10d00 28 8 a"],
    [
    "60c 1 e 1 3 1 20 1 93 1 1062b 28 8 a"]⟩,
  ⟨["runr", "runic"],
    [
    "16a0 4b 3 b"],
    []⟩,
  ⟨["samr", "samaritan"],
    [
    "800 2e 2 f"],
    []⟩,
  ⟨["sarb", "oldsoutharabian"],
    [
    "10a60 20"],
    []⟩,
  ⟨["saur", "saurashtra"],
    [
    "a880 46 8 c"],
    []⟩,
  ⟨["sgnw", "signwriting"],
    [
    "1d800 28c f 5 1 f"],
    []⟩,
  ⟨["shaw", "shavian"],
    [
    "10450 30"],
    []⟩,
  ⟨["shrd", "sharada"],
    [
    "11180 60"],
    [
    "951 1 1385 1 1 1 2 2 2 1 f49f 60"]⟩,
  ⟨["sidd", "siddham"],
    [
    "11580 36 2 26"],
    []⟩,
  ⟨["sind", "khudawadi"],
    [
    "112b0 3b 5 a"],
    [
    "964 2 9eca a 6a76 3b 5 a"]⟩,
  ⟨["sinh", "sinhala"],
    [
    "d81 3 1 12 3 18 1 9 1 1 2 7 3 1 4 6 1 1 1 8 6 a 2 3 103ec 14"],
    [
    "964 2 41b 3 1 12 3 18 1 9 1 1 2 7 3 1 4 6 1 1 1 8 6 a 2 3 103ec 14"]⟩,
  ⟨["sogd", "sogdian"],
    [
    "10f30 2a"],
    [
    "640 1 108ef 2a"]⟩,
  ⟨["sogo", "oldsogdian"],
    [
    "10f00 28"],
    []⟩,
  ⟨["sora", "sorasompeng"],
    [
    "110d0 19 7 a"],
    []⟩,
  ⟨["soyo", "soyombo"],
    [
    "11a50 53"],
    []⟩,
  ⟨["sund", "sundanese"],
    [
    "1b80 40 100 8"],
    []⟩,
  ⟨["sylo", "sylotinagri"],
    [
    "a800 2d"],
    [
    "964 2 80 a 9e10 2d"]⟩,
  ⟨["syrc", "syriac"],
    [
    "700 e 1 3c 2 3 110 b"],
    [
    "60c 1 e 2 2 1 20 1 a b 1a 1 8f e 1 3c 2 3 110 b 158d 1 1 1"]⟩,
  ⟨["tagb", "tagbanwa"],
    [
    "1760 d 1 3 1 2"],
    [
    "1735 2 29 d 1 3 1 2"]⟩,
  ⟨["takr", "takri"],
    [
    "11680 3a 6 a"],
    [
    "964 2 9eca a 6e46 3a 6 a"]⟩,
  ⟨["tale", "taile"],
    [
    "1950 1e 2 5"],
    [
    "1040 a 906 1e 2 5"]⟩,
  ⟨["talu", "newtailue"],
    [
    "1980 2c 4 1a 6 b 3 2"],
    []⟩,
  ⟨["taml", "tamil"],
    [
    "b82 2 1 6 3 3 1 4 3 2 1 1 1 2 3 2 3 3 3 c 4 5 3 3 1 4 2 1 6 1 e 15 113c5 32 d 1"],
    [
    "951 2 11 2 21c 2 1 6 3 3 1 4 3 2 1 1 1 2 3 2 3 3 3 c 4 5 3 3 1 4 2 1 6 1 e 15 10df 1 8c18 1",
    "6a0d 1 1 1 37 2 c83 32 d 1"]⟩,
  ⟨["tang", "tangut"],
    [
    "16fe0 1 1f 17f8 8 300 200 9"],
    []⟩,
  ⟨["tavt", "taiviet"],
    [
    "aa80 43 18 5"],
    []⟩,
  ⟨["telu", "telugu"],
    [
    "c00 d 1 3 1 17 1 10 2 9 1 3 1 4 7 2 1 3 2 1 2 4 2 a 7 9"],
    [
    "951 2 11 2 29a d 1 3 1 17 1 10 2 9 1 3 1 4 7 2 1 3 2 1 2 4 2 a 7 9 105a 1 17 1"]⟩,
  ⟨["tfng", "tifinagh"],
    [
    "2d30 38 7 2 e 1"],
    []⟩,
  ⟨["tglg", "tagalog"],
    [
    "1700 16 9 1"],
    [
    "1700 16 9 1 15 2"]⟩,
  ⟨["thaa", "thaana"],
    [
    "780 32"],
    [
    "60c 1 e 2 2 1 40 a 116 32 f640 1 a 1"]⟩,
  ⟨["thai"],
    [
    "e01 3a 5 1c"],
    []⟩,
  ⟨["tibt", "tibetan"],
    [
    "f00 48 1 24 4 27 1 24 1 f 1 7 4 2"],
    []⟩,
  ⟨["tirh", "tirhuta"],
    [
    "11480 48 8 a"],
    [
    "951 2 11 2 138c 1 8b3d a 6c46 48 8 a"]⟩,
  ⟨["tnsa", "tangsa"],
    [
    "16a70 4f 1 a"],
    []⟩,
  ⟨["toto"],
    [
    "1e290 1f"],
    []⟩,
  ⟨["ugar", "ugaritic"],
    [
    "10380 1e 1 1"],
    []⟩,
  ⟨["vaii", "vai"],
    [
    "a500 12c"],
    []⟩,
  ⟨["vith", "vithkuqi"],
    [
    "10570 b 1 f 1 7 1 2 1 b 1 f 1 7 1 2"],
    []⟩,
  ⟨["wara", "warangciti"],
    [
    "118a0 53 c 1"],
    []⟩,
  ⟨["wcho", "wancho"],
    [
    "1e2c0 3a 5 1"],
    []⟩,
  ⟨["xpeo", "oldpersian"],
    [
    "103a0 24 4 e"],
    []⟩,
  ⟨["xsux", "cuneiform"],
    [
    "12000 39a 66 6f 1 5 b c4"],
    []⟩,
  ⟨["yezi", "yezidi"],
    [
    "10e80 2a 1 3 2 2"],
    [
    "60c 1 e 1 3 1 40 a 10816 2a 1 3 2 2"]⟩,
  ⟨["yiii", "yi"],
    [
    "a000 48d 3 37"],
    [
    "3001 2 5 a 2 8 df 1 6f04 48d 3 37 5a9a 5"]⟩,
  ⟨["zanb", "zanabazarsquare"],
    [
    "11a00 48"],
    []⟩,
  ⟨["zinh", "inherited", "qaai"],
    [
    "300 70 115 2 1c4 b 1a 1 2e0 4 115b 1f 201 3 1 d 1 7 4 1 6 1 3 2 c6 40 20c 2 c2 21 f39 4 6b 2",
    "cd65 10 10 e 3cf 1 e2 1 105a 1 bbc4 2e 2 17 220 3 11 8 2 7 1e 4 c2f52 f0"],
    [
    "300 42 1 2 1 1d 5f0 2 115b 1f 2f3 36 1 1 1 5 20c 2 c2 20 dd10 10 10 e 3cf 1 cd02 2e 2 17 220",
    "3 11 8 2 7 1e 4 c2f52 f0"]⟩,
  ⟨["zyyy", "common"],
    [
    "0 41 1a 6 1a 2f 1 f 1 5 17 1 1f 1 1c1 27 5 5 2 14 74 1 9 1 6 1 1 1 27d 1 6 1 e 1 3 1 20 1 9c",
    "1 204 1 81 2 4d9 1 195 4 122 1 5ef 3 47 2 cb 2 1 1 4cd 1 d 1 7 4 1 6 1 3 2 1 305 c 2 57 1 b",
    "3 b 1 f 11 21 3f 26 1 3 2 6 1 1b 1 11 29 3 4 297 19 b 15 3a0 100 274 2 20 1 69 200 5e 192 c",
    "4 5 1 1 1 19 f 8 4 4 5b 2 3 1 5a 2 93 10 20 24 3c 40 1f 51 2f 1 58 a8 19c0 40 5900 22 66 3",
    "a5 a f4 1 a0 1 18b 1 e 2 51d2 2 d0 a 16 23 1 13 1 4 93 1 1 20 1a 6 1a b a 1 2d 2 40 7 1 7 a",
    "5 102 3 4 2d 3 9 50 d 33 2d e4 1b b9a4 4 12ac 74 3c f6 a 27 2 3e 3 11 8 2 7 1e 4 3d d5 14 c",
    "14 c 57 9 19 87 55 1 47 1 2 2 1 2 2 2 4 1 c 1 1 1 7 1 41 1 4 2 8 1 7 1 1c 1 4 1 5 1 1 3 7 1",
    "154 2 124 2 32 1471 44 4c 3d 2c2 2c 4 64 c f 2 f 1 f 1 25 a ae 38 1a 1 2 d 2c 4 9 7 2 e 6 9a",
    "3d8 4 11 3 d 3 77 4 5f 6 c 4 1 f c 4 38 8 a 6 28 8 1e 2 2 4e 154 c e 2 d 3 9 7 2e 1 7 8 e 4",
    "9 7 9 7 93 1 37 25 a c0407 1 1e 60"],
    [
    "0 41 1a 6 1a 2f 1 f 1 5 17 1 1f 1 1c1 27 5 5 2 14 74 1 9 1 6 1 1 1 27d 1 d7 1 204 1 55c 1",
    "195 4 712 3 912 c 2 21 1 35 1 b 3 b 1 f 11 21 3f 26 1 3 2 6 1 1b 1 11 29 3 4 297 19 b 15 3a0",
    "100 274 2 20 1 69 200 43 1 1a 192 c 4 1 3 1 d 1 d 1 15 1 211 18 1f 1 31 f c 4 a1 a 5 60 1f 1",
    "19c0 40 5908 1a 66 3 3d0 1 e 2 52a4 a 16 15 2 c 1 13 1 4 93 1 1 20 1a 6 1a 6 7f 7 1 7 a 5",
    "192 d 33 2d cd53 74 3c f6 a 27 2 3e 3 11 8 2 7 1e 4 3d d5 14 c 14 c 57 1b 7 87 55 1 47 1 2 2",
    "1 2 2 2 4 1 c 1 1 1 7 1 41 1 4 2 8 1 7 1 1c 1 4 1 5 1 1 3 7 1 154 2 124 2 32 1471 44 4c 3d",
    "2c2 2c 4 64 c f 2 f 1 f 1 25 a ae 38 1a 1 2 d 2c 4 9 17 6 9a 3d8 4 11 3 d 3 77 4 5f 6 c 4 1",
    "f c 4 38 8 a 6 28 8 1e 2 2 4e 154 c e 2 d 3 9 7 2e 1 7 8 e 4 9 7 9 7 93 1 37 25 a c0407 1 1e",
    "60"]⟩,
  ⟨["zzzz", "unknown"],
    [
    "378 2 6 4 7 1 1 1 14 1 18d 1 26 2 32 2 3 1 37 8 1b 4 6 b 10e 1 3c 2 65 e 3b 2 31 2 f 1 1c 2",
    "1 1 b 5 1f 1 2 6 ec 1 8 2 2 2 16 1 7 1 1 3 4 2 9 2 2 2 4 8 1 4 2 1 5 2 19 2 3 1 6 4 2 2 16 1",
    "7 1 2 1 2 1 2 2 1 1 5 4 2 2 3 3 1 7 4 1 1 7 11 a 3 1 9 1 3 1 16 1 7 1 2 1 5 2 a 1 3 1 3 2 1",
    "f 4 2 c 7 7 1 3 1 8 2 2 2 16 1 7 1 2 1 5 2 9 2 2 2 3 7 3 4 2 1 5 2 12 a 2 1 6 3 3 1 4 3 2 1",
    "1 1 2 3 2 3 3 3 c 4 5 3 3 1 4 2 1 6 1 e 15 5 d 1 3 1 17 1 10 2 9 1 3 1 4 7 2 1 3 2 1 2 4 2 a",
    "7 16 1 3 1 17 1 a 1 5 2 9 1 3 1 4 7 2 6 2 1 4 2 a 1 3 c d 1 3 1 33 1 3 1 6 4 10 2 1a 1 3 1",
    "12 3 18 1 9 1 1 2 7 3 1 4 6 1 1 1 8 6 a 2 3 c 3a 4 1d 25 2 1 1 1 5 1 18 1 1 1 17 2 5 1 1 1 7",
    "1 a 2 4 20 48 1 24 4 27 1 24 1 f 1 d 25 c6 1 1 5 1 2 179 1 4 2 7 1 1 1 4 2 29 1 4 2 21 1 4 2",
    "7 1 1 1 4 2 f 1 39 1 4 2 43 2 20 3 1a 6 56 2 6 2 29d 3 59 7 16 9 18 9 14 c d 1 3 1 2 c 5e 2",
    "a 6 a 6 1a 6 59 7 2b 5 46 a 1f 1 c 4 c 4 1 3 2a 2 5 b 2c 4 1a 6 b 3 3e 2 41 1 1d 2 b 6 a 6 e",
    "2 1f 31 4d 3 2f 1 74 8 3c 3 f 3 3c 7 2b 2 b 8 2b 5 216 2 6 2 26 2 6 2 8 1 1 1 1 1 1 1 1f 2",
    "35 1 f 1 e 2 6 1 13 2 3 1 9 1 65 1 c 2 1b 1 d 3 21 f 21 f 8c 4 297 19 b 15 714 2 20 1 15d 5",
    "2d 1 1 5 1 2 38 7 2 e 18 9 7 1 7 1 7 1 7 1 7 1 7 1 7 1 7 1 7e 22 1a 1 59 c d6 1a c 4 40 1 56",
    "2 67 5 2b 1 5e 1 54 c 2f 1 726d 3 37 9 15c 14 b8 8 cb 5 2 1 1 1 5 18 3b 3 a 6 38 8 46 8 c 6",
    "74 b 1e 3 4e 1 b 4 21 1 37 9 e 2 a 2 67 18 1c a 6 2 6 2 6 9 7 1 7 1 3c 4 7e 2 a 6 2ba4 c 17",
    "4 31 2104 16e 2 6a 26 7 c 5 5 1a 1 5 1 1 1 2 1 2 1 7d 10 1bd 2 36 7 1 20 2a 6 33 1 13 1 4 4",
    "5 1 87 2 1 1 be 3 6 2 6 2 6 2 3 3 7 1 7 a 5 2 c 1 1a 1 13 1 2 1 f 2 e 22 7b 5 3 4 2d 3 58 1",
    "d 3 1 2f 2e 82 1d 3 31 f 1c 4 24 9 1e 5 2b 5 1e 1 25 4 e 2a 9e 2 a 6 24 4 24 4 28 8 34 b c 1",
    "f 1 7 1 2 1 b 1 f 1 7 1 2 43 137 9 16 a 8 18 6 1 2a 1 9 45 6 2 1 1 2c 1 2 3 1 2 17 1 48 8 9",
    "30 13 1 2 5 21 3 1b 5 1 40 38 4 14 2 32 1 2 5 8 1 3 1 1d 2 3 4 a 7 9 7 40 20 27 4 c 9 36 3",
    "1d 2 1b 5 1a 7 4 c 7 50 49 37 33 d 33 7 2e 8 a 126 1f 1 2a 1 3 2 2 4b 2b 8 2a 16 1a 26 1c 14",
    "17 9 4e 4 24 9 44 a 1 2 19 7 a 6 35 1 12 8 27 9 60 1 14 b 12 1 2f 3e 7 1 1 1 4 1 f 1 b 6 3b",
    "5 a 6 4 1 8 2 2 2 16 1 7 1 2 1 5 1 a 2 2 2 3 2 1 6 1 5 7 2 7 3 5 8b 5c 1 5 1e 48 8 a a6 36 2",
    "26 22 45 b a 6 d 13 3a 6 a 36 1b 2 f 4 17 b9 3c 64 53 c 8 2 1 2 8 1 2 1 1e 1 2 2 c 9 a 46 8",
    "2 2e 2 b 1b 48 8 53 d 49 7 a f6 9 1 2d 1 e a 1d 3 20 2 16 1 e 49 7 1 2 1 2c 3 1 1 2 1 9 8 a",
    "6 6 1 2 1 25 1 2 1 6 7 a 136 19 7 11 1 29 3 1c 56 1 f 32 d 39b 66 6f 1 5 b c4 a4c 63 d 456",
    "faa 247 21b9 239 7 1f 1 a 4 51 1 a 6 1e 2 6 a 46 a a 1 7 1 15 5 13 2b0 5b 65 4b 4 39 7 11 40",
    "5 b 2 e 17f8 8 4d6 2a 9 22e7 4 1 7 1 2 1 123 f 1 1d 3 2 1 e 4 8 18c 904 6b 5 d 3 9 7 a 2 8",
    "125c 2e 2 17 9 74 3c f6 a 27 2 c2 15 46 7a 14 c 14 c 57 9 19 87 55 1 47 1 2 2 1 2 2 2 4 1 c",
    "1 1 1 7 1 41 1 4 2 8 1 7 1 1c 1 4 1 5 1 1 3 7 1 154 2 124 2 2be f 5 1 f 450 1f 6 6 d5 7 1 11",
    "2 7 1 2 1 5 5 3e 21 1 70 2d 3 e 2 a 4 2 140 1f 11 3a 5 1 1d0 2a 2e6 7 1 4 1 2 1 f 1 c5 2 10",
    "29 4c 4 a 4 2 311 44 4c 3d c2 4 1 1b 1 2 1 1 2 1 1 a 1 4 1 1 1 1 6 1 4 1 1 1 1 1 1 3 1 2 1 1",
    "2 1 1 1 1 1 1 1 1 1 1 2 1 1 2 4 1 7 1 4 1 4 1 1 1 a 1 11 5 3 1 5 1 11 34 2 10e 2c 4 64 c f 2",
    "f 1 f 1 25 a ae 38 1d d 2c 4 9 7 2 e 6 9a 3d8 4 11 3 d 3 77 4 5f 6 c 4 1 f c 4 38 8 a 6 28 8",
    "1e 2 2 4e 154 c e 2 d 3 9 7 2e 1 7 8 e 4 9 7 9 7 93 1 37 25 a 406 a6e0 20 103a 6 de 2 1682 e",
    "1d31 c1f 21e 5e2 134b 5 1060 adc51 1 1e 60 80 f0"],
    []⟩]

def script? (name : String) : Option Script := scripts.find? fun script => script.names.contains name

def Script.ranges (script : Script) : Ranges := decodeRanges script.own

def Script.extendedRanges (script : Script) : Ranges :=
  decodeRanges (if script.extended.isEmpty then script.own else script.extended)

end Stencil.Unicode
