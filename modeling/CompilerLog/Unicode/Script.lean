import CompilerLog.Unicode.Table
/-!
# Scripts

The script of every code point, and the code points that several scripts share, from version 15.0
of the Unicode character database. A script is known by its number in `scriptNames`.
-/

namespace CompilerLog.Unicode

/-- The names of each script, in lower case and without separators. -/
def scriptNames : List (List String) :=
  [["adlm", "adlam"], ["ahom"], ["hluw", "anatolianhieroglyphs"], ["arab", "arabic"],
   ["armn", "armenian"], ["avst", "avestan"], ["bali", "balinese"], ["bamu", "bamum"],
   ["bass", "bassavah"], ["batk", "batak"], ["beng", "bengali"], ["bhks", "bhaiksuki"],
   ["bopo", "bopomofo"], ["brah", "brahmi"], ["brai", "braille"], ["bugi", "buginese"],
   ["buhd", "buhid"], ["cans", "canadianaboriginal"], ["cari", "carian"],
   ["aghb", "caucasianalbanian"], ["cakm", "chakma"], ["cham"], ["cher", "cherokee"],
   ["chrs", "chorasmian"], ["zyyy", "common"], ["copt", "coptic", "qaac"], ["xsux", "cuneiform"],
   ["cprt", "cypriot"], ["cpmn", "cyprominoan"], ["cyrl", "cyrillic"], ["dsrt", "deseret"],
   ["deva", "devanagari"], ["diak", "divesakuru"], ["dogr", "dogra"], ["dupl", "duployan"],
   ["egyp", "egyptianhieroglyphs"], ["elba", "elbasan"], ["elym", "elymaic"],
   ["ethi", "ethiopic"], ["geor", "georgian"], ["glag", "glagolitic"], ["goth", "gothic"],
   ["gran", "grantha"], ["grek", "greek"], ["gujr", "gujarati"], ["gong", "gunjalagondi"],
   ["guru", "gurmukhi"], ["hani", "han"], ["hang", "hangul"], ["rohg", "hanifirohingya"],
   ["hano", "hanunoo"], ["hatr", "hatran"], ["hebr", "hebrew"], ["hira", "hiragana"],
   ["armi", "imperialaramaic"], ["zinh", "inherited", "qaai"], ["phli", "inscriptionalpahlavi"],
   ["prti", "inscriptionalparthian"], ["java", "javanese"], ["kthi", "kaithi"],
   ["knda", "kannada"], ["kana", "katakana"], ["kawi"], ["kali", "kayahli"],
   ["khar", "kharoshthi"], ["kits", "khitansmallscript"], ["khmr", "khmer"], ["khoj", "khojki"],
   ["sind", "khudawadi"], ["laoo", "lao"], ["latn", "latin"], ["lepc", "lepcha"],
   ["limb", "limbu"], ["lina", "lineara"], ["linb", "linearb"], ["lisu"], ["lyci", "lycian"],
   ["lydi", "lydian"], ["mahj", "mahajani"], ["maka", "makasar"], ["mlym", "malayalam"],
   ["mand", "mandaic"], ["mani", "manichaean"], ["marc", "marchen"], ["gonm", "masaramgondi"],
   ["medf", "medefaidrin"], ["mtei", "meeteimayek"], ["mend", "mendekikakui"],
   ["merc", "meroiticcursive"], ["mero", "meroitichieroglyphs"], ["plrd", "miao"], ["modi"],
   ["mong", "mongolian"], ["mroo", "mro"], ["mult", "multani"], ["mymr", "myanmar"],
   ["nbat", "nabataean"], ["nagm", "nagmundari"], ["nand", "nandinagari"], ["talu", "newtailue"],
   ["newa"], ["nkoo", "nko"], ["nshu", "nushu"], ["hmnp", "nyiakengpuachuehmong"],
   ["ogam", "ogham"], ["olck", "olchiki"], ["hung", "oldhungarian"], ["ital", "olditalic"],
   ["narb", "oldnortharabian"], ["perm", "oldpermic"], ["xpeo", "oldpersian"],
   ["sogo", "oldsogdian"], ["sarb", "oldsoutharabian"], ["orkh", "oldturkic"],
   ["ougr", "olduyghur"], ["orya", "oriya"], ["osge", "osage"], ["osma", "osmanya"],
   ["hmng", "pahawhhmong"], ["palm", "palmyrene"], ["pauc", "paucinhau"], ["phag", "phagspa"],
   ["phnx", "phoenician"], ["phlp", "psalterpahlavi"], ["rjng", "rejang"], ["runr", "runic"],
   ["samr", "samaritan"], ["saur", "saurashtra"], ["shrd", "sharada"], ["shaw", "shavian"],
   ["sidd", "siddham"], ["sgnw", "signwriting"], ["sinh", "sinhala"], ["sogd", "sogdian"],
   ["sora", "sorasompeng"], ["soyo", "soyombo"], ["sund", "sundanese"], ["sylo", "sylotinagri"],
   ["syrc", "syriac"], ["tglg", "tagalog"], ["tagb", "tagbanwa"], ["tale", "taile"],
   ["lana", "taitham"], ["tavt", "taiviet"], ["takr", "takri"], ["taml", "tamil"],
   ["tnsa", "tangsa"], ["tang", "tangut"], ["telu", "telugu"], ["thaa", "thaana"], ["thai"],
   ["tibt", "tibetan"], ["tfng", "tifinagh"], ["tirh", "tirhuta"], ["toto"], ["ugar", "ugaritic"],
   ["zzzz", "unknown"], ["vaii", "vai"], ["vith", "vithkuqi"], ["wcho", "wancho"],
   ["wara", "warangciti"], ["yezi", "yezidi"], ["yiii", "yi"], ["zanb", "zanabazarsquare"]]

/-- Runs of code points of one script: the length of each run and the number of its script. -/
def scriptRows : List String :=
  ["65 24 26 70 6 24 26 70 47 24 1 70 15 24 1 70 5 24 23 70 1 24 31 70 1 24 449 70 39 24 5 70",
   "5 24 2 12 20 24 112 55 4 43 1 24 3 43 2 156 4 43 1 24 1 43 4 156 1 43 1 24 1 43 1 24 3 43",
   "1 156 1 43 1 156 20 43 1 156 63 43 14 25 16 43 133 29 2 55 169 29 1 156 38 4 2 156 50 4",
   "2 156 3 4 1 156 55 52 8 156 27 52 4 156 6 52 11 156 5 3 1 24 6 3 1 24 14 3 1 24 3 3 1 24",
   "32 3 1 24 10 3 11 55 26 3 1 55 108 3 1 24 34 3 14 138 1 156 60 138 2 156 3 138 48 3 50 149",
   "14 156 59 101 2 156 3 101 46 126 2 156 15 126 1 156 28 81 2 156 1 81 1 156 11 138 5 156 31 3",
   "1 156 2 3 6 156 74 3 1 24 29 3 81 31 4 55 15 31 2 24 26 31 4 10 1 156 8 10 2 156 2 10 2 156",
   "22 10 1 156 7 10 1 156 1 10 3 156 4 10 2 156 9 10 2 156 2 10 2 156 4 10 8 156 1 10 4 156",
   "2 10 1 156 5 10 2 156 25 10 2 156 3 46 1 156 6 46 4 156 2 46 2 156 22 46 1 156 7 46 1 156",
   "2 46 1 156 2 46 1 156 2 46 2 156 1 46 1 156 5 46 4 156 2 46 2 156 3 46 3 156 1 46 7 156 4 46",
   "1 156 1 46 7 156 17 46 10 156 3 44 1 156 9 44 1 156 3 44 1 156 22 44 1 156 7 44 1 156 2 44",
   "1 156 5 44 2 156 10 44 1 156 3 44 1 156 3 44 2 156 1 44 15 156 4 44 2 156 12 44 7 156 7 44",
   "1 156 3 115 1 156 8 115 2 156 2 115 2 156 22 115 1 156 7 115 1 156 2 115 1 156 5 115 2 156",
   "9 115 2 156 2 115 2 156 3 115 7 156 3 115 4 156 2 115 1 156 5 115 2 156 18 115 10 156 2 145",
   "1 156 6 145 3 156 3 145 1 156 4 145 3 156 2 145 1 156 1 145 1 156 2 145 3 156 2 145 3 156",
   "3 145 3 156 12 145 4 156 5 145 3 156 3 145 1 156 4 145 2 156 1 145 6 156 1 145 14 156 21 145",
   "5 156 13 148 1 156 3 148 1 156 23 148 1 156 16 148 2 156 9 148 1 156 3 148 1 156 4 148 7 156",
   "2 148 1 156 3 148 2 156 1 148 2 156 4 148 2 156 10 148 7 156 9 148 13 60 1 156 3 60 1 156",
   "23 60 1 156 10 60 1 156 5 60 2 156 9 60 1 156 3 60 1 156 4 60 7 156 2 60 6 156 2 60 1 156",
   "4 60 2 156 10 60 1 156 3 60 12 156 13 80 1 156 3 80 1 156 51 80 1 156 3 80 1 156 6 80 4 156",
   "16 80 2 156 26 80 1 156 3 132 1 156 18 132 3 156 24 132 1 156 9 132 1 156 1 132 2 156 7 132",
   "3 156 1 132 4 156 6 132 1 156 1 132 1 156 8 132 6 156 10 132 2 156 3 132 12 156 58 150 4 156",
   "1 24 28 150 37 156 2 69 1 156 1 69 1 156 5 69 1 156 24 69 1 156 1 69 1 156 23 69 2 156 5 69",
   "1 156 1 69 1 156 7 69 1 156 10 69 2 156 4 69 32 156 72 151 1 156 36 151 4 156 39 151 1 156",
   "36 151 1 156 15 151 1 156 7 151 4 24 2 151 37 156 160 95 38 39 1 156 1 39 5 156 1 39 2 156",
   "43 39 1 24 4 39 256 48 73 38 1 156 4 38 2 156 7 38 1 156 1 38 1 156 4 38 2 156 41 38 1 156",
   "4 38 2 156 33 38 1 156 4 38 2 156 7 38 1 156 1 38 1 156 4 38 2 156 15 38 1 156 57 38 1 156",
   "4 38 2 156 67 38 2 156 32 38 3 156 26 38 6 156 86 22 2 156 6 22 2 156 640 17 29 104 3 156",
   "75 125 3 24 11 125 7 156 22 139 9 156 1 139 21 50 2 24 9 156 20 16 12 156 13 140 1 156 3 140",
   "1 156 2 140 12 156 94 66 2 156 10 66 6 156 10 66 6 156 2 92 2 24 1 92 1 24 20 92 6 156 89 92",
   "7 156 43 92 5 156 70 17 10 156 31 72 1 156 12 72 4 156 12 72 4 156 1 72 3 156 12 72 30 141",
   "2 156 5 141 11 156 44 99 4 156 26 99 6 156 11 99 3 156 2 99 32 66 28 15 2 156 2 15 63 142",
   "1 156 29 142 2 156 11 142 6 156 10 142 6 156 14 142 2 156 31 55 49 156 77 6 3 156 47 6 1 156",
   "64 136 52 9 8 156 4 9 56 71 3 156 15 71 3 156 3 71 48 105 9 29 7 156 43 39 2 156 3 39 8 136",
   "8 156 3 55 1 24 13 55 1 24 7 55 4 24 1 55 6 24 1 55 3 24 2 55 1 24 5 156 38 70 5 43 1 29",
   "49 70 5 43 4 70 5 43 13 70 1 29 70 70 1 43 64 55 256 70 22 43 2 156 6 43 2 156 38 43 2 156",
   "6 43 2 156 8 43 1 156 1 43 1 156 1 43 1 156 1 43 1 156 31 43 2 156 53 43 1 156 15 43 1 156",
   "14 43 2 156 6 43 1 156 19 43 2 156 3 43 1 156 9 43 1 156 12 24 2 55 87 24 1 156 11 24 1 70",
   "2 156 11 24 1 70 15 24 1 156 13 70 3 156 33 24 15 156 33 55 15 156 38 24 1 43 3 24 2 70 6 24",
   "1 70 27 24 1 70 17 24 41 70 3 24 4 156 663 24 25 156 11 24 21 156 928 24 256 14 628 24 2 156",
   "32 24 1 156 105 24 96 40 32 70 116 25 5 156 7 25 38 39 1 156 1 39 5 156 1 39 2 156 56 152",
   "7 156 2 152 14 156 1 152 23 38 9 156 7 38 1 156 7 38 1 156 7 38 1 156 7 38 1 156 7 38 1 156",
   "7 38 1 156 7 38 1 156 7 38 1 156 32 29 94 24 34 156 26 47 1 156 89 47 12 156 214 47 26 156",
   "12 24 4 156 5 24 1 47 1 24 1 47 25 24 9 47 4 55 2 48 8 24 4 47 4 24 1 156 86 53 2 156 2 55",
   "2 24 3 53 1 24 90 61 2 24 3 61 5 156 43 12 1 156 94 48 1 156 16 24 32 12 36 24 12 156 16 61",
   "31 48 1 156 64 24 31 48 81 24 47 61 1 24 88 61 168 24 6592 47 64 24 20992 47 1165 162 3 156",
   "55 162 9 156 48 75 300 157 20 156 96 29 88 7 8 156 34 24 102 70 3 24 64 70 5 156 2 70 1 156",
   "1 70 1 156 5 70 24 156 14 70 45 137 3 156 10 24 6 156 56 121 8 156 70 127 8 156 12 127 6 156",
   "32 31 46 63 1 24 1 63 36 124 11 156 1 124 29 48 3 156 78 58 1 156 1 24 10 58 4 156 2 58",
   "31 95 1 156 55 21 9 156 14 21 2 156 10 21 2 156 4 21 32 95 67 143 24 156 5 143 23 86 10 156",
   "6 38 2 156 6 38 2 156 6 38 9 156 7 38 1 156 7 38 1 156 43 70 1 24 9 70 1 43 4 70 2 24 4 156",
   "80 22 46 86 2 156 10 86 6 156 11172 48 12 156 23 48 4 156 49 48 8452 156 366 47 2 156 106 47",
   "38 156 7 70 12 156 5 4 5 156 26 52 1 156 5 52 1 156 1 52 1 156 2 52 1 156 2 52 1 156 10 52",
   "115 3 16 156 363 3 2 24 80 3 2 156 54 3 7 156 1 3 32 156 16 3 16 55 10 24 6 156 14 55 2 29",
   "35 24 1 156 19 24 1 156 4 24 4 156 5 3 1 156 135 3 2 156 1 24 1 156 32 24 26 70 6 24 26 70",
   "11 24 10 61 1 24 45 61 2 24 31 48 3 156 6 48 2 156 6 48 2 156 6 48 2 156 3 48 3 156 7 24",
   "1 156 7 24 10 156 5 24 2 156 12 74 1 156 26 74 1 156 19 74 1 156 2 74 1 156 15 74 2 156",
   "14 74 34 156 123 74 5 156 3 24 4 156 45 24 3 156 9 24 79 43 1 156 13 24 3 156 1 43 47 156",
   "45 24 1 55 130 156 29 76 3 156 49 18 15 156 1 55 27 24 4 156 36 107 9 156 3 107 27 41 5 156",
   "43 109 5 156 30 155 1 156 1 155 36 110 4 156 14 110 42 156 80 30 48 129 30 117 2 156 10 117",
   "6 156 36 116 4 156 36 116 4 156 40 36 8 156 52 19 11 156 1 19 11 158 1 156 15 158 1 156",
   "7 158 1 156 2 158 1 156 11 158 1 156 15 158 1 156 7 158 1 156 2 158 67 156 311 73 9 156",
   "22 73 10 156 8 73 24 156 6 70 1 156 42 70 1 156 9 70 69 156 6 27 2 156 1 27 1 156 44 27",
   "1 156 2 27 3 156 1 27 2 156 1 27 22 54 1 156 9 54 32 119 31 96 8 156 9 96 48 156 19 51 1 156",
   "2 51 5 156 5 51 28 122 3 156 1 122 26 77 5 156 1 77 64 156 32 89 24 88 4 156 20 88 2 156",
   "46 88 4 64 1 156 2 64 5 156 8 64 1 156 3 64 1 156 29 64 2 156 3 64 4 156 10 64 7 156 9 64",
   "7 156 32 112 32 108 32 156 39 82 4 156 12 82 9 156 54 5 3 156 7 5 22 57 2 156 8 57 19 56",
   "5 156 8 56 18 123 7 156 4 123 12 156 7 123 80 156 73 113 55 156 51 106 13 156 51 106 7 156",
   "6 106 40 49 8 156 10 49 294 156 31 3 1 156 42 161 1 156 3 161 2 156 2 161 75 156 3 3 40 111",
   "8 156 42 133 22 156 26 114 38 156 28 23 20 156 23 37 9 156 78 13 4 156 36 13 9 156 1 13",
   "67 59 10 156 1 59 2 156 25 134 7 156 10 134 6 156 53 20 1 156 18 20 8 156 39 78 9 156 96 128",
   "1 156 20 132 11 156 18 67 1 156 47 67 62 156 7 94 1 156 1 94 1 156 4 94 1 156 15 94 1 156",
   "11 94 6 156 59 68 5 156 10 68 6 156 4 42 1 156 8 42 2 156 2 42 2 156 22 42 1 156 7 42 1 156",
   "2 42 1 156 5 42 1 156 1 55 9 42 2 156 2 42 2 156 3 42 2 156 1 42 6 156 1 42 5 156 7 42 2 156",
   "7 42 3 156 5 42 139 156 92 100 1 156 5 100 30 156 72 153 8 156 10 153 166 156 54 130 2 156",
   "38 130 34 156 69 91 11 156 10 91 6 156 13 92 19 156 58 144 6 156 10 144 54 156 27 1 2 156",
   "15 1 4 156 23 1 185 156 60 33 100 156 83 160 12 156 1 160 7 32 2 156 1 32 2 156 8 32 1 156",
   "2 32 1 156 30 32 1 156 2 32 2 156 12 32 9 156 10 32 70 156 8 98 2 156 46 98 2 156 11 98",
   "27 156 72 163 8 156 83 135 13 156 16 17 57 120 7 156 10 31 246 156 9 11 1 156 45 11 1 156",
   "14 11 10 156 29 11 3 156 32 83 2 156 22 83 1 156 14 83 73 156 7 84 1 156 2 84 1 156 44 84",
   "3 156 1 84 1 156 2 84 1 156 9 84 8 156 10 84 6 156 6 45 1 156 2 45 1 156 37 45 1 156 2 45",
   "1 156 6 45 7 156 10 45 310 156 25 79 7 156 17 62 1 156 41 62 3 156 28 62 86 156 1 75 15 156",
   "50 145 13 156 1 145 922 26 102 156 111 26 1 156 5 26 11 156 196 26 2636 156 99 28 13 156",
   "1110 35 4010 156 583 2 8633 156 569 7 7 156 31 93 1 156 10 93 4 156 2 93 79 146 1 156 10 146",
   "6 156 30 8 2 156 6 8 10 156 70 118 10 156 10 118 1 156 7 118 1 156 21 118 5 156 19 118",
   "688 156 91 85 101 156 75 90 4 156 57 90 7 156 17 90 64 156 1 147 1 102 2 47 1 65 11 156 2 47",
   "14 156 6136 147 8 156 768 147 470 65 42 156 9 147 8935 156 4 61 1 156 7 61 1 156 2 61 1 156",
   "1 61 287 53 3 61 15 156 1 53 29 156 3 53 2 156 1 61 14 156 4 61 8 156 396 102 2308 156",
   "107 34 5 156 13 34 3 156 9 34 7 156 10 34 2 156 4 34 4 24 4700 156 46 55 2 156 23 55 9 156",
   "116 24 60 156 246 24 10 156 39 24 2 156 62 24 3 55 17 24 8 55 2 24 7 55 30 24 4 55 61 24",
   "21 156 70 43 122 156 20 24 12 156 20 24 12 156 87 24 9 156 25 24 135 156 85 24 1 156 71 24",
   "1 156 2 24 2 156 1 24 2 156 2 24 2 156 4 24 1 156 12 24 1 156 1 24 1 156 7 24 1 156 65 24",
   "1 156 4 24 2 156 8 24 1 156 7 24 1 156 28 24 1 156 4 24 1 156 5 24 1 156 1 24 3 156 7 24",
   "1 156 340 24 2 156 292 24 2 156 50 24 652 131 15 156 5 131 1 156 15 131 1104 156 31 70 6 156",
   "6 70 213 156 7 40 1 156 17 40 2 156 7 40 1 156 2 40 1 156 5 40 5 156 62 29 33 156 1 29",
   "112 156 45 103 3 156 14 103 2 156 10 103 4 156 2 103 320 156 31 154 17 156 58 159 5 156",
   "1 159 464 156 42 97 742 156 7 38 1 156 4 38 1 156 2 38 1 156 15 38 1 156 197 87 2 156 16 87",
   "41 156 76 0 4 156 10 0 4 156 2 0 785 156 68 24 76 156 61 24 194 156 4 3 1 156 27 3 1 156 2 3",
   "1 156 1 3 2 156 1 3 1 156 10 3 1 156 4 3 1 156 1 3 1 156 1 3 6 156 1 3 4 156 1 3 1 156 1 3",
   "1 156 1 3 1 156 3 3 1 156 2 3 1 156 1 3 2 156 1 3 1 156 1 3 1 156 1 3 1 156 1 3 1 156 1 3",
   "1 156 2 3 1 156 1 3 2 156 4 3 1 156 7 3 1 156 4 3 1 156 4 3 1 156 1 3 1 156 10 3 1 156 17 3",
   "5 156 3 3 1 156 5 3 1 156 17 3 52 156 2 3 270 156 44 24 4 156 100 24 12 156 15 24 2 156",
   "15 24 1 156 15 24 1 156 37 24 10 156 174 24 56 156 26 24 1 53 2 24 13 156 44 24 4 156 9 24",
   "7 156 2 24 14 156 6 24 154 156 984 24 4 156 17 24 3 156 13 24 3 156 119 24 4 156 95 24 6 156",
   "12 24 4 156 1 24 15 156 12 24 4 156 56 24 8 156 10 24 6 156 40 24 8 156 30 24 2 156 2 24",
   "78 156 340 24 12 156 14 24 2 156 13 24 3 156 9 24 7 156 46 24 1 156 7 24 8 156 14 24 4 156",
   "9 24 7 156 9 24 7 156 147 24 1 156 55 24 37 156 10 24 1030 156 42720 47 32 156 4154 47 6 156",
   "222 47 2 156 5762 47 14 156 7473 47 3103 156 542 47 1506 156 4939 47 5 156 4192 47",
   "711761 156 1 24 30 156 96 24 128 156 240 55 196112 156"]

/-- Code points used by scripts other than their own: the first one, how many there are, and the
number of scripts with their numbers. -/
def sharedRows : List String :=
  ["834 1 1 43 837 1 1 43 867 13 1 70 1155 1 2 29 109 1156 1 2 29 40 1157 2 2 29 70",
   "1159 1 2 29 40 1548 1 6 3 101 49 138 149 161 1563 1 6 3 101 49 138 149 161",
   "1564 1 3 3 138 149 1567 1 7 0 3 101 49 138 149 161 1600 1 9 0 3 81 82 114 123 49 133 138",
   "1611 11 2 3 138 1632 10 3 3 149 161 1648 1 2 3 138 1748 1 2 3 49",
   "2385 1 13 10 31 42 44 46 60 70 80 115 128 145 148 153",
   "2386 1 12 10 31 42 44 46 60 70 80 115 145 148 153",
   "2404 1 20 10 31 33 45 84 42 44 46 60 78 80 98 115 68 132 137 144 145 148 153",
   "2405 1 21 10 31 33 45 84 42 44 46 60 72 78 80 98 115 68 132 137 144 145 148 153",
   "2406 10 4 31 33 59 78 2534 10 3 10 20 137 2662 10 2 46 94 2790 10 2 44 67 3046 14 2 42 145",
   "3302 10 2 60 98 4160 10 3 20 95 141 4347 1 2 39 70 5941 2 4 16 50 140 139 6146 2 2 92 121",
   "6149 1 2 92 121 7376 1 4 10 31 42 60 7377 1 1 31 7378 1 4 10 31 42 60 7379 1 2 31 42",
   "7380 1 1 31 7381 2 2 10 31 7383 1 2 31 128 7384 1 2 10 31 7385 1 2 31 128",
   "7386 1 6 31 60 80 115 145 148 7387 1 1 31 7388 2 2 31 128 7390 2 1 31 7392 1 2 31 128",
   "7393 1 2 10 31 7394 7 1 31 7401 1 2 31 98 7402 1 2 10 31 7403 2 1 31 7405 1 2 10 31",
   "7406 4 1 31 7410 1 8 10 31 42 60 98 115 148 153 7411 1 2 31 42 7412 1 3 31 42 60",
   "7413 2 2 10 31 7415 1 1 10 7416 2 2 31 42 7418 1 1 98 7616 2 1 43 7672 1 2 29 138",
   "7674 1 1 138 8239 1 2 70 92 8432 1 3 31 42 70 11843 1 2 29 40 12289 2 6 12 48 47 53 61 162",
   "12291 1 5 12 48 47 53 61 12294 1 1 47 12296 10 6 12 48 47 53 61 162 12307 1 5 12 48 47 53 61",
   "12308 8 6 12 48 47 53 61 162 12316 4 5 12 48 47 53 61 12330 4 2 12 47",
   "12336 1 5 12 48 47 53 61 12337 5 2 53 61 12343 1 5 12 48 47 53 61 12348 2 3 47 53 61",
   "12350 2 1 47 12441 4 2 53 61 12448 1 2 53 61 12539 1 6 12 48 47 53 61 162 12540 1 2 53 61",
   "12688 16 1 47 12736 36 1 47 12832 40 1 47 12928 49 1 47 12992 12 1 47 13055 1 1 47",
   "13144 25 1 47 13179 5 1 47 13280 31 1 47 42607 1 2 29 40 42752 8 2 47 70",
   "43056 3 14 31 33 44 46 67 60 59 78 80 91 98 68 144 153",
   "43059 3 13 31 33 44 46 67 60 59 78 91 98 68 144 153",
   "43062 4 11 31 33 44 46 67 59 78 91 68 144 153 43249 1 2 10 31 43251 1 2 31 145",
   "43310 1 3 63 70 95 43471 1 2 15 58 64830 2 2 3 101 65010 1 2 3 149 65021 1 2 3 149",
   "65093 2 5 12 48 47 53 61 65377 5 6 12 48 47 53 61 162 65392 1 2 53 61 65438 2 2 53 61",
   "65792 2 3 28 27 74 65794 1 2 27 74 65799 45 3 27 73 74 65847 9 2 27 74 66272 28 2 3 25",
   "68338 1 2 82 114 70401 1 2 42 145 70403 1 2 42 145 70459 2 2 42 145 73680 2 2 42 145",
   "73683 1 2 42 145 113824 4 1 34 119648 18 1 47 127568 2 1 47"]

def scriptRuns : Runs := Runs.ofRows scriptRows

/-- Reads the rows of shared code points: the first one, their number and the scripts. -/
def shared : List (Nat × Nat × List Nat) := Table.groups (Table.numbers sharedRows)

def script? (name : String) : Option Nat :=
  scriptNames.findIdx? fun names => name ∈ names

def inScript (script : Nat) (c : Char) : Bool := scriptRuns.label c.toNat = script

/-- Whether a character is used by a script, which need not be its own. -/
def usedByScript (script : Nat) (c : Char) : Bool :=
  match shared.find? fun (first, count, _) => first ≤ c.toNat && c.toNat < first + count with
  | some (_, _, scripts) => scripts.contains script
  | none => inScript script c

end CompilerLog.Unicode
