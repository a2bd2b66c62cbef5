import ClassAudit.Unicode.Property

/-!
# Text boundaries

How a character counts when text is cut into user-perceived characters, words and sentences.  Each
value is a set of characters, given like a property; characters of no value are in none of them.

The tables are those of edition 16 of the standard.
-/

namespace ClassAudit.Unicode

def firstSyllable : Nat := 0xAC00

/-- The Hangul syllables without a final consonant, every 28th from `firstSyllable` on. -/
def openSyllables : CodeSet :=
  CodeSet.ofRanges ((List.range 399).map fun i => (firstSyllable + 28 * i, firstSyllable + 28 * i))

/-- The Hangul syllables with a final consonant, 27 behind each of `openSyllables`. -/
def closedSyllables : CodeSet :=
  CodeSet.ofRanges
    ((List.range 399).map fun i => (firstSyllable + 28 * i + 1, firstSyllable + 28 * i + 27))

/-- The values of `Grapheme_Cluster_Break`. -/
def graphemeBreaks : List Property := [
  { names := ["lv"]
    also := openSyllables },
  { names := ["lvt"]
    also := closedSyllables },
  { names := ["cn", "control"]
    also := CodeSet.ofRows
      ["0-9 b-c e-1f 7f-9f ad 61c 180e 200b 200e-200f 2028-202e 2060-206f feff fff0-fffb",
       "13430-1343f 1bca0-1bca3 1d173-1d17a e0000-e001f e0080-e00ff e01f0-e0fff"] },
  { names := ["cr"]
    also := CodeSet.ofRows
      ["d"] },
  { names := ["ex", "extend"]
    categories := ["mn", "me"]
    also := CodeSet.ofRows
      ["9be 9d7 b3e b57 bbe bd7 cc0 cc2 cc7-cc8 cca-ccb cd5-cd6 d3e d57 dcf ddf 1715 1734 1b35",
       "1b3b 1b3d 1b43-1b44 1baa 1bf2-1bf3 200c 302e-302f a953 a9c0 ff9e-ff9f 111c0 11235 1133e",
       "1134d 11357 113b8 113c2 113c5 113c7-113c9 113cf 114b0 114bd 115af 116b6 11930 1193d",
       "11f41 16ff0-16ff1 1d165-1d166 1d16d-1d172 1f3fb-1f3ff e0020-e007f"] },
  { names := ["l"]
    also := CodeSet.ofRows
      ["1100-115f a960-a97c"] },
  { names := ["lf"]
    also := CodeSet.ofRows
      ["a"] },
  { names := ["pp", "prepend"]
    also := CodeSet.ofRows
      ["600-605 6dd 70f 890-891 8e2 d4e 110bd 110cd 111c2-111c3 113d1 1193f 11941 11a3a",
       "11a84-11a89 11d46 11f02"] },
  { names := ["ri", "regionalindicator"]
    also := CodeSet.ofRows
      ["1f1e6-1f1ff"] },
  { names := ["sm", "spacingmark"]
    categories := ["mc"]
    also := CodeSet.ofRows
      ["e33 eb3"]
    but := CodeSet.ofRows
      ["9be 9d7 b3e b57 bbe bd7 cc0 cc2 cc7-cc8 cca-ccb cd5-cd6 d3e d57 dcf ddf 102b-102c 1038",
       "1062-1064 1067-106d 1083 1087-108c 108f 109a-109c 1715 1734 1a61 1a63-1a64 1b35 1b3b",
       "1b3d 1b43-1b44 1baa 1bf2-1bf3 302e-302f a953 a9c0 aa7b aa7d 111c0 11235 1133e 1134d",
       "11357 113b8 113c2 113c5 113c7-113c9 113cf 114b0 114bd 115af 116b6 11720-11721 11930",
       "1193d 11f41 16ff0-16ff1 1d165-1d166 1d16d-1d172"] },
  { names := ["t"]
    also := CodeSet.ofRows
      ["11a8-11ff d7cb-d7fb"] },
  { names := ["v"]
    also := CodeSet.ofRows
      ["1160-11a7 d7b0-d7c6 16d63 16d67-16d6a"] },
  { names := ["zwj"]
    also := CodeSet.ofRows
      ["200d"] }]

/-- The values of `Word_Break`. -/
def wordBreaks : List Property := [
  { names := ["le", "aletter"]
    categories := ["lu", "ll", "lt", "lm", "lo", "nl"]
    also := CodeSet.ofRows
      ["b8 2c2-2c5 2d2-2d7 2de-2df 2e5-2eb 2ed 2ef-2ff 55a-55c 55e 58a 5f3 70f 24b6-24e9",
       "a708-a716 a720-a721 a789-a78a ab5b 1f130-1f149 1f150-1f169 1f170-1f189"]
    but := CodeSet.ofRows
      ["5d0-5ea 5ef-5f2 e01-e30 e32-e33 e40-e46 e81-e82 e84 e86-e8a e8c-ea3 ea5 ea7-eb0 eb2-eb3",
       "ebd ec0-ec4 ec6 edc-edf 1000-102a 103f 1050-1055 105a-105d 1061 1065-1066 106e-1070",
       "1075-1081 108e 1780-17b3 17d7 17dc 1950-196d 1970-1974 1980-19ab 19b0-19c9 1a20-1a54",
       "1aa7 3006-3007 3021-3029 3031-3035 3038-303a 3041-3096 309d-309f 30a1-30fa 30fc-30ff",
       "31f0-31ff 3400-4dbf 4e00-9fff a9e0-a9e4 a9e6-a9ef a9fa-a9fe aa60-aa76 aa7a aa7e-aaaf",
       "aab1 aab5-aab6 aab9-aabd aac0 aac2 aadb-aadd f900-fa6d fa70-fad9 fb1d fb1f-fb28",
       "fb2a-fb36 fb38-fb3c fb3e fb40-fb41 fb43-fb44 fb46-fb4f ff66-ff9f 11700-1171a",
       "11740-11746 17000-187f7 18800-18cd5 18cff-18d08 1aff0-1aff3 1aff5-1affb 1affd-1affe",
       "1b000-1b122 1b132 1b150-1b152 1b155 1b164-1b167 1b170-1b2fb 20000-2a6df 2a700-2b739",
       "2b740-2b81d 2b820-2cea1 2ceb0-2ebe0 2ebf0-2ee5d 2f800-2fa1d 30000-3134a 31350-323af"] },
  { names := ["cr"]
    also := CodeSet.ofRows
      ["d"] },
  { names := ["dq", "doublequote"]
    also := CodeSet.ofRows
      ["22"] },
  { names := ["extend"]
    categories := ["mn", "mc", "me"]
    also := CodeSet.ofRows
      ["200c ff9e-ff9f 1f3fb-1f3ff e0020-e007f"] },
  { names := ["ex", "extendnumlet"]
    categories := ["pc"]
    also := CodeSet.ofRows
      ["202f"] },
  { names := ["fo", "format"]
    categories := ["cf"]
    but := CodeSet.ofRows
      ["600-605 6dd 70f 890-891 8e2 200b-200d 110bd 110cd e0020-e007f"] },
  { names := ["hl", "hebrewletter"]
    also := CodeSet.ofRows
      ["5d0-5ea 5ef-5f2 fb1d fb1f-fb28 fb2a-fb36 fb38-fb3c fb3e fb40-fb41 fb43-fb44 fb46-fb4f"] },
  { names := ["ka", "katakana"]
    also := CodeSet.ofRows
      ["3031-3035 309b-309c 30a0-30fa 30fc-30ff 31f0-31ff 32d0-32fe 3300-3357 ff66-ff9d",
       "1aff0-1aff3 1aff5-1affb 1affd-1affe 1b000 1b120-1b122 1b155 1b164-1b167"] },
  { names := ["lf"]
    also := CodeSet.ofRows
      ["a"] },
  { names := ["ml", "midletter"]
    also := CodeSet.ofRows
      ["3a b7 387 55f 5f4 2027 fe13 fe55 ff1a"] },
  { names := ["mn", "midnum"]
    also := CodeSet.ofRows
      ["2c 3b 37e 589 60c-60d 66c 7f8 2044 fe50 fe54 ff0c ff1b"] },
  { names := ["mb", "midnumlet"]
    also := CodeSet.ofRows
      ["2e 2018-2019 2024 fe52 ff07 ff0e"] },
  { names := ["nl", "newline"]
    also := CodeSet.ofRows
      ["b-c 85 2028-2029"] },
  { names := ["nu", "numeric"]
    categories := ["nd"]
    also := CodeSet.ofRows
      ["600-605 66b 6dd 890-891 8e2 19da 110bd 110cd"] },
  { names := ["ri", "regionalindicator"]
    also := CodeSet.ofRows
      ["1f1e6-1f1ff"] },
  { names := ["sq", "singlequote"]
    also := CodeSet.ofRows
      ["27"] },
  { names := ["wsegspace"]
    also := CodeSet.ofRows
      ["20 1680 2000-2006 2008-200a 205f 3000"] },
  { names := ["zwj"]
    also := CodeSet.ofRows
      ["200d"] }]

/-- The values of `Sentence_Break`. -/
def sentenceBreaks : List Property := [
  { names := ["at", "aterm"]
    also := CodeSet.ofRows
      ["2e 2024 fe52 ff0e"] },
  { names := ["cl", "close"]
    also := CodeSet.ofRows
      ["22 27-29 5b 5d 7b 7d ab bb f3a-f3d 169b-169c 2018-201f 2039-203a 2045-2046 207d-207e",
       "208d-208e 2308-230b 2329-232a 275b-2760 2768-2775 27c5-27c6 27e6-27ef 2983-2998",
       "29d8-29db 29fc-29fd 2e00-2e0d 2e1c-2e1d 2e20-2e29 2e42 2e55-2e5c 3008-3011 3014-301b",
       "301d-301f fd3e-fd3f fe17-fe18 fe35-fe44 fe47-fe48 fe59-fe5e ff08-ff09 ff3b ff3d ff5b",
       "ff5d ff5f-ff60 ff62-ff63 1f676-1f678"] },
  { names := ["cr"]
    also := CodeSet.ofRows
      ["d"] },
  { names := ["ex", "extend"]
    categories := ["mn", "mc", "me"]
    also := CodeSet.ofRows
      ["200c-200d ff9e-ff9f e0020-e007f"] },
  { names := ["fo", "format"]
    categories := ["cf"]
    but := CodeSet.ofRows
      ["600-605 6dd 890-891 8e2 200c-200d 110bd 110cd e0020-e007f"] },
  { names := ["lf"]
    also := CodeSet.ofRows
      ["a"] },
  { names := ["lo", "lower"]
    categories := ["ll"]
    also := CodeSet.ofRows
      ["aa ba 2b0-2b8 2c0-2c1 2e0-2e4 37a 10fc 1d2c-1d6a 1d78 1d9b-1dbf 2071 207f 2090-209c",
       "2170-217f 24d0-24e9 2c7c-2c7d a69c-a69d a770 a7f2-a7f4 a7f8-a7f9 ab5c-ab5f ab69 10780",
       "10783-10785 10787-107b0 107b2-107ba 1e030-1e06d"]
    but := CodeSet.ofRows
      ["10d0-10fa 10fd-10ff"] },
  { names := ["nu", "numeric"]
    categories := ["nd"]
    also := CodeSet.ofRows
      ["600-605 66b-66c 6dd 890-891 8e2 19da 110bd 110cd"] },
  { names := ["le", "oletter"]
    categories := ["lm", "lo", "nl"]
    also := CodeSet.ofRows
      ["5f3 10d0-10fa 10fd-10ff 1c90-1cba 1cbd-1cbf"]
    but := CodeSet.ofRows
      ["aa ba 2b0-2b8 2c0-2c1 2e0-2e4 37a 10fc 1d2c-1d6a 1d78 1d9b-1dbf 2071 207f 2090-209c",
       "2160-217f 2c7c-2c7d a69c-a69d a770 a7f2-a7f4 a7f8-a7f9 ab5c-ab5f ab69 ff9e-ff9f 10780",
       "10783-10785 10787-107b0 107b2-107ba 1e030-1e06d"] },
  { names := ["sc", "scontinue"]
    also := CodeSet.ofRows
      ["2c-2d 3a-3b 37e 55d 60c-60d 7f8 1802 1808 2013-2014 3001 fe10-fe11 fe13-fe14 fe31-fe32",
       "fe50-fe51 fe54-fe55 fe58 fe63 ff0c-ff0d ff1a-ff1b ff64"] },
  { names := ["se", "sep"]
    also := CodeSet.ofRows
      ["85 2028-2029"] },
  { names := ["sp"]
    categories := ["zs"]
    also := CodeSet.ofRows
      ["9 b-c"] },
  { names := ["st", "sterm"]
    also := CodeSet.ofRows
      ["21 3f 589 61d-61f 6d4 700-702 7f9 837 839 83d-83e 964-965 104a-104b 1362 1367-1368 166e",
       "1735-1736 17d4-17d5 1803 1809 1944-1945 1aa8-1aab 1b4e-1b4f 1b5a-1b5b 1b5e-1b5f",
       "1b7d-1b7f 1c3b-1c3c 1c7e-1c7f 203c-203d 2047-2049 2cf9-2cfb 2e2e 2e3c 2e53-2e54 3002",
       "a4ff a60e-a60f a6f3 a6f7 a876-a877 a8ce-a8cf a92f a9c8-a9c9 aa5d-aa5f aaf0-aaf1 abeb",
       "fe12 fe15-fe16 fe56-fe57 ff01 ff1f ff61 10a56-10a57 10f55-10f59 10f86-10f89 11047-11048",
       "110be-110c1 11141-11143 111c5-111c6 111cd 111de-111df 11238-11239 1123b-1123c 112a9",
       "113d4-113d5 1144b-1144c 115c2-115c3 115c9-115d7 11641-11642 1173c-1173e 11944 11946",
       "11a42-11a43 11a9b-11a9c 11c41-11c42 11ef7-11ef8 11f43-11f44 16a6e-16a6f 16af5",
       "16b37-16b38 16b44 16d6e-16d6f 16e98 1bc9f 1da88"] },
  { names := ["up", "upper"]
    categories := ["lu", "lt"]
    also := CodeSet.ofRows
      ["2160-216f 24b6-24cf 1f130-1f149 1f150-1f169 1f170-1f189"]
    but := CodeSet.ofRows
      ["1c90-1cba 1cbd-1cbf"] }]

end ClassAudit.Unicode
