/-!
# Property table

Unicode properties that code points have or lack. Most of them nearly coincide with some general
categories, so a property is written as categories and its differences from them.
-/

namespace Switchboard

/-- A property: its names in small letters, the categories that come closest to it, and the code
points to add and to leave out, as tables of sets. -/
structure PropertyEntry where
  names : List String
  categories : List String
  added : String
  removed : String

namespace PropertyEntry

def asciiHexDigit : PropertyEntry where
  names := ["asciihexdigit", "ahex"]
  categories := []
  added := "30 9 7 5 1a 5"
  removed := ""

def alphabetic : PropertyEntry where
  names := ["alphabetic", "alpha"]
  categories := ["Ll", "Lm", "Lo", "Lt", "Lu", "Mc", "Nl"]
  added :=
      "345 0 1d c 240 d 1 0 1 1 1 1 1 0 48 a 30 c 1 6 10 0 65 6 4 3 2 1 4 0 23 0 1e f 66 a 65 " ++
      "1 3 8 1 2 1 3 6a 0 3c b 3 6 6 12 37 0 6 7 c 2 a 1 1d 0 3f 3 1d 1 1d 1 3e 1 4 1 2 1 4 0 " ++
      "1e 1 3 0 b 1 3e 4 1 1 19 1 16 2 4 0 3d 0 1 3 11 0 b 1 1e 0 3d 0 3f 0 3 0 39 2 5 2 1 2 " ++
      "8 1 b 1 1d 0 3d 0 6 0 5 0 15 1 1c 1 3f 3 1d 1 1d 0 50 2 1 0 5a 0 2 6 12 0 63 0 2 5 1 1 " ++
      "10 0 a3 d 1 3 9 a 1 23 70 3 1 4 6 1 19 1 4 2 10 3 d 0 2 1 6 0 f 0 674 1 1e 1 1e 1 1e 1 " ++
      "43 6 8 0 be 1 22 0 76 2 4 1 9 0 e4 1 2 0 3a 0 1 6 3 0 2 7 6 1 4a 1 b 2 31 3 32 4 1 0 5 " ++
      "0 3d 1 20 3 2 1 2 1 3a 1 3 0 1 2 3a 7 2 0 19c 21 6c1 33 8f6 1f 7874 7 22 1 162 0 8 0 " ++
      "19 1 9e 0 39 0 26 4 1c a 2e 2 33 3 2 1 27 0 43 5 2 1 2 1 c 0 8 0 2f 0 33 0 1 2 2 1 5 0 " ++
      "2d 1 f7 0 2 0 4f35 0 857 4 686 2 1 1 5 3 314 3 41 0 141 1 4d 2 104 0 36 d 2d 1 b 1 31 " ++
      "3 b 0 3d 2 24 4 1 5 4d 1 34 8 10 0 5f 2 2 0 2 0 6 0 2 0 9d 0 3 5 17 1 3e 0 7a 5 77 7 3 " ++
      "1 6e 5 1 0 4 1 f1 3 6 1 1e 1 55 7 2 0 2 0 6a 0 1 0 2 5 67 0 1 0 2 3 1 3 104 8 103 1 97 " ++
      "3 2 1 25 9 2a 3 2 3 12 5 2 2 2e c c9 0 1 2 1 0 c9 6 1 5 54 15 2 6 1 1 1 1 7a 5 3 0 1 1 " ++
      "1 2 1 0 3 0 48 1 3 0 15d 1 b 1 34 4 5 0 41dd b 3 1 e20 0 3f 3 4d0b 0 2361 6 1 10 2 6 1 " ++
      "1 1 4 64 0 653 0 2 0 7 1 5 0 251 0 7e8 19 6 19 6 19"
  removed :=
      "f3e 1 7d5 0 1e 0 40f 0 65 0 47 1 ed 0 15 0 1336 1 7923 0 6c 0 22b 0 65d3 0 74 0 117 0 " ++
      "81 0 2e6 0 286 0 603 0 b223 1 6 5"

def bidiControl : PropertyEntry where
  names := ["bidicontrol", "bidic"]
  categories := []
  added := "61c 0 19f1 1 1a 4 37 3"
  removed := ""

def bidiMirrored : PropertyEntry where
  names := ["bidimirrored", "bidim"]
  categories := ["Pe", "Pf", "Pi", "Ps"]
  added :=
      "3c 0 1 0 2101 0 c0 3 3 5 3 0 3 1 3 3 1 3 1 0 1 0 4 8 5 0 1 11 5 3 9 1 1 0 1 7 1 1f 2 3 " ++
      "5 0 9 1 2 12 5 1 9 4 2 1 4 17 2 f 20 1 49e 0 2 1 3 1 1 2 5 3 5 2 3 3 1b5 5 1 d 8 0 7 5 " ++
      "3 0 4 4 1 1 6 0 4 0 1 2 2 1 a 5 10 12 1 3 2 0 1 0 2 0 1 3 5 1 6 2 18 1 b 1 4 3 1 1 2 1 " ++
      "4 2a 2 7 1 27 5 0 1 0 3 4 5 2 4 0 3 4 1 0 100 0 d265 1 b6 0 1 0 d7bc 0 39 0 39 0 39 0 " ++
      "39 0"
  removed := "2018 7 e22 0 1da 2 cd1e 1 d7 1 1c f 2 1"

def caseIgnorable : PropertyEntry where
  names := ["caseignorable", "ci"]
  categories := ["Cf", "Lm", "Me", "Mn", "Sk"]
  added := "27 0 6 0 b 0 7c 0 2cf 0 1d7 0 94 0 1a23 1 a 0 2 0 ddeb 0 3e 0 2 0 b1 0 6 0 b 0"
  removed := ""

def cased : PropertyEntry where
  names := ["cased"]
  categories := ["Ll", "Lm", "Lt", "Lu"]
  added := "aa 0 f 0 28a 0 1e1a 1f 336 33 1cc46 19 6 19 6 19"
  removed :=
      "2b9 6 6 b 1a 0 1 0 85 0 1e4 0 e6 0 a4 1 10d 1 4 0 1f 0 9 0 3 0 a0 0 a7 0 4d4 0 7f 0 " ++
      "910 0 6b 0 263 0 1d0 5 10f1 0 bf 0 1d5 0 2b 4 5 0 61 1 5d 2 6f16 0 4e2 5 10e 0 72 0 97 " ++
      "8 68 0 246 0 16 0 89 0 6c 0 15 1 547b 0 2d 1 7e1 1 5cb 0 20 0 155 0 f13 0 4d66 3 1fc 2 " ++
      "28 1 226 c 40 1 1 0 e 1 3ffc 3 1 6 1 1 3138 6 3ad 0 213 0 24b 0"

def changesWhenCasefolded : PropertyEntry where
  names := ["changeswhencasefolded", "cwcf"]
  categories := ["Lt", "Lu"]
  added :=
      "b5 0 29 0 69 0 35 0 1c5 0 7c 0 d 1 3 1 19 1 3 0 191 0 e70 5 882 8 211 1 e4 7 8 7 8 7 a " ++
      "2 2 0 a 2 2 0 2a 2 2 0 168 f 346 19 86a0 4f 4f40 6 c 4"
  removed :=
      "3d2 2 fcb 55 d0c 0 4 0 3 2 2 2 2 0 3 4 6 0 3 0 3 1 2 1 1 0 a 1 5 0 1b2ba 19 1a 19 1a " ++
      "19 1a 0 1 1 2 0 2 1 2 3 1 7 1a 19 1a 1 1 3 2 7 1 6 1b 1 1 3 1 4 1 0 3 6 1b 19 1a 19 1a " ++
      "19 1a 19 1a 19 1a 19 1e 18 21 18 21 18 21 18 21 18 21 0"

def changesWhenCasemapped : PropertyEntry where
  names := ["changeswhencasemapped", "cwcm"]
  categories := ["Ll", "Lt", "Lu"]
  added := "345 0 1e1a 1f 336 33"
  removed :=
      "138 0 54 0 1c 1 e 0 3 0 62 0 12 5 1b 0 2 0 1 0 2 2 2 0 4 0 5 1 1 0 2 1 1 6 1 1 1 0 2 2 " ++
      "6 4 1 0 2 6 2 10 122 2 27 0 163 0 27 0 1777 2b 3f c 2 2 1 f 1 b 101 1 1 0 262 0 4 0 2 " ++
      "9 1 0 3 4 6 0 3 0 3 1 1 2 1 1 4 0 2 3 5 4 b27 0 2 0 2 4 68 0 7a4b 1 3f 7 15 0 6 0 19 0 " ++
      "4a 0 335 22 1 6 5 8 12897 54 1 46 1 1 2 0 2 1 2 3 1 b 1 0 1 6 1 40 1 3 2 7 1 6 1 1b 1 " ++
      "3 1 4 1 0 3 6 1 153 2 18 1 18 1 1e 1 18 1 1e 1 18 1 1e 1 18 1 1e 1 18 1 7 734 9 1 13 6 " ++
      "5"

def changesWhenLowercased : PropertyEntry where
  names := ["changeswhenlowercased", "cwl"]
  categories := ["Lt", "Lu"]
  added := "2160 f 346 19"
  removed :=
      "3d2 2 1d2d 0 4 0 3 2 2 2 2 0 3 4 6 0 3 0 3 1 2 1 1 0 a 1 5 0 1b2ba 19 1a 19 1a 19 1a 0 " ++
      "1 1 2 0 2 1 2 3 1 7 1a 19 1a 1 1 3 2 7 1 6 1b 1 1 3 1 4 1 0 3 6 1b 19 1a 19 1a 19 1a " ++
      "19 1a 19 1a 19 1e 18 21 18 21 18 21 18 21 18 21 0"

def changesWhenTitlecased : PropertyEntry where
  names := ["changeswhentitlecased", "cwt"]
  categories := ["Ll"]
  added := "1c4 0 2 0 2 0 26 0 153 0 1e2a f 350 19"
  removed :=
      "138 0 54 0 1c 1 e 0 3 0 62 0 12 5 1b 0 2 0 1 0 2 2 2 0 4 0 5 1 1 0 2 1 1 6 1 1 1 0 2 2 " ++
      "6 4 1 0 2 6 2 10 14c 0 163 0 27 0 b47 2a 2 2 c00 2b 3f c 2 2 1 f 1 b 101 1 1 0 26a 0 3 " ++
      "1 3 0 1b 0 4 0 4 0 2 1 8 3 b27 0 2 0 2 4 68 0 7a4b 1 3f 7 15 0 6 0 19 0 4a 0 335 22 1 " ++
      "6 5 8 128b1 19 1a 6 1 11 1a 19 1a 3 1 0 1 6 1 a 1a 19 1a 19 1a 19 1a 19 1a 19 1a 19 1a " ++
      "19 1a 19 1a 1b 1c 18 1 5 1a 18 1 5 1a 18 1 5 1a 18 1 5 1a 18 1 5 1 0 734 9 1 13 6 5"

def changesWhenUppercased : PropertyEntry where
  names := ["changeswhenuppercased", "cwu"]
  categories := ["Ll", "Lt"]
  added := "345 0 1e2a f 350 19"
  removed :=
      "138 0 54 0 1c 1 e 0 3 0 62 0 12 5 1b 0 2 0 1 0 2 2 2 0 4 0 5 1 1 0 2 1 1 6 1 1 1 0 2 2 " ++
      "6 4 1 0 2 6 2 10 14c 0 163 0 27 0 1777 2b 3f c 2 2 1 f 1 b 101 1 1 0 26a 0 3 1 3 0 1b " ++
      "0 4 0 4 0 2 1 8 3 b27 0 2 0 2 4 68 0 7a4b 1 3f 7 15 0 6 0 19 0 4a 0 335 22 1 6 5 8 " ++
      "128b1 19 1a 6 1 11 1a 19 1a 3 1 0 1 6 1 a 1a 19 1a 19 1a 19 1a 19 1a 19 1a 19 1a 19 1a " ++
      "19 1a 1b 1c 18 1 5 1a 18 1 5 1a 18 1 5 1a 18 1 5 1a 18 1 5 1 0 734 9 1 13 6 5"

def dash : PropertyEntry where
  names := ["dash"]
  categories := ["Pd"]
  added := "2053 0 27 0 f 0 186 0"
  removed := ""

def defaultIgnorableCodePoint : PropertyEntry where
  names := ["defaultignorablecodepoint", "di"]
  categories := []
  added :=
      "ad 0 2a1 0 2cc 0 b42 1 653 1 55 4 7fb 4 1a 4 31 f 10f4 0 cc9b f ef 0 a0 0 4f 8 bca7 3 " ++
      "14cf 7 c2e85 fff"
  removed := ""

def deprecated : PropertyEntry where
  names := ["deprecated", "dep"]
  categories := []
  added := "149 0 529 0 903 0 1 0 829 1 8c5 5 2b9 1 ddcd6 0"
  removed := ""

def diacritic : PropertyEntry where
  names := ["diacritic", "dia"]
  categories := []
  added :=
      "5e 0 1 0 47 0 6 0 4 0 2 1 1f7 9e 1 7 5 5 11 1 4 0 9 1 fd 4 d1 0 37 2c 1 0 1 1 1 1 1 0 " ++
      "83 7 4 1 86 1 4 1 3 2 43 1a 5b a 3a a 22 1 7e 7 29 9 10 1b 3d 0 10 0 3 3 1c 0 4a 0 10 " ++
      "0 6e 0 10 0 6e 0 10 0 2f 2 3c 0 10 0 7 0 77 0 6e 0 10 0 6e 0 10 0 6d 1 10 0 7c 0 6f 0 " ++
      "c 5 1 0 6b 0 d 4 4b 1 1b 0 1 0 1 0 4 1 42 2 1 1 3e 0 70 0 1 1 28 1 4 4 19 6 1 0 a 1 " ++
      "2c1 2 3b4 1 1e 0 94 a 9 0 15b 2 124 0 14 7 2 0 30 e 2 a 3 e 2 b 48 0 f 0 26 8 36 1 3a " ++
      "0 b 1 42 1 40 5 52 18 4 0 6 0 2 2 32 3e 30 23 5 b 25 a 1bd 0 1 2 b 2 d 2 d 2 d 1 cf0 2 " ++
      "13d 0 1fa 5 69 3 5f 0 7572 0 c 1 1 0 1c 1 52 1 e 21 66 2 66 0 6 1 c 0 25 0 97 0 1b 11 " ++
      "39 3 24 0 5f 0 c 0 24 0 95 2 41 3 33 0 64 4 9 2 80 1 4f30 0 301 f 10e 0 1 0 2f 0 2d 1 " ++
      "43 0 2fc 0 49f 5 1 29 1 8 27d 2 4 0 a5 1 23b 5 26 0 1a 4 18c 0 2 2 46 a 31 3 c0 0 29 0 " ++
      "48 1 78 1 3e 0 4c 0 9 2 68 1 b2 1 50 1 10 0 18 6 3 4 59 2 1 1 d 1 5f 0 3 0 7b 1 fb 1 " ++
      "7e 0 76 1 73 0 10d 1 102 1 4 0 9c 0 53 0 12 0 51 0 1a5 0 102 0 1 1 51 0 41 0 167 1 17 " ++
      "0 14ec e 2cd9 0 9c0 4 3b 6 234 1 222 10 50 1 3ffe 3 1 6 1 1 1f01 2d 2 16 220 2 3 5 8 7 " ++
      "2 6 1e 3 e82 3d c2 6 177 0 3d 3 2fe 1 2e0 6 6d 2 1 2"
  removed := ""

def emoji : PropertyEntry where
  names := ["emoji"]
  categories := []
  added :=
      "23 0 6 0 5 9 6f 0 4 0 1f8d 0 c 0 d8 0 16 0 5a 5 f 1 16f 1 c 0 a6 0 19 a 4 2 c7 0 e7 1 " ++
      "a 0 9 0 3a 3 1 4 9 0 2 0 2 1 2 0 4 0 2 0 1 1 2 0 3 0 3 1 8 2 5 0 1 0 5 b b 1 2 0 1 1 1 " ++
      "0 12 0 2 1 12 5 1 0 1 1 3 1 5 0 2 1 4 1 b 1 5 1 2 0 5 1 1 0 1 1 14 1 5 5 1 3 2 0 4 0 2 " ++
      "0 2 5 1 0 2 0 1 0 1 0 6 0 3 0 6 0 a 1 f 0 2 0 4 0 1 0 4 2 1 0 b 1 30 2 9 0 e 0 e 0 174 " ++
      "1 1cf 2 13 1 33 0 4 0 4da 0 c 0 259 0 1 0 1bd6a 0 ca 0 a0 1 c 1 e 0 2 9 4b 19 1 1 17 0 " ++
      "14 0 2 8 15 1 ae 21 2 6f 2 1 1 2 2 52 2 2 1 106 1 3e b 5 1 17 7 1 2 7 c 0 2 3 2 0 4 1 " ++
      "d 1 2 0 8 1 9 0 5 2 c 2 8 2 2 0 1 0 4 0 6 0 3 0 6 55 30 45 5 7 2 3 3 9 3 0 1 1 3 0 2 9 " ++
      "e3 b 4 0 11b 2e 1 9 1 b8 70 c 3 a 3 38 1 0 4 f 2 b 4 9"
  removed := ""

def emojiComponent : PropertyEntry where
  names := ["emojicomponent", "ecomp"]
  categories := []
  added := "23 0 6 0 5 9 1fd3 0 d5 0 dd2b 0 f3d6 19 1fb 4 5b0 3 c066c 5f"
  removed := ""

def emojiModifier : PropertyEntry where
  names := ["emojimodifier", "emod"]
  categories := []
  added := "1f3fb 4"
  removed := ""

def emojiModifierBase : PropertyEntry where
  names := ["emojimodifierbase", "ebase"]
  categories := []
  added :=
      "261d 0 db 0 10 3 1cc77 0 3c 2 2 0 2 2 75 1 2 a 15 12 3 0 4 2 1 2 7 0 1 0 18 0 c9 1 4 0 " ++
      "15 0 4 1 ae 2 3 4 53 0 10 2 9 0 b 0 23f 0 2 0 8 7 6 0 9 9 2 2 38 0 3d 1 1 1 1 0 11 2 1 " ++
      "c e5 2 2a 8"
  removed := ""

def emojiPresentation : PropertyEntry where
  names := ["emojipresentation", "epres"]
  categories := []
  added :=
      "231a 1 cd 3 3 0 2 0 209 1 15 1 32 b 2b 0 13 0 d 0 8 1 11 1 5 1 8 0 5 0 15 0 7 1 1 0 4 " ++
      "0 2 0 7 0 4 1 1c 0 23 0 1 0 4 2 1 0 3d 2 18 0 e 0 35b 1 33 0 4 0 1c4ae 0 ca 0 be 0 2 9 " ++
      "4b 19 1 0 18 0 14 0 2 4 1 2 15 1 ae 20 c 8 1 45 1 15 c 2a 4 4 c 10 3 0 3 46 1 0 1 ba 2 " ++
      "3e d 3 1 17 12 0 1a 1 d 0 56 54 30 45 6 0 3 2 2 3 3 3 b 1 7 8 e3 b 4 0 11b 2e 1 9 1 b8 " ++
      "70 c 3 a 3 38 1 0 4 f 2 b 4 9"
  removed := ""

def extendedPictographic : PropertyEntry where
  names := ["extendedpictographic", "extpict"]
  categories := []
  added :=
      "a9 0 4 0 1f8d 0 c 0 d8 0 16 0 5a 5 f 1 16f 1 c 0 a6 0 19 a 4 2 c7 0 e7 1 a 0 9 0 3a 3 " ++
      "1 4 9 0 2 0 2 1 2 0 4 0 2 0 1 1 2 0 3 0 3 1 8 2 5 0 1 0 5 b b 1 2 0 1 1 1 0 12 0 2 1 " ++
      "12 5 1 0 1 1 3 1 5 0 2 1 4 1 b 1 5 1 2 0 5 1 1 0 1 1 14 1 5 5 1 3 2 0 4 0 2 0 2 5 1 0 " ++
      "2 0 1 0 1 0 6 0 3 0 6 0 a 1 f 0 2 0 4 0 1 0 4 2 1 0 b 1 30 2 9 0 e 0 e 0 174 1 1cf 2 " ++
      "13 1 33 0 4 0 4da 0 c 0 259 0 1 0 1bd6a 0 27 3 64 b f 1 f 0 e 1 25 9 70 1 c 1 e 0 2 9 " ++
      "13 37 1b e a 0 14 0 2 8 1 3 9 16 6 bb 2 6f 2 1 1 2 2 52 2 2 1 3 5 fd 1 3e b 5 1 17 7 1 " ++
      "2 7 c 0 2 3 2 0 4 1 d 1 2 0 8 1 9 0 5 2 c 2 8 2 2 0 1 0 4 0 6 0 3 0 6 55 30 45 5 7 2 " ++
      "10 3 0 1 5 2 c da 25 c 3 38 7 a 5 28 7 1e 1 c 3 2 d 9 26 c 2e 1 9 1 b8 58 7 e 91 100 " ++
      "3fd"
  removed := ""

def extender : PropertyEntry where
  names := ["extender", "ext"]
  categories := []
  added :=
      "b7 0 218 1 36e 0 1b9 0 276 0 89 0 59 0 2f0 0 7f 0 943 0 38 0 263 0 18e 0 44 0 1389 0 " ++
      "2b 4 67 1 5d 2 6f16 0 5f6 0 3c2 0 16 0 89 0 6c 0 15 1 547b 0 810 1 5cb 0 1b 0 4 0 4c7 " ++
      "0 125 0 74 1 1f2 2 4cf 0 340 0 4d68 1 49c 1 1 0 e 1 7148 1 4b1 0 354 2"
  removed := ""

def graphemeBase : PropertyEntry where
  names := ["graphemebase", "grbase"]
  categories :=
    ["Ll", "Lm", "Lo", "Lt", "Lu", "Mc", "Nd", "Nl", "No", "Pc", "Pd", "Pe", "Pf", "Pi",
     "Po", "Ps", "Sc", "Sk", "Sm", "So", "Zs"]
  added := ""
  removed :=
      "9be 0 18 0 166 0 18 0 66 0 18 0 e8 0 1 0 4 1 1 1 9 1 67 0 18 0 77 0 f 0 935 0 1e 0 400 " ++
      "0 5 0 1 0 5 1 65 0 47 1 143a 1 7923 0 6c 0 55dd 1 1220 0 74 0 108 0 e 0 9 0 60 0 9 0 2 " ++
      "0 1 2 5 0 e0 0 c 0 f1 0 106 0 279 0 c 0 603 0 50ae 1 6173 1 6 5"

def graphemeExtend : PropertyEntry where
  names := ["graphemeextend", "grext"]
  categories := ["Cf", "Me", "Mn"]
  added :=
      "9be 0 18 0 166 0 18 0 66 0 18 0 e8 0 1 0 4 1 1 1 9 1 67 0 18 0 77 0 f 0 935 0 1e 0 400 " ++
      "0 5 0 1 0 5 1 65 0 47 1 143a 1 7923 0 6c 0 55dd 1 1220 0 74 0 108 0 e 0 9 0 60 0 9 0 2 " ++
      "0 1 2 5 0 e0 0 c 0 f1 0 106 0 279 0 c 0 603 0 50ae 1 6173 1 6 5"
  removed :=
      "ad 0 552 5 16 0 c0 0 31 0 180 1 50 0 f2b 0 7fc 0 1 2 1a 4 31 4 1 9 de8f 0 f9 2 10c1 0 " ++
      "f 0 2362 f 8860 3 14cf 7 c2e86 0"

def hexDigit : PropertyEntry where
  names := ["hexdigit", "hex"]
  categories := []
  added := "30 9 7 5 1a 5 fea9 9 7 5 1a 5"
  removed := ""

def idsBinaryOperator : PropertyEntry where
  names := ["idsbinaryoperator", "idsb"]
  categories := []
  added := "2ff0 1 2 9 1f1 0"
  removed := ""

def idsTrinaryOperator : PropertyEntry where
  names := ["idstrinaryoperator", "idst"]
  categories := []
  added := "2ff2 1"
  removed := ""

def idContinue : PropertyEntry where
  names := ["idcontinue", "idc"]
  categories := ["Ll", "Lm", "Lo", "Lt", "Lu", "Mc", "Mn", "Nd", "Nl", "Pc"]
  added := "b7 0 2cf 0 fe1 8 668 0 631 1 10a 0 15 0 f6c 1 5e 0 ce69 0"
  removed := "2e2f 0"

def idStart : PropertyEntry where
  names := ["idstart", "ids"]
  categories := ["Ll", "Lm", "Lo", "Lt", "Lu", "Nl"]
  added := "1885 1 891 0 15 0 f6c 1"
  removed := "2e2f 0"

def ideographic : PropertyEntry where
  names := ["ideographic", "ideo"]
  categories := []
  added :=
      "3006 1 19 8 e 2 3c5 19bf 40 51ff 5900 16d 2 69 750a 0 d 4 9 1cd5 29 1f 61 72 237d 18b " ++
      "4d04 a6df 20 111d 2 168d 2 1d30 f 26d 9a2 21d 5e2 134a 5 2129"
  removed := ""

def joinControl : PropertyEntry where
  names := ["joincontrol", "joinc"]
  categories := []
  added := "200c 1"
  removed := ""

def logicalOrderException : PropertyEntry where
  names := ["logicalorderexception", "loe"]
  categories := []
  added := "e40 4 7b 4 af0 2 2 0 90fa 1 2 0 1 1"
  removed := ""

def lowercase : PropertyEntry where
  names := ["lowercase", "lower"]
  categories := ["Ll", "Lm"]
  added := "aa 0 f 0 28a 0 1e2a f 350 19"
  removed :=
      "2b9 6 6 b 1a 0 1 0 85 0 1e4 0 e6 0 a4 1 10d 1 4 0 1f 0 9 0 3 0 a0 0 a7 0 4d4 0 7f 0 " ++
      "910 0 6b 0 263 0 1d0 5 10f1 0 bf 0 1d5 0 2b 4 5 0 61 1 5d 2 6f16 0 4e2 5 10e 0 72 0 97 " ++
      "8 68 0 246 0 16 0 89 0 6c 0 15 1 547b 0 2d 1 7e1 1 5cb 0 20 0 155 0 f13 0 4d66 3 1fc 2 " ++
      "28 1 226 c 40 1 1 0 e 1 3ffc 3 1 6 1 1 3138 6 3ad 0 213 0 24b 0"

def math : PropertyEntry where
  names := ["math"]
  categories := ["Sm"]
  added :=
      "5e 0 371 2 2 0 1a 1 2 1 1c20 0 1b 2 b 0 20 3 18 1 e 1 41 c 4 0 3 1 4 4 12 0 4 0 2 9 1 " ++
      "0 3 4 6 0 3 1 2 1 1 2 1 5 3 3 5 4 4b 4 2 3 1 1 1 1 1 0 1 4 2 1 4 1 4 11 2 1 1 0 1 6 1 " ++
      "0 6 1 122 3 a8 1 1 0 18 0 11 0 1bd 1 c 8 5 4 5 1 2 1 3 4 e 0 1 0 2 5 18 1 39 0 1 0 1d " ++
      "3 9 1 156 1 1f 9 193 15 3f 3 20 1 d463 0 1 0 4 0 d3 0 1 0 d4c1 54 1 46 1 1 2 0 2 1 2 3 " ++
      "1 b 1 0 1 6 1 40 1 3 2 7 1 6 1 1b 1 3 1 4 1 0 3 6 1 153 2 18 1 18 1 1e 1 18 1 1e 1 18 " ++
      "1 1e 1 18 1 1e 1 18 1 7 2 31 1600 3 1 1a 1 1 1 0 2 0 1 9 1 3 1 0 1 0 6 0 4 0 1 0 1 0 1 " ++
      "2 1 1 1 0 2 0 1 0 1 0 1 0 1 0 1 1 1 0 2 3 1 6 1 3 1 3 1 0 1 9 1 10 5 2 1 4 1 10"
  removed := ""

def noncharacterCodePoint : PropertyEntry where
  names := ["noncharactercodepoint", "nchar"]
  categories := []
  added :=
      "fdd0 1f 20e 1 fffe 1 fffe 1 fffe 1 fffe 1 fffe 1 fffe 1 fffe 1 fffe 1 fffe 1 fffe 1 " ++
      "fffe 1 fffe 1 fffe 1 fffe 1 fffe 1 fffe 1"
  removed := ""

def patternSyntax : PropertyEntry where
  names := ["patternsyntax", "patsyn"]
  categories := []
  added :=
      "21 e a 6 1a 3 1 0 1a 3 22 6 1 0 1 1 1 0 1 1 4 0 4 0 3 0 17 0 1f 0 1f18 17 8 e 2 12 1 9 " ++
      "131 2cf a0 275 1e 46b 200 7f 181 2 4 18 f 0 cd0d 1 105 1"
  removed := ""

def patternWhiteSpace : PropertyEntry where
  names := ["patternwhitespace", "patws"]
  categories := ["Zl", "Zp"]
  added := "9 4 12 0 64 0 1f88 1"
  removed := ""

def quotationMark : PropertyEntry where
  names := ["quotationmark", "qmark"]
  categories := []
  added := "22 0 4 0 83 0 f 0 1f5c 7 19 1 e07 0 1c9 3 d 2 ce21 3 bd 0 4 0 5a 1"
  removed := ""

def radical : PropertyEntry where
  names := ["radical"]
  categories := []
  added := "2e80 19 1 58 c d5"
  removed := ""

def regionalIndicator : PropertyEntry where
  names := ["regionalindicator", "ri"]
  categories := []
  added := "1f1e6 19"
  removed := ""

def sentenceTerminal : PropertyEntry where
  names := ["sentenceterminal", "sterm"]
  categories := []
  added :=
      "21 0 c 0 10 0 549 0 93 2 b4 0 2b 2 f6 0 3d 0 1 0 3 1 125 1 6e4 1 316 0 4 1 305 0 c6 1 " ++
      "9d 1 2d 0 5 0 13a 1 162 3 a2 1 a 1 2 1 1d 2 bb 1 41 1 3a4 0 17 1 9 2 caf 2 132 0 d 0 " ++
      "16 1 1ad 0 74fc 0 10e 1 e3 0 3 0 17e 1 56 1 5f 0 98 1 93 2 90 1 f9 0 5226 0 2 1 3b 0 3 " ++
      "1 a9 0 c 0 10 0 41 0 af4 1 4fd 4 2c 3 bd 1 75 3 7f 2 81 1 6 0 10 1 58 1 1 1 6c 0 12a 1 " ++
      "75 1 175 1 5 e 69 1 f9 2 205 0 1 0 fb 1 57 1 1a4 1 2b4 1 4a 1 4b29 1 85 0 41 1 b 0 229 " ++
      "1 128 0 4e06 0 1de8 0"
  removed := ""

def softDotted : PropertyEntry where
  names := ["softdotted", "sd"]
  categories := []
  added :=
      "69 1 c4 0 119 0 1e 0 34 0 14 0 140 0 62 0 1 0 1909 0 33 0 d 0 3 0 84 0 9d 0 1a5 0 d6 1 " ++
      "b32 0 1a7a5 1 32 1 32 1 32 1 32 1 32 1 32 1 32 1 32 1 32 1 32 1 32 1 32 1 886 0 131 1 " ++
      "1a 0"
  removed := ""

def terminalPunctuation : PropertyEntry where
  names := ["terminalpunctuation", "term"]
  categories := []
  added :=
      "21 0 a 0 1 0 b 1 3 0 33e 0 8 0 201 0 39 0 48 0 e 0 1 2 b4 0 2b a 1 0 eb 1 36 5 1 7 1f " ++
      "0 105 1 4f4 1 ac 0 4 5 137 1 315 7 305 0 7c 2 47 1 9d 2 3 0 27 3 2 1 13a 1 162 3 a2 1 " ++
      "a 1 1 2 1d 2 bb 4 3e 1 3a4 0 17 1 9 2 caf 2 132 0 d 0 4 0 a 0 1 1 3 1 1ac 1 74fb 1 10d " ++
      "2 e3 4 17e 1 56 1 5f 0 97 2 93 2 7f 0 10 1 f9 0 5226 0 2 1 39 2 1 3 a9 0 a 0 1 0 b 1 3 " ++
      "0 41 0 2 0 43a 0 30 0 486 0 c7 0 136 1 98 5 44 5 59 3 3b8 4 2c 3 bd 6 70 3 7f 2 81 1 6 " ++
      "0 10 1 58 4 6c 0 12a 1 75 2 c 1 166 3 3 e 69 1 f9 2 205 0 1 0 fb 1 57 1 4 1 19e 2 2d 0 " ++
      "285 1 4a 1 52b 4 45f9 1 85 0 41 2 a 0 229 1 127 1 4e06 0 1de7 3"
  removed := ""

def unifiedIdeograph : PropertyEntry where
  names := ["unifiedideograph", "uideo"]
  categories := []
  added :=
      "3400 19bf 40 51ff 5a0e 1 1 0 1 1 a 0 1 0 1 1 2 2 105d6 a6df 20 111d 2 168d 2 1d30 f " ++
      "26d 11a2 134a 5 2129"
  removed := ""

def uppercase : PropertyEntry where
  names := ["uppercase", "upper"]
  categories := ["Lu"]
  added := "2160 f 346 19 1cc60 19 6 19 6 19"
  removed := ""

def variationSelector : PropertyEntry where
  names := ["variationselector", "vs"]
  categories := []
  added := "180b 2 1 0 e5f0 f d02f0 ef"
  removed := ""

def whiteSpace : PropertyEntry where
  names := ["whitespace", "wspace", "space"]
  categories := ["Zl", "Zp", "Zs"]
  added := "9 4 77 0"
  removed := ""

def xidContinue : PropertyEntry where
  names := ["xidcontinue", "xidc"]
  categories := ["Ll", "Lm", "Lo", "Lt", "Lu", "Mc", "Mn", "Nd", "Nl", "Pc"]
  added := "b7 0 2cf 0 fe1 8 668 0 631 1 10a 0 15 0 fcc 0 ce69 0"
  removed := "37a 0 2ab4 0 ce2e 5 196 1 74 0 1 0 1 0 1 0 1 0 1 0 1 0 1 0"

def xidStart : PropertyEntry where
  names := ["xidstart", "xids"]
  categories := ["Ll", "Lm", "Lo", "Lt", "Lu", "Nl"]
  added := "1885 1 891 0 15 0"
  removed := "37a 0 ab8 0 7f 0 1f7b 0 ce2e 5 196 1 74 0 1 0 1 0 1 0 1 0 1 0 1 0 1 0 11f 1"

def all : List PropertyEntry :=
  [asciiHexDigit, alphabetic, bidiControl, bidiMirrored, caseIgnorable, cased,
   changesWhenCasefolded, changesWhenCasemapped, changesWhenLowercased, changesWhenTitlecased,
   changesWhenUppercased, dash, defaultIgnorableCodePoint, deprecated, diacritic, emoji,
   emojiComponent, emojiModifier, emojiModifierBase, emojiPresentation, extendedPictographic,
   extender, graphemeBase, graphemeExtend, hexDigit, idsBinaryOperator, idsTrinaryOperator,
   idContinue, idStart, ideographic, joinControl, logicalOrderException, lowercase, math,
   noncharacterCodePoint, patternSyntax, patternWhiteSpace, quotationMark, radical,
   regionalIndicator, sentenceTerminal, softDotted, terminalPunctuation, unifiedIdeograph,
   uppercase, variationSelector, whiteSpace, xidContinue, xidStart]

end PropertyEntry

end Switchboard
