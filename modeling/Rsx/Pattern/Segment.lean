import Rsx.Pattern.Binary

set_option autoImplicit false

namespace Rsx.Pattern

namespace Segment

open Rsx.Text (Ranges)

def regional : CharSet := .read "1f1e6-1f1ff"

def spacingMarks : CharSet := CharSet.ofCategories (· == .mc)

def prepended : CharSet := .read (
    "600-605 6dd 70f 890-891 8e2 d4e 110bd 110cd 111c2-111c3 113d1 1193f 11941 11a3a 11a84-11a89 "
    ++ "11d46 11f02")

def extending : CharSet := Ranges.plus Binary.graphemeExtend Binary.emojiModifier

def loneMarks : CharSet := .read (
    "102b-102c 1038 1062-1064 1067-106d 1083 1087-108c 108f 109a-109c 1a61 1a63-1a64 aa7b aa7d "
    ++ "11720-11721")

def spacing : CharSet :=
  Ranges.minus (Ranges.minus (Ranges.plus spacingMarks (.read "e33 eb3")) Binary.graphemeExtend)
    loneMarks

def controls : CharSet :=
  let signs := CharSet.ofCategories fun k => k == .zl || k == .zp || k == .cc || k == .cf
  let hidden := Ranges.meet (CharSet.ofCategories (· == .cn)) Binary.defaultIgnorable
  let apart := Ranges.normal
    (.read "a d 200c-200d" ++ Binary.concatenationMark ++ Binary.graphemeExtend)
  Ranges.minus (Ranges.plus signs hidden) apart

def openSyllables : CharSet := (List.range 399).map fun i => (0xac00 + 28 * i, 0xac00 + 28 * i)

def closedSyllables : CharSet :=
  (List.range 399).map fun i => (0xac01 + 28 * i, 0xac1b + 28 * i)

def character? : String → Option CharSet
  | "cn" | "control" => some controls
  | "cr" => some (.read "d")
  | "ex" | "extend" => some extending
  | "l" => some (.read "1100-115f a960-a97c")
  | "lf" => some (.read "a")
  | "lv" => some openSyllables
  | "lvt" => some closedSyllables
  | "pp" | "prepend" => some prepended
  | "ri" | "regionalindicator" => some regional
  | "sm" | "spacingmark" => some spacing
  | "t" => some (.read "11a8-11ff d7cb-d7fb")
  | "v" => some (.read "1160-11a7 d7b0-d7c6 16d63 16d67-16d6a")
  | "zwj" => some (.read "200d")
  | _ => none

def formats : CharSet :=
  Ranges.minus (CharSet.ofCategories (· == .cf))
    (Ranges.normal (.read "200b-200d" ++ Binary.graphemeExtend ++ Binary.concatenationMark))

def numbers : CharSet :=
  Ranges.normal (CharSet.digit ++ .read "600-605 66b 6dd 890-891 8e2 110bd 110cd")

def katakana : CharSet := .read (
    "3031-3035 309b-309c 30a0-30fa 30fc-30ff 31f0-31ff 32d0-32fe 3300-3357 ff66-ff9d 1aff0-1aff3 "
    ++ "1aff5-1affb 1affd-1affe 1b000 1b120-1b122 1b155 1b164-1b167")

def hebrew : CharSet := .read (
    "5d0-5ea 5ef-5f2 fb1d fb1f-fb28 fb2a-fb36 fb38-fb3c fb3e fb40-fb41 fb43-fb44 fb46-fb4f")

def moreLetters : CharSet := .read (
    "2c2-2c5 2d2-2d7 2de-2df 2e5-2eb 2ed 2ef-2ff 55a-55c 55e 58a 5f3 70f a708-a716 a720-a721 "
    ++ "a789-a78a ab5b")

def undividedLetters : CharSet := .read (
    "e01-e30 e32-e33 e40-e46 e81-e82 e84 e86-e8a e8c-ea3 ea5 ea7-eb0 eb2-eb3 ebd ec0-ec4 ec6 "
    ++ "edc-edf 1000-102a 103f 1050-1055 105a-105d 1061 1065-1066 106e-1070 1075-1081 108e "
    ++ "1780-17b3 17d7 17dc 1950-196d 1970-1974 1980-19ab 19b0-19c9 1a20-1a54 1aa7 3041-3096 "
    ++ "309d-309f a9e0-a9e4 a9e6-a9ef a9fa-a9fe aa60-aa76 aa7a aa7e-aaaf aab1 aab5-aab6 aab9-aabd "
    ++ "aac0 aac2 aadb-aadd 11700-1171a 11740-11746 1b001-1b11f 1b132 1b150-1b152")

def wordLetters : CharSet :=
  let others := Ranges.normal (Binary.ideographic ++ Binary.graphemeExtend ++ spacingMarks ++ katakana
    ++ hebrew ++ undividedLetters)
  Ranges.plus (Ranges.minus CharSet.alphabetic others) moreLetters

def word? : String → Option CharSet
  | "le" | "aletter" => some wordLetters
  | "cr" => some (.read "d")
  | "dq" | "doublequote" => some (.read "22")
  | "ex" | "extendnumlet" => some (.read "5f 202f 203f-2040 2054 fe33-fe34 fe4d-fe4f ff3f")
  | "extend" => some (Ranges.plus extending spacingMarks)
  | "fo" | "format" => some formats
  | "hl" | "hebrewletter" => some hebrew
  | "ka" | "katakana" => some katakana
  | "lf" => some (.read "a")
  | "mb" | "midnumlet" => some (.read "2e 2018-2019 2024 fe52 ff07 ff0e")
  | "ml" | "midletter" => some (.read "3a b7 387 55f 5f4 2027 fe13 fe55 ff1a")
  | "mn" | "midnum" =>
    some (.read "2c 3b 37e 589 60c-60d 66c 7f8 2044 fe10 fe14 fe50 fe54 ff0c ff1b")
  | "nl" | "newline" => some (.read "b-c 85 2028-2029")
  | "nu" | "numeric" => some numbers
  | "ri" | "regionalindicator" => some regional
  | "sq" | "singlequote" => some (.read "27")
  | "wsegspace" => some (.read "20 1680 2000-2006 2008-200a 205f 3000")
  | "zwj" => some (.read "200d")
  | _ => none

def evenLetters : CharSet := .read "10d0-10fa 10fd-10ff 1c90-1cba 1cbd-1cbf"

def lower : CharSet :=
  Ranges.minus (Ranges.minus CharSet.lowercase Binary.graphemeExtend) evenLetters

def upper : CharSet :=
  Ranges.minus (Ranges.plus CharSet.uppercase Binary.titlecase) evenLetters

def otherLetters : CharSet :=
  let others := Ranges.normal (lower ++ upper ++ Binary.graphemeExtend ++ spacingMarks)
  Ranges.plus (Ranges.minus CharSet.alphabetic others) (.read "5f3 70f")

def closing : CharSet :=
  let brackets := CharSet.ofCategories fun k => k == .ps || k == .pe || k == .pi || k == .pf
  Ranges.minus
    (Ranges.normal (brackets ++ Binary.quotation
      ++ .read "275b-2760 2e00-2e01 2e06-2e08 2e0b 1f676-1f678"))
    (.read "ff02 ff07")

def dots : CharSet := .read "2e 2024 fe52 ff0e"

def sentence? : String → Option CharSet
  | "at" | "aterm" => some dots
  | "cl" | "close" => some closing
  | "cr" => some (.read "d")
  | "ex" | "extend" => some (Ranges.normal (Binary.graphemeExtend ++ spacingMarks ++ .read "200d"))
  | "fo" | "format" => some (Ranges.plus formats (.read "200b"))
  | "le" | "oletter" => some otherLetters
  | "lf" => some (.read "a")
  | "lo" | "lower" => some lower
  | "nu" | "numeric" => some (Ranges.plus numbers (.read "66c"))
  | "sc" | "scontinue" =>
    some (.read ("2c-2d 3a 3b 37e 55d 60c-60d 7f8 1802 1808 2013-2014 3001 fe10-fe11 fe13-fe14 "
      ++ "fe31-fe32 fe50-fe51 fe54-fe55 fe58 fe63 ff0c-ff0d ff1a-ff1b ff64"))
  | "se" | "sep" => some (.read "85 2028-2029")
  | "sp" => some (Ranges.minus CharSet.space (.read "a d 85 2028-2029"))
  | "st" | "sterm" => some (Ranges.minus Binary.sentenceTerminal dots)
  | "up" | "upper" => some upper
  | _ => none

end Segment

end Rsx.Pattern
