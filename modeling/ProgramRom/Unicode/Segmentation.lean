import ProgramRom.Unicode.Property
import ProgramRom.Unicode.Script

/-! # Boundaries in text

Characters are divided into classes by what they do at the boundaries of graphemes, words and sentences. -/

namespace ProgramRom.Unicode

/-- The first syllable of Hangul that is written as one character, and the number of such syllables. -/
def firstSyllable : Nat := 0xAC00

def syllableCount : Nat := 11172

/-- The number of syllables that begin with the same two sounds. The first of them has no third sound. -/
def syllablesOfTwo : Nat := 28

/-- The syllables of two sounds. -/
def openSyllables : CharSet :=
  ⟨(List.range (syllableCount / syllablesOfTwo)).map fun i =>
    ⟨firstSyllable + i * syllablesOfTwo, firstSyllable + i * syllablesOfTwo⟩⟩

/-- The syllables of three sounds. -/
def closedSyllables : CharSet :=
  ⟨(List.range (syllableCount / syllablesOfTwo)).map fun i =>
    ⟨firstSyllable + i * syllablesOfTwo + 1, firstSyllable + (i + 1) * syllablesOfTwo - 1⟩⟩

namespace Edition

/-! ### Graphemes -/

def graphemeControl (e : Edition) : CharSet :=
  let ignored := (e.ofCategories ["Cn"]).inter e.defaultIgnorable
  let others := CharSet.unions
    [.ofText ["A D 200C-200D"], listed "Prepended_Concatenation_Mark", e.graphemeExtend]
  ((e.ofCategories ["Zl", "Zp", "Cc", "Cf"]).union ignored).diff others

/-- The spacing marks that stand apart. -/
def separateMarks : List String :=
  ["102B-102C 1038 1062-1064 1067-106D 1083 1087-108C 108F 109A-109C 1A61 1A63-1A64 AA7B AA7D 11720-11721"]

def spacingMark (e : Edition) : CharSet :=
  (((e.ofCategories ["Mc"]).diff e.graphemeExtend).diff (.ofText separateMarks)).union (.ofText ["E33 EB3"])

/-- The letters that are joined to what follows. -/
def leadingLetters : List String :=
  ["D4E 111C2-111C3 113D1 1193F 11941 11A3A 11A84-11A89 11D46 11F02"]

def graphemeBreak? (e : Edition) : String → Option CharSet
  | "CR" => some (.ofText ["D"])
  | "LF" => some (.ofText ["A"])
  | "Control" => some e.graphemeControl
  | "Extend" => some (e.graphemeExtend.union (listed "Emoji_Modifier"))
  | "Prepend" => some ((listed "Prepended_Concatenation_Mark").union (.ofText leadingLetters))
  | "SpacingMark" => some e.spacingMark
  | "Regional_Indicator" => some (listed "Regional_Indicator")
  | "ZWJ" => some (.ofText ["200D"])
  | "L" => some (.ofText ["1100-115F A960-A97C"])
  | "V" => some (.ofText ["1160-11A7 D7B0-D7C6 16D63 16D67-16D6A"])
  | "T" => some (.ofText ["11A8-11FF D7CB-D7FB"])
  | "LV" => some openSyllables
  | "LVT" => some closedSyllables
  | _ => none

/-! ### Words -/

def wordExtend (e : Edition) : CharSet :=
  .unions [e.graphemeExtend, e.ofCategories ["Mc"], listed "Emoji_Modifier"]

def wordFormat (e : Edition) : CharSet :=
  (e.ofCategories ["Cf"]).diff
    (.unions [listed "Prepended_Concatenation_Mark", .ofText ["200B-200D"], e.graphemeExtend])

def hebrewLetter (e : Edition) : CharSet := (e.ofScript "Hebr").inter (e.ofCategories ["Lo"])

def wordKatakana (e : Edition) : CharSet :=
  (e.ofScript "Kana").union (.ofText ["3031-3035 309B-309C 30A0 30FC FF70"])

/-- The characters beside the alphabetic ones that words are made of. -/
def moreWordLetters : List String :=
  ["B8 2C2-2C5 2D2-2D7 2DE-2DF 2E5-2EB 2ED 2EF-2FF 55A-55C 55E 58A 5F3 70F A708-A716 A720-A721 A789-A78A AB5B"]

/-- The letters of scripts that are written without spaces between the words. -/
def unspacedLetters : List String :=
  ["E01-E30 E32-E33 E40-E46 E81-E82 E84 E86-E8A E8C-EA3 EA5 EA7-EB0 EB2-EB3 EBD EC0-EC4 EC6 EDC-EDF 1000-102A",
   "103F 1050-1055 105A-105D 1061 1065-1066 106E-1070 1075-1081 108E 1780-17B3 17D7 17DC 1950-196D 1970-1974",
   "1980-19AB 19B0-19C9 1A20-1A54 1AA7 A9E0-A9E4 A9E6-A9EF A9FA-A9FE AA60-AA76 AA7A AA7E-AAAF AAB1 AAB5-AAB6",
   "AAB9-AABD AAC0 AAC2 AADB-AADD 11700-1171A 11740-11746"]

def wordLetter (e : Edition) : CharSet :=
  (e.alphabetic.diff (.unions
    [listed "Ideographic", e.wordKatakana, e.ofScript "Hira", e.wordExtend, e.hebrewLetter,
      .ofText unspacedLetters])).union (.ofText moreWordLetters)

def wordNumeric (e : Edition) : CharSet :=
  (e.ofCategories ["Nd"]).union (.ofText ["600-605 66B 6DD 890-891 8E2 19DA 110BD 110CD"])

def wordBreak? (e : Edition) : String → Option CharSet
  | "CR" => some (.ofText ["D"])
  | "LF" => some (.ofText ["A"])
  | "Newline" => some (.ofText ["B-C 85 2028-2029"])
  | "Extend" => some e.wordExtend
  | "ZWJ" => some (.ofText ["200D"])
  | "Regional_Indicator" => some (listed "Regional_Indicator")
  | "Format" => some e.wordFormat
  | "Katakana" => some e.wordKatakana
  | "Hebrew_Letter" => some e.hebrewLetter
  | "ALetter" => some e.wordLetter
  | "Single_Quote" => some (.ofText ["27"])
  | "Double_Quote" => some (.ofText ["22"])
  | "MidNumLet" => some (.ofText ["2E 2018-2019 2024 FE52 FF07 FF0E"])
  | "MidLetter" => some (.ofText ["3A B7 387 55F 5F4 2027 FE13 FE55 FF1A"])
  | "MidNum" => some (.ofText ["2C 3B 37E 589 60C-60D 66C 7F8 2044 FE50 FE54 FF0C FF1B"])
  | "Numeric" => some e.wordNumeric
  | "ExtendNumLet" => some ((e.ofCategories ["Pc"]).union (.ofText ["202F"]))
  | "WSegSpace" => some (.ofText ["20 1680 2000-2006 2008-200A 205F 3000"])
  | _ => none

/-! ### Sentences -/

def sentenceExtend (e : Edition) : CharSet :=
  .unions [e.graphemeExtend, e.ofCategories ["Mc"], .ofText ["200D"]]

/-- The marks before numbers that count as numbers. -/
def numberMarks : List String := ["600-605 6DD 890-891 8E2 110BD 110CD"]

def sentenceFormat (e : Edition) : CharSet :=
  (e.ofCategories ["Cf"]).diff (.unions [.ofText ("200C-200D" :: numberMarks), e.graphemeExtend])

/-- The small letters that have no capital at the start of a sentence. -/
def sentenceLower (e : Edition) : CharSet :=
  (e.lowercase.diff e.graphemeExtend).diff (.ofText ["10D0-10FA 10FD-10FF"])

def sentenceUpper (e : Edition) : CharSet :=
  (e.uppercase.union (e.ofCategories ["Lt"])).diff (.ofText ["1C90-1CBA 1CBD-1CBF"])

def sentenceLetter (e : Edition) : CharSet :=
  (e.alphabetic.union (.ofText ["5F3"])).diff (.unions [e.sentenceLower, e.sentenceUpper, e.sentenceExtend])

def sentenceClose (e : Edition) : CharSet :=
  ((CharSet.unions [e.ofCategories ["Ps", "Pe", "Pi", "Pf"], listed "Quotation_Mark"]).diff
    (.ofText ["FF02 FF07"])).union (.ofText ["275B-2760 2E00-2E01 2E06-2E08 2E0B 1F676-1F678"])

def sentenceBreak? (e : Edition) : String → Option CharSet
  | "CR" => some (.ofText ["D"])
  | "LF" => some (.ofText ["A"])
  | "Extend" => some e.sentenceExtend
  | "Sep" => some (.ofText ["85 2028-2029"])
  | "Format" => some e.sentenceFormat
  | "Sp" => some (.ofText ["9 B-C 20 A0 1680 2000-200A 202F 205F 3000"])
  | "Lower" => some e.sentenceLower
  | "Upper" => some e.sentenceUpper
  | "OLetter" => some e.sentenceLetter
  | "Numeric" => some (e.wordNumeric.union (.ofText ["66C"]))
  | "ATerm" => some (.ofText ["2E 2024 FE52 FF0E"])
  | "STerm" => some ((listed "Sentence_Terminal").diff (.ofText ["2E 2024 FE52 FF0E"]))
  | "Close" => some e.sentenceClose
  | "SContinue" => some (.ofText
    ["2C-2D 3A-3B 37E 55D 60C-60D 7F8 1802 1808 2013-2014 3001 FE10-FE11 FE13-FE14 FE31-FE32 FE50-FE51",
     "FE54-FE55 FE58 FE63 FF0C-FF0D FF1A-FF1B FF64"])
  | _ => none

end Edition

end ProgramRom.Unicode
