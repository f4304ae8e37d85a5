import ProgramRom.Unicode.Category
import ProgramRom.Unicode.PropertyList

/-! # Properties that characters have or have not

Most of the larger properties follow from the categories, with characters that are listed besides. -/

namespace ProgramRom.Unicode

namespace Edition

/-- The letters, with the numbers that are made of letters. -/
def letters (e : Edition) : CharSet := e.ofCategories ["Lu", "Ll", "Lt", "Lm", "Lo", "Nl"]

def alphabetic (e : Edition) : CharSet := e.letters.union ((CharSet.ofText otherAlphabeticList).diff e.missing)

def numeric (e : Edition) : CharSet := e.ofCategories ["Nd", "Nl", "No"]

def lowercase (e : Edition) : CharSet := (e.ofCategories ["Ll"]).union (listed "Other_Lowercase")

def uppercase (e : Edition) : CharSet := (e.ofCategories ["Lu"]).union (listed "Other_Uppercase")

def graphemeExtend (e : Edition) : CharSet := (e.ofCategories ["Mn", "Me"]).union (listed "Other_Grapheme_Extend")

def graphemeBase (e : Edition) : CharSet :=
  (CharSet.all.diff (e.ofCategories ["Cc", "Cf", "Cs", "Co", "Cn", "Zl", "Zp"])).diff e.graphemeExtend

def defaultIgnorable (e : Edition) : CharSet :=
  let formats := e.ofCategories ["Cf"]
  let shown := CharSet.unions
    [listed "White_Space", listed "Prepended_Concatenation_Mark", .ofText ["FFF9-FFFB 13430-13440"]]
  (CharSet.unions [listed "Other_Default_Ignorable_Code_Point", formats, listed "Variation_Selector"]).diff shown

/-- The characters that take part in the writing of patterns, which no identifier has. -/
def patternCharacters (_ : Edition) : CharSet := (listed "Pattern_Syntax").union (listed "Pattern_White_Space")

def idStart (e : Edition) : CharSet := (e.letters.union (listed "Other_ID_Start")).diff e.patternCharacters

def idContinue (e : Edition) : CharSet :=
  let more := (e.ofCategories ["Mn", "Mc", "Nd", "Pc"]).union (listed "Other_ID_Continue")
  (e.idStart.union more).diff e.patternCharacters

/-- The characters of identifiers whose compatible forms would not continue one. -/
def incompatible : List String := ["37A 309B-309C FC5E-FC63 FDFA-FDFB FE70-FE7E/2"]

/-- The characters that may start an identifier, but whose compatible forms would not. -/
def incompatibleAtStart : List String := ["E33 EB3 FF9E-FF9F"]

def xidStart (e : Edition) : CharSet := e.idStart.diff (.ofText (incompatible ++ incompatibleAtStart))

def xidContinue (e : Edition) : CharSet := e.idContinue.diff (.ofText incompatible)

/-- The characters between letters that do not end a word for the rules of case. -/
def caseIgnorable (e : Edition) : CharSet :=
  (e.ofCategories ["Mn", "Me", "Cf", "Lm", "Sk"]).union
    (.ofText ["27 2E 3A B7 387 55F 5F4 2018-2019 2024 2027 FE13 FE52 FE55 FF07 FF0E FF1A"])

/-- The letters that are capitals already where a title needs one. -/
def titleLetters : List String :=
  ["1C5 1C8 1CB 1F2 10D0-10FA 10FD-10FF 1F88-1F8F 1F98-1F9F 1FA8-1FAF 1FBC 1FCC 1FFC"]

def changesWhenTitlecased (_ : Edition) : CharSet :=
  ((listed "Changes_When_Uppercased").diff (.ofText titleLetters)).union (.ofText ["1C4 1C7 1CA 1F1"])

/-- The characters of words in a pattern. -/
def word (e : Edition) : CharSet :=
  CharSet.unions [e.alphabetic, e.ofCategories ["Mn", "Mc", "Me", "Nd", "Pc"], listed "Join_Control"]

/-- The characters of a property that follows from others. -/
def derived? (e : Edition) : String → Option CharSet
  | "Alphabetic" => some e.alphabetic
  | "Case_Ignorable" => some e.caseIgnorable
  | "Cased" => some (.unions [e.lowercase, e.uppercase, e.ofCategories ["Lt"]])
  | "Changes_When_Casemapped" => some (.unions
    [listed "Changes_When_Lowercased", listed "Changes_When_Uppercased", e.changesWhenTitlecased])
  | "Changes_When_Titlecased" => some e.changesWhenTitlecased
  | "Default_Ignorable_Code_Point" => some e.defaultIgnorable
  | "Grapheme_Base" => some e.graphemeBase
  | "Grapheme_Extend" => some e.graphemeExtend
  | "ID_Continue" => some e.idContinue
  | "ID_Start" => some e.idStart
  | "Lowercase" => some e.lowercase
  | "Math" => some ((e.ofCategories ["Sm"]).union (listed "Other_Math"))
  | "Other_Alphabetic" => some ((CharSet.ofText otherAlphabeticList).diff e.missing)
  | "Uppercase" => some e.uppercase
  | "XID_Continue" => some e.xidContinue
  | "XID_Start" => some e.xidStart
  | _ => none

/-- The characters that have a property, by its long name. -/
def property? (e : Edition) (name : String) : Option CharSet :=
  e.derived? name <|> if (listedProperties.lookup name).isSome then some (listed name) else none

end Edition

end ProgramRom.Unicode
