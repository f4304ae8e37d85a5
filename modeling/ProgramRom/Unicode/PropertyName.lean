/-! # Names of properties

A property has a long name and may have shorter ones. Names are compared without regard to case, blanks,
hyphens and low lines, and the word `is` in front of a name counts for nothing. -/

namespace ProgramRom.Unicode

/-- The letters of a name that count. -/
def significant (cs : List Char) : List Char :=
  (cs.filter fun c => c.toNat < 0x80 && c ≠ ' ' && c ≠ '_' && c ≠ '-').map Char.toLower

/-- A name as it is compared. The abbreviation `isc` is a name of its own, and the letter behind its first two
is not taken for one. -/
def plainName (name : String) : String :=
  match name.toList with
  | i :: s :: rest =>
    if i.toLower = 'i' && s.toLower = 's' then
      let plain := significant rest
      if plain = ['c'] then "isc" else String.ofList plain
    else String.ofList (significant (i :: s :: rest))
  | cs => String.ofList (significant cs)

/-- The first of some names that are one of a thing's. -/
def named? (things : List (List String)) (name : String) : Option String := do
  let names ← things.find? fun names => names.any fun other => plainName other = plainName name
  names.head?

/-- The names of all properties, the long one first. -/
def propertyNames : List (List String) :=
  [["Age", "age"], ["Block", "blk"], ["Script", "sc"], ["Script_Extensions", "scx"], ["General_Category", "gc"],
   ["Grapheme_Cluster_Break", "GCB"], ["Sentence_Break", "SB"], ["Word_Break", "WB"],
   ["ASCII_Hex_Digit", "AHex"], ["Alphabetic", "Alpha"], ["Bidi_Control", "Bidi_C"],
   ["Bidi_Mirrored", "Bidi_M"], ["Case_Ignorable", "CI"], ["Cased"], ["Changes_When_Casefolded", "CWCF"],
   ["Changes_When_Casemapped", "CWCM"], ["Changes_When_Lowercased", "CWL"],
   ["Changes_When_NFKC_Casefolded", "CWKCF"], ["Changes_When_Titlecased", "CWT"],
   ["Changes_When_Uppercased", "CWU"], ["Composition_Exclusion", "CE"], ["Dash"],
   ["Default_Ignorable_Code_Point", "DI"], ["Deprecated", "Dep"], ["Diacritic", "Dia"], ["Emoji"],
   ["Emoji_Component", "EComp"], ["Emoji_Modifier", "EMod"], ["Emoji_Modifier_Base", "EBase"],
   ["Emoji_Presentation", "EPres"], ["Expands_On_NFC", "XO_NFC"], ["Expands_On_NFD", "XO_NFD"],
   ["Expands_On_NFKC", "XO_NFKC"], ["Expands_On_NFKD", "XO_NFKD"], ["Extended_Pictographic", "ExtPict"],
   ["Extender", "Ext"], ["Full_Composition_Exclusion", "Comp_Ex"], ["Grapheme_Base", "Gr_Base"],
   ["Grapheme_Extend", "Gr_Ext"], ["Grapheme_Link", "Gr_Link"], ["Hex_Digit", "Hex"], ["Hyphen"],
   ["ID_Compat_Math_Continue"], ["ID_Compat_Math_Start"], ["ID_Continue", "IDC"], ["ID_Start", "IDS"],
   ["IDS_Binary_Operator", "IDSB"], ["IDS_Trinary_Operator", "IDST"], ["IDS_Unary_Operator", "IDSU"],
   ["Ideographic", "Ideo"], ["Join_Control", "Join_C"], ["Logical_Order_Exception", "LOE"],
   ["Lowercase", "Lower"], ["Math"], ["Modifier_Combining_Mark", "MCM"], ["Noncharacter_Code_Point", "NChar"],
   ["Other_Alphabetic", "OAlpha"], ["Other_Default_Ignorable_Code_Point", "ODI"],
   ["Other_Grapheme_Extend", "OGr_Ext"], ["Other_ID_Continue", "OIDC"], ["Other_ID_Start", "OIDS"],
   ["Other_Lowercase", "OLower"], ["Other_Math", "OMath"], ["Other_Uppercase", "OUpper"],
   ["Pattern_Syntax", "Pat_Syn"], ["Pattern_White_Space", "Pat_WS"], ["Prepended_Concatenation_Mark", "PCM"],
   ["Quotation_Mark", "QMark"], ["Radical"], ["Regional_Indicator", "RI"], ["Sentence_Terminal", "STerm"],
   ["Soft_Dotted", "SD"], ["Terminal_Punctuation", "Term"], ["Unified_Ideograph", "UIdeo"],
   ["Uppercase", "Upper"], ["Variation_Selector", "VS"], ["White_Space", "WSpace", "space"],
   ["XID_Continue", "XIDC"], ["XID_Start", "XIDS"], ["Bidi_Class", "bc"], ["Bidi_Mirroring_Glyph", "bmg"],
   ["Bidi_Paired_Bracket", "bpb"], ["Bidi_Paired_Bracket_Type", "bpt"], ["Canonical_Combining_Class", "ccc"],
   ["Case_Folding", "cf"], ["Decomposition_Mapping", "dm"], ["Decomposition_Type", "dt"],
   ["East_Asian_Width", "ea"], ["Equivalent_Unified_Ideograph", "EqUIdeo"], ["FC_NFKC_Closure", "FC_NFKC"],
   ["Hangul_Syllable_Type", "hst"], ["ISO_Comment", "isc"], ["Indic_Conjunct_Break", "InCB"],
   ["Indic_Positional_Category", "InPC"], ["Indic_Syllabic_Category", "InSC"], ["Jamo_Short_Name", "JSN"],
   ["Joining_Group", "jg"], ["Joining_Type", "jt"], ["Line_Break", "lb"], ["Lowercase_Mapping", "lc"],
   ["NFC_Quick_Check", "NFC_QC"], ["NFD_Quick_Check", "NFD_QC"], ["NFKC_Casefold", "NFKC_CF"],
   ["NFKC_Quick_Check", "NFKC_QC"], ["NFKC_Simple_Casefold", "NFKC_SCF"], ["NFKD_Quick_Check", "NFKD_QC"],
   ["Name", "na"], ["Name_Alias"], ["Numeric_Type", "nt"], ["Numeric_Value", "nv"],
   ["Simple_Case_Folding", "scf", "sfc"], ["Simple_Lowercase_Mapping", "slc"],
   ["Simple_Titlecase_Mapping", "stc"], ["Simple_Uppercase_Mapping", "suc"], ["Titlecase_Mapping", "tc"],
   ["Unicode_1_Name", "na1"], ["Uppercase_Mapping", "uc"], ["Vertical_Orientation", "vo"],
   ["kAccountingNumeric", "cjkAccountingNumeric"], ["kCompatibilityVariant", "cjkCompatibilityVariant"],
   ["kEH_Cat"], ["kEH_Core"], ["kEH_Desc"], ["kEH_Func"], ["kEH_FVal"], ["kEH_HG"], ["kEH_IFAO"],
   ["kEH_JSesh"], ["kEH_NoMirror"], ["kEH_NoRotate"], ["kEH_UniK"], ["kIICore", "cjkIICore"],
   ["kIRG_GSource", "cjkIRG_GSource"], ["kIRG_HSource", "cjkIRG_HSource"], ["kIRG_JSource", "cjkIRG_JSource"],
   ["kIRG_KPSource", "cjkIRG_KPSource"], ["kIRG_KSource", "cjkIRG_KSource"],
   ["kIRG_MSource", "cjkIRG_MSource"], ["kIRG_SSource", "cjkIRG_SSource"], ["kIRG_TSource", "cjkIRG_TSource"],
   ["kIRG_UKSource", "cjkIRG_UKSource"], ["kIRG_USource", "cjkIRG_USource"],
   ["kIRG_VSource", "cjkIRG_VSource"], ["kMandarin", "cjkMandarin"], ["kOtherNumeric", "cjkOtherNumeric"],
   ["kPrimaryNumeric", "cjkPrimaryNumeric"], ["kRSUnicode", "cjkRSUnicode", "Unicode_Radical_Stroke", "URS"],
   ["kTotalStrokes", "cjkTotalStrokes"], ["kUnihanCore2020", "cjkUnihanCore2020"]]

/-- The classes of characters at the boundaries of graphemes, the long names first. -/
def graphemeBreakNames : List (List String) :=
  [["Control", "CN"], ["CR"], ["E_Base", "EB"], ["E_Base_GAZ", "EBG"], ["E_Modifier", "EM"], ["Extend", "EX"],
   ["Glue_After_Zwj", "GAZ"], ["L"], ["LF"], ["LV"], ["LVT"], ["Prepend", "PP"], ["Regional_Indicator", "RI"],
   ["SpacingMark", "SM"], ["T"], ["V"], ["Other", "XX"], ["ZWJ"]]

def wordBreakNames : List (List String) :=
  [["CR"], ["Double_Quote", "DQ"], ["E_Base", "EB"], ["E_Base_GAZ", "EBG"], ["E_Modifier", "EM"],
   ["ExtendNumLet", "EX"], ["Extend"], ["Format", "FO"], ["Glue_After_Zwj", "GAZ"], ["Hebrew_Letter", "HL"],
   ["Katakana", "KA"], ["ALetter", "LE"], ["LF"], ["MidNumLet", "MB"], ["MidLetter", "ML"], ["MidNum", "MN"],
   ["Newline", "NL"], ["Numeric", "NU"], ["Regional_Indicator", "RI"], ["Single_Quote", "SQ"], ["WSegSpace"],
   ["Other", "XX"], ["ZWJ"]]

def sentenceBreakNames : List (List String) :=
  [["ATerm", "AT"], ["Close", "CL"], ["CR"], ["Extend", "EX"], ["Format", "FO"], ["OLetter", "LE"], ["LF"],
   ["Lower", "LO"], ["Numeric", "NU"], ["SContinue", "SC"], ["Sep", "SE"], ["Sp", "SP"], ["STerm", "ST"],
   ["Upper", "UP"], ["Other", "XX"]]

end ProgramRom.Unicode
