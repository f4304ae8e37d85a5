import ProgramRom.Unicode.Folding
import ProgramRom.Unicode.Property

/-! # Classes with a name

Classes of ASCII characters are called by their names, and digits, blanks and the characters of words by a
letter as well. The letter stands for a class of ASCII or of all characters. -/

namespace ProgramRom.Pattern

open Unicode

/-- A class that has a letter. -/
inductive Shorthand where
  | digit
  | blank
  | word
deriving DecidableEq, Repr

namespace CharClass

def ofChars (ranges : List (Char × Char)) : CharSet :=
  .ofRanges (ranges.map fun (first, last) => ⟨first.toNat, last.toNat⟩)

/-- The classes of ASCII characters that have a name. -/
def asciiClasses : List (String × CharSet) :=
  [("alnum", ofChars [('0', '9'), ('A', 'Z'), ('a', 'z')]),
   ("alpha", ofChars [('A', 'Z'), ('a', 'z')]),
   ("ascii", ofChars [('\x00', '\x7f')]),
   ("blank", ofChars [('\t', '\t'), (' ', ' ')]),
   ("cntrl", ofChars [('\x00', '\x1f'), ('\x7f', '\x7f')]),
   ("digit", ofChars [('0', '9')]),
   ("graph", ofChars [('!', '~')]),
   ("lower", ofChars [('a', 'z')]),
   ("print", ofChars [(' ', '~')]),
   ("punct", ofChars [('!', '/'), (':', '@'), ('[', '\x60'), ('\x7b', '~')]),
   ("space", ofChars [('\t', '\r'), (' ', ' ')]),
   ("upper", ofChars [('A', 'Z')]),
   ("word", ofChars [('0', '9'), ('A', 'Z'), ('_', '_'), ('a', 'z')]),
   ("xdigit", ofChars [('0', '9'), ('A', 'F'), ('a', 'f')])]

def ascii? (name : String) : Option CharSet := asciiClasses.lookup name

/-- The edition of the standard whose properties patterns know. -/
def edition : Edition := .sixteen

def digits : CharSet := edition.ofCategories ["Nd"]

def blanks : CharSet := listed "White_Space"

def words : CharSet := edition.word

/-- A set with the letters of ASCII in either case. -/
def foldAscii (s : CharSet) : CharSet :=
  let small := (s.inter (ofChars [('a', 'z')])).ranges.map fun r => ⟨r.first - 32, r.last - 32⟩
  let capital := (s.inter (ofChars [('A', 'Z')])).ranges.map fun r => ⟨r.first + 32, r.last + 32⟩
  .ofRanges (s.ranges ++ small ++ capital)

end CharClass

/-- The characters that a letter stands for. -/
def Shorthand.set (s : Shorthand) (ascii : Bool) : CharSet :=
  match s, ascii with
  | digit, false => CharClass.digits
  | digit, true => (CharClass.ascii? "digit").getD .empty
  | blank, false => CharClass.blanks
  | blank, true => (CharClass.ascii? "space").getD .empty
  | word, false => CharClass.words
  | word, true => (CharClass.ascii? "word").getD .empty

end ProgramRom.Pattern
