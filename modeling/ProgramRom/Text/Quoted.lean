import ProgramRom.Text.Printable

/-! # Quoted text

Messages quote the text they speak of on one line. Between the quotes, the delimiter and the backslash
are escaped, tab and the line ends have short escapes, and every character that is not printable is
written as its code. -/

namespace ProgramRom.Text

/-- The code of a character in lowercase hexadecimal, without padding. -/
def escapeCode (c : Char) : List Char :=
  "\\u\x7b".toList ++ Nat.toDigits 16 c.toNat ++ ['\x7d']

/-- A character as it stands between two `delimiter`s. -/
def escape (delimiter c : Char) : List Char :=
  if c = delimiter || c = '\\' then ['\\', c]
  else if c = '\x00' then ['\\', '0']
  else if c = '\t' then ['\\', 't']
  else if c = '\r' then ['\\', 'r']
  else if c = '\n' then ['\\', 'n']
  else if isPrintable c then [c]
  else escapeCode c

/-- The quote of a single character. -/
def singleQuote : Char := Char.ofNat 0x27

def quoteChar (c : Char) : String :=
  String.ofList (singleQuote :: escape singleQuote c ++ [singleQuote])

def quoteString (s : String) : String :=
  String.ofList ('"' :: s.toList.flatMap (escape '"') ++ ['"'])

end ProgramRom.Text
