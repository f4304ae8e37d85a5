import ProgramRom.Text.Numeral
import ProgramRom.Unicode.CharSet

/-! # Written tables

The data of the standard is kept as text, in two forms. A list of codes has codes and ranges in hexadecimal
with blanks between them: `41-5A` is a range, and `100-12E/2` takes every second code of one. A run-length
table goes through all codes in order: every value is a capital letter with small ones behind it, and the
number of codes in a row that have the value follows in decimal if it is not one. -/

namespace ProgramRom.Unicode

def hex (digits : String) : Nat := Text.numeralValue 16 digits.toList

namespace CodeRange

/-- A code, or a range with a hyphen. -/
def ofText (text : String) : CodeRange :=
  match text.splitOn "-" with
  | [first, last] => ⟨hex first, hex last⟩
  | _ => ⟨hex text, hex text⟩

/-- Every so many codes of a range. -/
def everyStep (r : CodeRange) (step : Nat) : List CodeRange :=
  (List.range ((r.last - r.first) / step + 1)).map fun i => ⟨r.first + i * step, r.first + i * step⟩

/-- A range, or the codes of a range with the step behind a slash. -/
def allOfText (text : String) : List CodeRange :=
  match text.splitOn "/" with
  | [range, step] => (ofText range).everyStep (hex step)
  | _ => [ofText text]

end CodeRange

/-- The set that lines with codes list. -/
def CharSet.ofText (lines : List String) : CharSet :=
  .ofRanges (lines.flatMap fun line => (line.splitOn " ").flatMap CodeRange.allOfText)

/-- Codes in a row with the same value. -/
structure Run where
  value : String
  range : CodeRange
deriving DecidableEq, Repr

namespace Run

/-- A value and the number of codes that have it, as they are read: the letters, and the digits behind. -/
structure Entry where
  letters : List Char
  digits : List Char

/-- The entries of a table that is read from its end, the first in front. -/
def addLetter (c : Char) (state : Entry × List Entry) : Entry × List Entry :=
  let (entry, entries) := state
  if c.isDigit then (⟨[], c :: entry.digits⟩, entries)
  else if c.isUpper then (⟨[], []⟩, ⟨c :: entry.letters, entry.digits⟩ :: entries)
  else (⟨c :: entry.letters, entry.digits⟩, entries)

def entries (lines : List String) : List Entry :=
  (lines.foldr (fun line state => line.toList.foldr addLetter state) (⟨[], []⟩, [])).2

def Entry.count (e : Entry) : Nat := if e.digits.isEmpty then 1 else Text.numeralValue 10 e.digits

/-- Lays the entries out, one behind the other. -/
def layOut (first : Nat) : List Entry → List Run
  | [] => []
  | e :: es => ⟨String.ofList e.letters, ⟨first, first + e.count - 1⟩⟩ :: layOut (first + e.count) es

def ofText (lines : List String) : List Run := layOut 0 (entries lines)

/-- The codes of a table with some values. -/
def select (runs : List Run) (p : String → Bool) : CharSet :=
  .ofRanges ((runs.filter fun run => p run.value).map (·.range))

end Run

end ProgramRom.Unicode
