/-! # Positions in a source text

Lines and columns count from one, columns in characters. Only a newline begins a line. -/

namespace ProgramRom

structure Position where
  line : Nat
  column : Nat
deriving DecidableEq, Repr

namespace Position

/-- The position of the first character of a text. -/
def start : Position := ⟨1, 1⟩

/-- The position behind a character that stands at `p`. -/
def advance (p : Position) (c : Char) : Position :=
  if c = '\n' then ⟨p.line + 1, 1⟩ else ⟨p.line, p.column + 1⟩

/-- The position of the character that follows `before`. -/
def after (before : List Char) : Position := before.foldl advance start

end Position

end ProgramRom
