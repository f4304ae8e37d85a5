import ProgramRom.Text.Lines

/-! # Paths

A path is read as the names on the way to a file. Empty names count for nothing, but show that the name
before them means a directory. -/

namespace ProgramRom.CommandLine

structure Path where
  /-- Whether the way begins at the root. -/
  absolute : Bool
  names : List String
  /-- Whether a slash follows the last name. -/
  slashed : Bool
deriving DecidableEq, Repr

namespace Path

/-- The most bytes that a path may have. -/
def sizeLimit : Nat := 4095

/-- The most bytes that a name may have. -/
def nameSizeLimit : Nat := 255

def ofText (text : String) : Path where
  absolute := text.toList.head? = some '/'
  names := (Text.parts '/' text).filter (!·.isEmpty)
  slashed := text.toList.getLast? = some '/'

/-- The names of the directory itself and of the one above it. -/
def isDots (name : String) : Bool := name = "." || name = ".."

end Path

end ProgramRom.CommandLine
