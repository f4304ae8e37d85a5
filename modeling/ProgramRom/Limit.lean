/-! # Limits of the machine

No text is as long as half the address space, and no word holds a sum past the largest word. -/

namespace ProgramRom

/-- A limit that a computation would have to pass. -/
inductive LimitError where
  /-- A text longer than any text can be. -/
  | textLength
  /-- A sum that no word holds. -/
  | sum
deriving DecidableEq, Repr

def LimitError.message : LimitError → String
  | textLength => "capacity overflow"
  | sum => "attempt to add with overflow"

/-- The number of characters of the longest text. -/
def maxTextLength : Nat := 1 <<< 63 - 1

end ProgramRom
