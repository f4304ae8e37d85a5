import ProgramRom.Word

/-! # Addresses of program memory

An address is the place of an operation in its program, counted from zero. It is kept in a word, and as
many address lines are needed as let every cell of a memory be selected. -/

namespace ProgramRom

structure Address where
  index : Nat
deriving DecidableEq, Repr

namespace Address

def text (a : Address) : String := toString a.index

/-- The address `n` cells further on, if a word holds it. -/
def advance (a : Address) (n : Nat) : Except LimitError Address :=
  if a.index + n < UInt64.size then .ok ⟨a.index + n⟩ else .error .sum

/-- The least number of bits that tell `cells` cells apart: none for a single cell, and else those of the
last address without its leading zeros. -/
def bits (cells : UInt64) : Nat :=
  if cells ≤ 1 then 0 else Word.width - Word.leadingZeros (cells - 1)

end Address

end ProgramRom
