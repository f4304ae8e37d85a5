import ProgramRom.Text.Lines

/-! # Alignment -/

namespace ProgramRom.Text

/-- Where a text stands in a cell that is wider than it. -/
inductive Alignment where
  | left
  | center
  | right
deriving DecidableEq, Repr

/-- A text in a cell of at least its width. If it cannot stand exactly in the middle, it stands further
left. -/
def Alignment.pad (alignment : Alignment) (width : Nat) (text : String) : String :=
  let free := width - text.length
  match alignment with
  | left => text ++ spaces free
  | center => spaces (free / 2) ++ text ++ spaces (free - free / 2)
  | right => spaces free ++ text

/-- A padded text fills its cell. -/
theorem Alignment.length_pad (alignment : Alignment) {width : Nat} {text : String} (h : text.length ≤ width) :
    (alignment.pad width text).length = width := by
  cases alignment <;> simp [pad] <;> omega

end ProgramRom.Text
