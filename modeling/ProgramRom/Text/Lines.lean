import ProgramRom.Limit

/-! # Lines and parts of text -/

namespace ProgramRom.Text

/-- The text of a list of lines, each ended by a newline. -/
def unlines (lines : List String) : String :=
  String.join (lines.map (· ++ "\n"))

def spaces (n : Nat) : String := String.ofList (List.replicate n ' ')

/-- The number of columns that a margin takes, if a text holds so many spaces. -/
def columns (width : UInt64) : Except LimitError Nat :=
  if width.toNat ≤ maxTextLength then .ok width.toNat else .error .textLength

/-- Lines that stand `n` columns further in. -/
def indent (n : Nat) (lines : List String) : List String :=
  let margin := spaces n
  lines.map (margin ++ ·)

/-- The parts of a text that a character separates. There is always one part more than there are separators. -/
def parts (separator : Char) (text : String) : List String :=
  (text.toList.splitOn separator).map String.ofList

theorem parts_of_not_mem {separator : Char} {text : String} (h : separator ∉ text.toList) :
    parts separator text = [text] := by
  rw [parts, List.splitOn_eq_singleton h, List.map_singleton, String.ofList_toList]

theorem parts_append {separator : Char} {first : String} (h : separator ∉ first.toList) (rest : String) :
    parts separator (first ++ String.singleton separator ++ rest) = first :: parts separator rest := by
  have htext : (first ++ String.singleton separator ++ rest).toList = first.toList ++ separator :: rest.toList := by
    simp
  rw [parts, htext, List.splitOn_append_cons_self_of_not_mem h, List.map_cons, String.ofList_toList]
  rfl

theorem toList_unlines (lines : List String) :
    (unlines lines).toList = lines.flatMap fun line => line.toList ++ ['\n'] := by
  simp [unlines, String.toList_join, List.flatMap_map]

theorem unlines_append (xs ys : List String) : unlines (xs ++ ys) = unlines xs ++ unlines ys := by
  simp [← String.toList_inj, toList_unlines]

@[simp] theorem toList_spaces (n : Nat) : (spaces n).toList = List.replicate n ' ' := by
  simp [spaces]

@[simp] theorem length_spaces (n : Nat) : (spaces n).length = n := by
  simp [spaces]

end ProgramRom.Text
