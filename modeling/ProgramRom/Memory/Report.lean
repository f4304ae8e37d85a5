import ProgramRom.Memory.Estimate
import ProgramRom.Memory.Kibibits
import ProgramRom.Text.Grid

/-! # Reports of memory estimates

A report states the capacities and the widths of the addresses, and lists the memories with their sizes
in bits and in kibibits. -/

namespace ProgramRom.Memory.Estimate

def capacityLine (e : Estimate) : String :=
  s!"prog_len = {e.programCapacity.toNat} and data_len = {e.dataCapacity.toNat} ({e.scheme.name} scheme):"

def addressLine (e : Estimate) : String :=
  s!"Program address: {e.programAddressBits} bits, data address: {e.dataAddressBits} bits"

def memoryRow (memory : String × UInt64) : List String :=
  [memory.1, toString memory.2.toNat, kibibits memory.2]

def memoryGrid (memories : List (String × UInt64)) : Text.Grid where
  alignments := [.right, .right, .right]
  titles := ["Memory", "Bits", "Kibit"]
  rows := memories.map memoryRow

def report (e : Estimate) : Except LimitError String := do
  let memories ← e.memories
  return Text.unlines ([e.capacityLine, e.addressLine] ++ (memoryGrid memories).lines)

end ProgramRom.Memory.Estimate
