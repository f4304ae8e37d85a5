import ProgramRom.Text.Grid
import ProgramRom.Verilog.Literal

/-! # The alphabet as a table

The table lists every operation with its symbol and the word of program memory, and last the word that
fills the addresses past the end of a program. -/

namespace ProgramRom

def Operation.row (op : Operation) : List String :=
  [String.singleton op.symbol, op.literal, op.mnemonic]

def alphabet : Text.Grid where
  alignments := [.center, .center, .left]
  titles := ["Symbol", "Code", "Operation"]
  rows := Operation.all.map Operation.row ++ [["", Verilog.literal nopCode, "Nop (default)"]]

end ProgramRom
