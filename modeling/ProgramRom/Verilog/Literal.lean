import ProgramRom.Operation

/-! # Words as Verilog literals

A word of program memory is written as a sized hexadecimal literal with two uppercase digits. -/

namespace ProgramRom.Verilog

/-- The digits of the base, in the order of their values. -/
def hexDigits : List Char := "0123456789ABCDEF".toList

def hexDigit (value : Nat) : Char := hexDigits.getD value '0'

/-- The literal of a word: the size in bits, then both digits. -/
def literal (word : UInt8) : String :=
  "8'h" ++ String.ofList [hexDigit (word.toNat / 16), hexDigit (word.toNat % 16)]

end ProgramRom.Verilog

namespace ProgramRom.Operation

def literal (op : Operation) : String := Verilog.literal op.code

/-- The literal of an operation with its symbol beside it. -/
def annotated (op : Operation) : String := s!"{op.literal} ({op.symbol})"

end ProgramRom.Operation
