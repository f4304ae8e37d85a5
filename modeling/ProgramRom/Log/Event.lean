import ProgramRom.CaseTable
import ProgramRom.Demo
import ProgramRom.Log.Level
import ProgramRom.Memory.Estimate
import ProgramRom.Text.Alignment
import ProgramRom.Text.Terminal

/-! # Log records

A record says that something was done, for which component, and with what result. -/

namespace ProgramRom.Log

inductive Event where
  /-- A source was read. -/
  | cleaned (characters operations : Nat)
  /-- An entry of a case table was laid out. -/
  | entry (e : CaseEntry)
  /-- A block was generated from a source. -/
  | generated (entries : Nat)
  /-- A text was read as a capacity. -/
  | capacity (text : String) (value : UInt64)
  | estimated (estimate : Memory.Estimate)
  | demoChosen (demo : Demo)
  /-- A block was written to a file. -/
  | written (entries : Nat) (path : String)
  /-- The length that the module which holds the block has to declare. -/
  | lengthToDeclare (entries : Nat)
deriving DecidableEq, Repr

/-- The name of a scheme in a record. -/
def schemeLabel : Scheme → String
  | .packed => "Packed"
  | .byte => "Byte"

/-- All fields of an estimate on one line. -/
def estimateLabel (e : Memory.Estimate) : String :=
  "MemoryEstimate \x7b " ++
    String.intercalate ", "
      [s!"scheme: {schemeLabel e.scheme}", s!"program_capacity: {e.programCapacity.toNat}",
       s!"data_capacity: {e.dataCapacity.toNat}", s!"program_address_bits: {e.programAddressBits}",
       s!"data_address_bits: {e.dataAddressBits}", s!"program_memory: {e.programMemory.toNat}",
       s!"data_memory: {e.dataMemory.toNat}", s!"jump_table: {e.jumpTable.toNat}",
       s!"bracket_stack: {e.bracketStack.toNat}"] ++ " \x7d"

namespace Event

def level : Event → Level
  | entry _ => .trace
  | cleaned .. | generated _ | capacity .. | estimated _ => .debug
  | demoChosen _ | written .. | lengthToDeclare _ => .info

/-- The component that a record comes from. -/
def target : Event → String
  | cleaned .. => "bfcase::program"
  | entry _ | generated _ => "bfcase::generator"
  | capacity .. => "bfcase::capacity::size"
  | estimated _ => "bfcase::capacity"
  | demoChosen _ | written .. | lengthToDeclare _ => "bfcase"

def message : Event → String
  | cleaned characters operations => s!"cleaned {characters} source chars down to {operations} instructions"
  | entry e => e.summary
  | generated entries => s!"generated case table with {entries} entries"
  | capacity text value => s!"capacity {Text.quoteString text} = {value.toNat}"
  | estimated estimate => estimateLabel estimate
  | demoChosen demo => s!"Using the built-in '{demo.name}' program"
  | written entries path => s!"Wrote {entries} case entries to {path}"
  | lengthToDeclare entries => s!"Set the PROG_LEN parameter to {entries} in your module declaration."

/-- A record as a line of the log. Further lines of its message are indented. -/
def line (e : Event) : String :=
  s!"[{Text.Alignment.left.pad 5 e.level.name} {e.target}] " ++ String.intercalate "\n    " (e.message.splitOn "\n")

/-- A record as the log shows it: its line with the line end, without the control of a terminal. A sequence
that the line leaves open takes the line end with it. -/
def shown (e : Event) : String := Text.visible (e.line ++ "\n")

def isEntry : Event → Bool
  | entry _ => true
  | _ => false

end Event

end ProgramRom.Log
