import ProgramRom.Log.Recorded

/-! # Generation

The block of a source text, with the records that its making leaves. A source that is read leaves a
record, strict reading leaves none. A table that is laid out leaves one for each of its entries, unless
it does not fit a text. -/

namespace ProgramRom

open Log

/-- Why strict generation has no block. -/
inductive GenerationError where
  | unknownSymbol (error : UnknownSymbol)
  | limit (error : LimitError)
deriving DecidableEq, Repr

def Program.clean (source : String) : Recorded Program := do
  let program := ofSource source
  record (.cleaned source.length program.length)
  return program

def CaseTable.draw (table : CaseTable) (indent : UInt64) : Recorded (Except LimitError Block) := do
  match table.render indent with
  | .error e => return .error e
  | .ok block =>
    recordAll (table.entries.map .entry)
    return .ok block

/-- The block of a source, comments left out. -/
def generate (source : String) (indent : UInt64) : Recorded (Except LimitError Block) := do
  let program ← Program.clean source
  match ← (CaseTable.ofProgram program).draw indent with
  | .error e => return .error e
  | .ok block =>
    record (.generated block.count)
    return .ok block

/-- The block of a source without comments. The source is read before anything is laid out. -/
def generateStrict (source : String) (indent : UInt64) : Recorded (Except GenerationError Block) := do
  match Program.ofStrictSource source with
  | .error e => return .error (.unknownSymbol e)
  | .ok program => return (← (CaseTable.ofProgram program).draw indent).mapError .limit

end ProgramRom
