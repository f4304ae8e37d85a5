import ProgramRom.Address
import ProgramRom.Memory.Scheme
import ProgramRom.Word

/-! # Memory estimates

An interpreter core keeps four memories: the program, the data cells, a jump table that holds for every
operation the address of its matching bracket, and a stack of the open brackets, used while the jump
table is built. Jump table and stack hold program addresses. All sizes are in bits, and an estimate
depends on the capacities and the scheme alone. -/

namespace ProgramRom.Memory

/-- Bits of a data cell. -/
def dataCellBits : Nat := 8

/-- The largest program whose length fits fifteen bits. -/
def defaultProgramCapacity : UInt64 := 0x7FFF

/-- What a capacity is the capacity of. -/
inductive Region where
  | program
  | data
deriving DecidableEq, Repr

def Region.name : Region → String
  | program => "Program"
  | data => "Data"

inductive Store where
  | program
  | data
  | jumpTable
  | bracketStack
deriving DecidableEq, Repr

def Store.name : Store → String
  | program => "program memory"
  | data => "data memory"
  | jumpTable => "jump table"
  | bracketStack => "bracket stack"

/-- A size that fits no word. -/
inductive Excess where
  /-- The size of one memory. -/
  | size (store : Store) (entries width : Nat)
  /-- The sum of sizes that fit a word each. -/
  | total
deriving DecidableEq, Repr

def Excess.text : Excess → String
  | size store entries width => s!"{entries} x {width} bits ({store.name})"
  | total => "total memory"

/-- Why capacities have no estimate. -/
inductive Fault where
  /-- A memory without cells. -/
  | zeroCapacity (region : Region)
  | overflow (excess : Excess)
deriving DecidableEq, Repr

def Fault.message : Fault → String
  | zeroCapacity region => s!"{region.name} capacity must be at least one cell"
  | overflow excess => "Capacity arithmetic out of range: " ++ excess.text

structure Estimate where
  scheme : Scheme
  programCapacity : UInt64
  dataCapacity : UInt64
  programAddressBits : Nat
  dataAddressBits : Nat
  programMemory : UInt64
  dataMemory : UInt64
  jumpTable : UInt64
  bracketStack : UInt64
deriving DecidableEq, Repr

/-- The size of a memory with entries of one width. -/
def storeSize (entries : UInt64) (width : Nat) (store : Store) : Except Fault UInt64 :=
  match Word.fit? (entries.toNat * width) with
  | some size => .ok size
  | none => .error (.overflow (.size store entries.toNat width))

namespace Estimate

/-- All memories together, if a word holds the sum. -/
def total? (e : Estimate) : Option UInt64 := do
  let stores ← Word.add? e.programMemory e.dataMemory
  let withJumps ← Word.add? stores e.jumpTable
  Word.add? withJumps e.bracketStack

/-- All memories together, added up without a check beforehand. -/
def total (e : Estimate) : Except LimitError UInt64 := do
  let stores ← Word.add e.programMemory e.dataMemory
  let withJumps ← Word.add stores e.jumpTable
  Word.add withJumps e.bracketStack

/-- The sizes of the memories for given capacities. -/
def stores (programCapacity dataCapacity : UInt64) (scheme : Scheme) : Except Fault Estimate := do
  let addressBits := Address.bits programCapacity
  return {
    scheme, programCapacity, dataCapacity
    programAddressBits := addressBits
    dataAddressBits := Address.bits dataCapacity
    programMemory := ← storeSize programCapacity scheme.bitsPerOperation .program
    dataMemory := ← storeSize dataCapacity dataCellBits .data
    jumpTable := ← storeSize programCapacity addressBits .jumpTable
    bracketStack := ← storeSize (scheme.stackEntries programCapacity) addressBits .bracketStack }

/-- The estimate for given capacities: both at least one cell, and the total a word. -/
def ofCapacities (programCapacity dataCapacity : UInt64) (scheme : Scheme) : Except Fault Estimate :=
  if programCapacity = 0 then .error (.zeroCapacity .program)
  else if dataCapacity = 0 then .error (.zeroCapacity .data)
  else do
    let estimate ← stores programCapacity dataCapacity scheme
    match estimate.total? with
    | some _ => return estimate
    | none => throw (.overflow .total)

/-- Each memory with its size, the total last. -/
def memories (e : Estimate) : Except LimitError (List (String × UInt64)) := do
  let total ← e.total
  return [("Program Memory", e.programMemory), ("Data Memory", e.dataMemory), ("Jump Table Memory", e.jumpTable),
    ("Bracket Stack Memory", e.bracketStack), ("Total Memory Needed", total)]

end Estimate

end ProgramRom.Memory
