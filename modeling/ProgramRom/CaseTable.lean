import ProgramRom.Address
import ProgramRom.Program
import ProgramRom.Text.Lines
import ProgramRom.Verilog.Literal
import ProgramRom.Word

/-! # Case tables

A program is loaded by a Verilog `case` statement over the instruction pointer: one arm per operation,
labelled with its address, and a default arm for every address past the end. The statement stands
between two markers, under a line that gives the length of the program. All lines are indented alike,
the arms by two more columns. -/

namespace ProgramRom

/-- An arm of the statement: the word of an operation, loaded at its address. -/
structure CaseEntry where
  address : Address
  operation : Operation
deriving DecidableEq, Repr

structure CaseTable where
  entries : List CaseEntry
deriving DecidableEq, Repr

/-- The text of a case table and the number of operations that it loads. -/
structure Block where
  text : String
  count : Nat
deriving DecidableEq, Repr

namespace Verilog

def beginMarker : String := "// --- BEGIN AUTO-GENERATED CODE ---"

def endMarker : String := "// --- END AUTO-GENERATED CODE ---"

/-- The register the statement selects by. -/
def selector : String := "iptr"

/-- The register the arms load. -/
def target : String := "prog_wr"

def lengthLine (count : Nat) : String :=
  s!"// PROGRAM LENGTH (PROG_LEN) should be set to: {count}"

/-- An arm: its label, the word that it loads, and a comment. -/
def arm (label : String) (word : UInt8) (comment : String) : String :=
  s!"{label}: {target} <= {literal word}; // {comment}"

end Verilog

def CaseEntry.line (e : CaseEntry) : String :=
  Verilog.arm e.address.text e.operation.code (String.singleton e.operation.symbol)

/-- How an entry is spoken of outside the table. -/
def CaseEntry.summary (e : CaseEntry) : String :=
  s!"{e.address.text} -> {e.operation.annotated}"

namespace CaseTable

def empty : CaseTable := ⟨[]⟩

/-- The operations of a program, each at its place. -/
def ofProgram (p : Program) : CaseTable :=
  ⟨p.operations.zipIdx.map fun (op, i) => ⟨⟨i⟩, op⟩⟩

def length (t : CaseTable) : Nat := t.entries.length

def isEmpty (t : CaseTable) : Bool := t.entries.isEmpty

/-- Columns by which the arms stand further in than the statement. -/
def armIndent : Nat := 2

def header (t : CaseTable) : List String :=
  [Verilog.beginMarker, Verilog.lengthLine t.length, s!"case ({Verilog.selector})"]

def arms (t : CaseTable) : List String :=
  t.entries.map CaseEntry.line ++ [Verilog.arm "default" nopCode "NOP"]

def footer : List String := ["endcase", Verilog.endMarker]

/-- The lines of the block, the statement and its arms at indentations of their own. -/
def lines (t : CaseTable) (outer inner : Nat) : List String :=
  Text.indent outer t.header ++ Text.indent inner t.arms ++ Text.indent outer footer

/-- The block at an indentation, however far in. -/
def layout (t : CaseTable) (indent : Nat) : Block :=
  ⟨Text.unlines (t.lines indent (indent + armIndent)), t.length⟩

/-- The indentation of the arms, as the machine adds. -/
def innerIndent (indent : UInt64) : Except LimitError UInt64 := Word.add indent armIndent.toUInt64

/-- The block at an indentation, if texts hold its margins. That of the statement is made before the indentation of
the arms is added up. -/
def render (t : CaseTable) (indent : UInt64) : Except LimitError Block := do
  let outer ← Text.columns indent
  let inner ← Text.columns (← innerIndent indent)
  return ⟨Text.unlines (t.lines outer inner), t.length⟩

/-- A sum that wraps around is never reached: a statement so far in has no margin of its own. -/
theorem render_eq (t : CaseTable) (indent : UInt64) :
    t.render indent =
      if indent.toNat + armIndent ≤ maxTextLength then .ok (t.layout indent.toNat) else .error .textLength := by
  have hmax : maxTextLength + armIndent < UInt64.size := by decide
  by_cases houter : indent.toNat ≤ maxTextLength
  · obtain ⟨inner, hinner⟩ : ∃ inner : UInt64, inner.toNat = indent.toNat + armIndent :=
      ⟨(indent.toNat + armIndent).toUInt64, UInt64.toNat_ofNat_of_lt' (by omega)⟩
    have hsum : innerIndent indent = .ok inner := Word.add_eq_ok_iff.mpr hinner
    by_cases hfits : indent.toNat + armIndent ≤ maxTextLength
    · simp only [render, Text.columns, if_pos houter, hsum, hinner, if_pos hfits, bind, Except.bind]
      rfl
    · simp only [render, Text.columns, if_pos houter, hsum, hinner, if_neg hfits, bind, Except.bind]
  · have hinner : ¬indent.toNat + armIndent ≤ maxTextLength := by omega
    simp only [render, Text.columns, if_neg houter, if_neg hinner, bind, Except.bind]

@[simp] theorem length_ofProgram (p : Program) : (ofProgram p).length = p.length := by
  simp [ofProgram, length, Program.length]

theorem operations_entries (p : Program) : (ofProgram p).entries.map CaseEntry.operation = p.operations := by
  rw [ofProgram, List.map_map]
  exact List.zipIdx_map_fst 0 p.operations

end CaseTable

end ProgramRom
