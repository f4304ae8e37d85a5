import ProgramRom.Operation
import ProgramRom.Position
import ProgramRom.Text.Blank
import ProgramRom.Text.Quoted

/-! # Programs

A program is the list of operations of a source text. The language has no syntax for comments: a
character outside the alphabet is one, wherever it stands. Reading a source keeps the operations in
their order and never fails. Strict reading allows only blanks between the operations and says where
the first other character stands. -/

namespace ProgramRom

structure Program where
  operations : List Operation
deriving DecidableEq, Repr

/-- A character that is neither an operation nor blank, and where it stands. -/
structure UnknownSymbol where
  position : Position
  symbol : Char
deriving DecidableEq, Repr

def UnknownSymbol.message (e : UnknownSymbol) : String :=
  s!"Unknown symbol {Text.quoteChar e.symbol} at line {e.position.line}, column {e.position.column}"

namespace Program

def empty : Program := ⟨[]⟩

def length (p : Program) : Nat := p.operations.length

def isEmpty (p : Program) : Bool := p.operations.isEmpty

/-- The operations of a source text. -/
def ofSource (source : String) : Program :=
  ⟨source.toList.filterMap Operation.ofSymbol?⟩

/-- Cleans what is left of a source strictly. It begins at `position`, and `operations` are those before it. -/
def cleanStrictFrom (position : Position) (operations : Array Operation) : List Char → Except UnknownSymbol Program
  | [] => .ok ⟨operations.toList⟩
  | c :: rest =>
    match Operation.ofSymbol? c with
    | some op => cleanStrictFrom (position.advance c) (operations.push op) rest
    | none =>
      if Text.isBlank c then cleanStrictFrom (position.advance c) operations rest
      else .error ⟨position, c⟩

/-- The operations of a source text that holds nothing else but blanks. -/
def ofStrictSource (source : String) : Except UnknownSymbol Program :=
  cleanStrictFrom .start #[] source.toList

/-- A program as a source text without comments. -/
def toSource (p : Program) : String :=
  String.ofList (p.operations.map Operation.symbol)

theorem ofSource_toSource (p : Program) : ofSource p.toSource = p := by
  obtain ⟨operations⟩ := p
  induction operations with
  | nil => rfl
  | cons op ops ih => simp_all [ofSource, toSource]

theorem operations_ofSource_append (s t : String) :
    (ofSource (s ++ t)).operations = (ofSource s).operations ++ (ofSource t).operations := by
  simp [ofSource]

end Program

end ProgramRom
