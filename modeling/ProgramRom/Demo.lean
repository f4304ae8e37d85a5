import ProgramRom.UnknownName

/-! # Built-in programs -/

namespace ProgramRom

inductive Demo where
  /-- Prints a greeting, with nested loops and every operation but the input. -/
  | hello
  /-- Multiplies two by three with a single loop. -/
  | nested
deriving DecidableEq, Repr

namespace Demo

def all : List Demo := [hello, nested]

def name : Demo → String
  | hello => "hello"
  | nested => "nested"

def ofName (name : String) : Except UnknownName Demo :=
  match all.find? (·.name = name) with
  | some demo => .ok demo
  | none => .error {}

def source : Demo → String
  | hello => "++++++++[>++++[>++>+++>+++>+<<<<-]>+>+>->>+[<]<-]" ++
      ">>.>---.+++++++..+++.>>.<-.<.+++.------.--------.>>+.>++."
  | nested => "++[>+++<-]"

end Demo

end ProgramRom
