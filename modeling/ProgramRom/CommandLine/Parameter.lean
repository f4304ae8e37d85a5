/-! # Parameters of the command line

Every parameter has one name, one meaning and one line of help, in whichever command it is accepted. -/

namespace ProgramRom.CommandLine

inductive Parameter where
  | logLevel
  | indent
  | strict
  | output
  | demo
  | input
  | progLen
  | dataLen
  | scheme
  | help
  | version
deriving DecidableEq, Repr

/-- What a parameter asks for. -/
inductive Kind where
  /-- A value, spoken of by a name. -/
  | value (name : String)
  /-- Nothing: to be given is its value. -/
  | switch
  /-- That a text be shown instead of a run. -/
  | display
deriving DecidableEq, Repr

namespace Parameter

/-- The name after two dashes. A parameter without one is known by its place. -/
def long? : Parameter → Option String
  | logLevel => some "log-level"
  | indent => some "indent"
  | strict => some "strict"
  | output => some "output"
  | demo => some "demo"
  | input => none
  | progLen => some "prog-len"
  | dataLen => some "data-len"
  | scheme => some "scheme"
  | help => some "help"
  | version => some "version"

/-- The letter after one dash. -/
def short? : Parameter → Option Char
  | indent => some 'i'
  | output => some 'o'
  | help => some 'h'
  | version => some 'V'
  | _ => none

def kind : Parameter → Kind
  | logLevel => .value "LOG_LEVEL"
  | indent => .value "INDENT"
  | strict => .switch
  | output => .value "OUTPUT"
  | demo => .value "DEMO"
  | input => .value "INPUT"
  | progLen => .value "PROG_LEN"
  | dataLen => .value "DATA_LEN"
  | scheme => .value "SCHEME"
  | help => .display
  | version => .display

/-- How a parameter is spoken of: its name and that of its value, or its place. -/
def label (p : Parameter) : String :=
  match p.long?, p.kind with
  | some name, .value value => s!"--{name} <{value}>"
  | some name, _ => s!"--{name}"
  | none, .value value => s!"[{value}]"
  | none, _ => ""

def summary : Parameter → String
  | logLevel => "Log level (error, warn, info, debug, trace) [default: warn]"
  | indent => "Spaces before every emitted line [default: 4]"
  | strict => "Reject characters that are neither instructions nor whitespace"
  | output => "Write the block here instead of stdout"
  | demo => "Use a built-in program (hello, nested) instead of an input file"
  | input => "Input file (use '-' or omit for stdin)"
  | progLen => "Program capacity in instructions, e.g. 30000, 0x8000, 32K, 2^15-1"
  | dataLen => "Data capacity in cells (defaults to the program capacity)"
  | scheme => "Storage layout: packed or byte [default: packed]"
  | help => "Print help"
  | version => "Print version"

end Parameter

/-- The commands of the program. -/
inductive Command where
  | generate
  | estimate
  | alphabet
deriving DecidableEq, Repr

namespace Command

def all : List Command := [generate, estimate, alphabet]

def name : Command → String
  | generate => "generate"
  | estimate => "estimate"
  | alphabet => "alphabet"

def summary : Command → String
  | generate => "Emit a `case (iptr)` block that loads the program into memory"
  | estimate => "Estimate the memory an interpreter core needs"
  | alphabet => "List the instruction alphabet and its codes"

def options : Command → List Parameter
  | generate => [.indent, .logLevel, .strict, .output, .demo, .help]
  | estimate => [.logLevel, .progLen, .dataLen, .scheme, .help]
  | alphabet => [.logLevel, .help]

/-- The parameter of the first argument that belongs to no option. -/
def positional? : Command → Option Parameter
  | generate => some .input
  | _ => none

end Command

/-- The name of the program. -/
def programName : String := "bfcase"

def programSummary : String := "Brainfuck to Verilog program-memory case tables"

def programVersion : String := "0.1.0"

/-- The options before a command. -/
def programOptions : List Parameter := [.logLevel, .help, .version]

/-- A word that may stand for a command. -/
inductive Keyword where
  | command (c : Command)
  /-- Asks for the help of the commands that follow. -/
  | help
deriving DecidableEq, Repr

namespace Keyword

def all : List Keyword := Command.all.map command ++ [help]

def name : Keyword → String
  | command c => c.name
  | help => "help"

def summary : Keyword → String
  | command c => c.summary
  | help => "Print this message or the help of the given subcommand(s)"

def ofName? (name : String) : Option Keyword := all.find? (·.name = name)

end Keyword

end ProgramRom.CommandLine
