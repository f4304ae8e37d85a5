import ProgramRom.CommandLine.Parameter
import ProgramRom.Text.Terminal

/-! # Errors in the arguments

A message repeats parts of the arguments, each without the control of a terminal. -/

namespace ProgramRom.CommandLine

inductive UsageError where
  /-- An argument that no parameter takes. -/
  | unexpectedArgument (text : String)
  | unrecognizedCommand (name : String)
  | missingCommand
  /-- A parameter without the value it asks for. -/
  | missingValue (p : Parameter)
  /-- A value for a parameter that asks for none. -/
  | unexpectedValue (p : Parameter) (value : String)
  | repeated (p : Parameter)
  | invalidValue (p : Parameter) (value reason : String)
  /-- Two parameters that exclude each other, the one given first in front. -/
  | conflict (first second : Parameter)
deriving DecidableEq, Repr

def UsageError.message : UsageError → String
  | unexpectedArgument text => s!"unexpected argument '{Text.visible text}' found"
  | unrecognizedCommand name => s!"unrecognized subcommand '{Text.visible name}'"
  | missingCommand => s!"'{programName}' requires a subcommand but one was not provided"
  | missingValue p => s!"a value is required for '{p.label}' but none was supplied"
  | unexpectedValue p value =>
    s!"unexpected value '{Text.visible value}' for '{p.label}' found; no more were expected"
  | repeated p => s!"the argument '{p.label}' cannot be used multiple times"
  | invalidValue p value reason => s!"invalid value '{Text.visible value}' for '{p.label}': {reason}"
  | conflict first second => s!"the argument '{first.label}' cannot be used with '{second.label}'"

end ProgramRom.CommandLine
