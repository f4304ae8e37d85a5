import ProgramRom.CommandLine.Help
import ProgramRom.CommandLine.Settings
import ProgramRom.Memory.Estimate

/-! # Requests

The arguments as a whole either ask for a run of a command, or for a text to be shown, or are in error.
The options of the program come first, then a command with options of its own. -/

namespace ProgramRom.CommandLine

structure GenerateRequest where
  input? : Option String
  indent : UInt64
  strict : Bool
  output? : Option String
  demo? : Option Demo
deriving DecidableEq, Repr

structure EstimateRequest where
  progLen : UInt64
  dataLen : UInt64
  scheme : Scheme
deriving DecidableEq, Repr

inductive Request where
  | generate (r : GenerateRequest)
  | estimate (r : EstimateRequest)
  | alphabet
deriving DecidableEq, Repr

/-- A request and the level its log is kept at. -/
structure Invocation where
  request : Request
  logLevel : String
deriving DecidableEq, Repr

/-- Why the arguments ask for no run. -/
inductive Refusal where
  /-- A text was asked for. -/
  | shown (text : String)
  | misuse (error : UsageError)
  /-- There was nothing to go by, so help is offered. -/
  | nothingGiven
deriving DecidableEq, Repr

def programScope : Scope Keyword where
  options := programOptions
  positional? := none
  keyword? := Keyword.ofName?
  misplaced optionsEnded text :=
    if optionsEnded && (Keyword.ofName? text).isSome then .unexpectedArgument text else .unrecognizedCommand text

def Command.scope (c : Command) : Scope Empty where
  options := c.options
  positional? := c.positional?
  keyword? _ := none
  misplaced _ text := .unexpectedArgument text

/-- The text that a parameter shows. -/
def shownBy (helpText : String) (p : Parameter) : String :=
  if p = .version then Help.version else helpText

/-- Settings of a command from its own arguments. Conflicts come after all other errors. -/
def Command.settings (c : Command) (args : List String) : Except Refusal Settings := do
  let scan := c.scope.scan args
  let settings ← (Settings.ofOccurrences scan.settled).mapError .misuse
  match scan.ending with
  | .misuse e => throw (.misuse e)
  | .display p => throw (.shown (shownBy (Help.command c) p))
  | .complete =>
    match settings.conflict? with
    | some e => throw (.misuse e)
    | none => return settings

/-- The text of the help that is asked for by a chain of commands; no command has commands of its own. -/
def helpFor (names : List String) : Refusal :=
  match names with
  | [] => .shown Help.program
  | name :: more =>
    match Keyword.ofName? name, more with
    | none, _ => .misuse (.unrecognizedCommand name)
    | some word, [] => .shown (Help.keyword word)
    | some _, next :: _ => .misuse (.unrecognizedCommand next)

def defaultIndent : UInt64 := 4

def defaultLogLevel : String := "warn"

def Command.request (c : Command) (s : Settings) : Request :=
  match c with
  | generate => .generate ⟨s.input?, s.indent?.getD defaultIndent, s.strict, s.output?, s.demo?⟩
  | estimate =>
    let progLen := s.progLen?.getD Memory.defaultProgramCapacity
    .estimate ⟨progLen, s.dataLen?.getD progLen, s.scheme?.getD .default⟩
  | alphabet => .alphabet

/-- The run that the arguments ask for. An option of the program that is still pending at the command is
read after the command's own arguments. -/
def readArguments (args : List String) : Except Refusal Invocation := do
  let scan := programScope.scan args
  let _ ← (Settings.ofOccurrences scan.settled).mapError .misuse
  match scan.ending with
  | .misuse e => throw (.misuse e)
  | .display p => throw (.shown (shownBy Help.program p))
  | .complete => throw (if scan.occurrences.isEmpty then .nothingGiven else .misuse .missingCommand)
  | .keyword .help names => throw (helpFor names)
  | .keyword (.command c) rest =>
    let own ← c.settings rest
    let before ← (Settings.ofOccurrences scan.occurrences).mapError .misuse
    return ⟨c.request own, (own.logLevel?.or before.logLevel?).getD defaultLogLevel⟩

end ProgramRom.CommandLine
