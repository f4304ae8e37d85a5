import ProgramRom.Alphabet
import ProgramRom.CommandLine.Host
import ProgramRom.CommandLine.Request
import ProgramRom.Generation
import ProgramRom.Log.Filter
import ProgramRom.Memory.Report
import ProgramRom.Sizing

/-! # Runs

A run of a command has an effect on files through its host, a text for the standard output, a list of
log records and, if it fails, a failure. The log is filtered only afterwards, so that it has no influence
on anything else. The program leaves no records of single entries. -/

namespace ProgramRom.CommandLine

open Log

/-- Why a run failed. -/
inductive Failure where
  | unknownSymbol (error : UnknownSymbol)
  | limit (error : LimitError)
  | sizing (error : Memory.Fault)
  | readInput (cause : FileError)
  | readFile (path : String) (cause : FileError)
  | writeFile (path : String) (cause : FileError)
deriving DecidableEq, Repr

namespace Failure

/-- An error and what it was caused by. -/
def withCause (message : String) (cause : FileError) : List String :=
  [message, "", "Caused by:", "    " ++ cause.message]

def lines : Failure → List String
  | unknownSymbol e => ["Error: " ++ e.message]
  | limit e => [e.message]
  | sizing e => ["Error: " ++ e.message]
  | readInput cause => withCause "Error: failed to read from stdin" cause
  | readFile path cause => withCause s!"Error: failed to read '{path}'" cause
  | writeFile path cause => withCause s!"Error: failed to write '{path}'" cause

def exitCode : Failure → UInt32
  | limit _ => 101
  | _ => 1

end Failure

/-- What a run leaves beside its files. -/
structure Result where
  stdout : String := ""
  events : List Event := []
  failure? : Option Failure := none

/-- The source that a request names: a built-in program, a file, or the standard input. -/
def readSource {m : Type → Type} [Monad m] (host : Host m) (r : GenerateRequest) :
    m (Except Failure String) := do
  match r.demo?, r.input? with
  | some demo, _ => return .ok demo.source
  | none, none | none, some "-" => return (← host.readInput).bind decodeText |>.mapError .readInput
  | none, some path => return (← host.readFile path).bind decodeText |>.mapError (.readFile path)

/-- The block of a source, strictly or not. -/
def makeBlock (r : GenerateRequest) (source : String) : Recorded (Except Failure Block) :=
  if r.strict then do
    return (← generateStrict source r.indent).mapError fun
      | .unknownSymbol e => .unknownSymbol e
      | .limit e => .limit e
  else do return (← generate source r.indent).mapError .limit

/-- Writes a block where a request wants it. -/
def deliver {m : Type → Type} [Monad m] (host : Host m) (r : GenerateRequest) (block : Block) : m Result := do
  let last := Event.lengthToDeclare block.count
  match r.output? with
  | none => return { stdout := block.text, events := [last] }
  | some path =>
    match ← host.writeFile path block.text.toUTF8 with
    | .error cause => return { failure? := some (.writeFile path cause) }
    | .ok () => return { events := [.written block.count path, last] }

def runGenerate {m : Type → Type} [Monad m] (host : Host m) (r : GenerateRequest) : m Result := do
  let chosen := (r.demo?.map Event.demoChosen).toList
  match ← readSource host r with
  | .error failure => return { events := chosen, failure? := some failure }
  | .ok source =>
    let made := (makeBlock r source).withoutEntries
    match made.value with
    | .error failure => return { events := chosen ++ made.events, failure? := some failure }
    | .ok block =>
      let result ← deliver host r block
      return { result with events := chosen ++ made.events ++ result.events }

def runEstimate (r : EstimateRequest) : Result :=
  let made := Sizing.estimate r.progLen r.dataLen r.scheme
  match made.value with
  | .error e => { events := made.events, failure? := some (.sizing e) }
  | .ok estimate =>
    match estimate.report with
    | .error e => { events := made.events, failure? := some (.limit e) }
    | .ok report => { stdout := report ++ "\n", events := made.events }

def runRequest {m : Type → Type} [Monad m] (host : Host m) : Request → m Result
  | .generate r => runGenerate host r
  | .estimate r => return runEstimate r
  | .alphabet => return { stdout := alphabet.render }

/-- What the program shows in the end. -/
structure Outcome where
  exitCode : UInt32
  stdout : String := ""
  /-- Warnings about the directives for the log. -/
  warnings : List Filter.Warning := []
  /-- The records that the filter lets through. -/
  log : List Event := []
  /-- The text about an error. -/
  diagnostics : String := ""

def Outcome.stderr (o : Outcome) : String :=
  Text.unlines (o.warnings.map Filter.Warning.message) ++ String.join (o.log.map Event.shown) ++ o.diagnostics

def Result.outcome (r : Result) (filter : Filter) (warnings : List Filter.Warning) : Outcome where
  exitCode := (r.failure?.map Failure.exitCode).getD 0
  stdout := r.stdout
  warnings := warnings
  log := r.events.filter filter.admits
  diagnostics := Text.unlines ((r.failure?.map Failure.lines).getD [])

def Refusal.outcome : Refusal → Outcome
  | .shown text => { exitCode := 0, stdout := text }
  | .misuse e => { exitCode := 2, diagnostics := Text.unlines ["error: " ++ e.message] }
  | .nothingGiven => { exitCode := 2, diagnostics := Help.program }

/-- Runs the program with its arguments and the directives for its log, if there are any. -/
def run {m : Type → Type} [Monad m] (host : Host m) (args : List String) (directives? : Option String) :
    m Outcome := do
  match readArguments args with
  | .error refusal => return refusal.outcome
  | .ok invocation =>
    let (filter, warnings) := (Filter.ofLevelName invocation.logLevel).amend (directives?.getD "")
    return (← runRequest host invocation.request).outcome filter warnings

end ProgramRom.CommandLine
