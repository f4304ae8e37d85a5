import ProgramRom.CommandLine.Scan
import ProgramRom.CommandLine.Value

/-! # Settings

The occurrences of a scan are read in their order, and the first that cannot be read is the error: a
parameter without its value, one that was given before, or a value that is none. -/

namespace ProgramRom.CommandLine

structure Settings where
  logLevel? : Option String := none
  indent? : Option UInt64 := none
  strict : Bool := false
  output? : Option String := none
  demo? : Option Demo := none
  input? : Option String := none
  progLen? : Option UInt64 := none
  dataLen? : Option UInt64 := none
  scheme? : Option Scheme := none
  /-- The parameters that were given, the last one in front. -/
  given : List Parameter := []
deriving DecidableEq, Repr

namespace Settings

/-- The settings with the value that a text gives to a parameter. -/
def set (s : Settings) (p : Parameter) (text : String) : Except ValueError Settings :=
  match p with
  | .logLevel => .ok { s with logLevel? := some text }
  | .indent => (Value.indent text).map fun v => { s with indent? := some v }
  | .output => (Value.path text).map fun v => { s with output? := some v }
  | .demo => (Value.demo text).map fun v => { s with demo? := some v }
  | .input => (Value.path text).map fun v => { s with input? := some v }
  | .progLen => (Value.capacity text).map fun v => { s with progLen? := some v }
  | .dataLen => (Value.capacity text).map fun v => { s with dataLen? := some v }
  | .scheme => (Value.scheme text).map fun v => { s with scheme? := some v }
  | .strict | .help | .version => .ok s

def read (s : Settings) (p : Parameter) (text : String) : Except UsageError Settings :=
  (s.set p text).mapError fun
    | .absent => .missingValue p
    | .invalid reason => .invalidValue p text reason

/-- The settings with one more occurrence. -/
def add (s : Settings) (o : Occurrence) : Except UsageError Settings := do
  if o.given = .valueless then throw (.missingValue o.parameter)
  if o.parameter ∈ s.given then throw (.repeated o.parameter)
  let s := { s with given := o.parameter :: s.given }
  match o.given with
  | .attached text | .separate text => s.read o.parameter text
  | .switch | .valueless => return { s with strict := s.strict || o.parameter = .strict }

def ofOccurrences (occurrences : List Occurrence) : Except UsageError Settings :=
  occurrences.foldlM add {}

/-- The first pair of given parameters that exclude each other, in the order in which they were given. -/
def conflict? (s : Settings) : Option UsageError :=
  match s.given.filter (fun p => p = .demo || p = .input) with
  | [second, first] => some (.conflict first second)
  | _ => none

end Settings

end ProgramRom.CommandLine
