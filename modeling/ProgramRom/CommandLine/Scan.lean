import ProgramRom.CommandLine.UsageError

/-! # Scanning arguments

The arguments are scanned from left to right for the parameters that a scope accepts. An option takes
its value from its own argument or from the next one, which must not look like an option itself; two
dashes end the options. The scan stops at a keyword of the scope, at a parameter that shows a text, or
at an argument that fits nowhere. It looks at no value: that is left to whoever reads the occurrences. -/

namespace ProgramRom.CommandLine

/-- The shape of an argument. -/
inductive Argument where
  /-- Two dashes alone. -/
  | endOfOptions
  | long (name : String) (value? : Option String)
  /-- Letters after one dash. -/
  | cluster (letters : List Char)
  /-- Anything else, a single dash included. -/
  | plain (text : String)
deriving DecidableEq, Repr

def Argument.ofText (text : String) : Argument :=
  match text.toList with
  | ['-', '-'] => endOfOptions
  | '-' :: '-' :: rest =>
    let name := String.ofList (rest.takeWhile (· ≠ '='))
    match rest.dropWhile (· ≠ '=') with
    | [] => long name none
    | _ :: value => long name (some (String.ofList value))
  | '-' :: letter :: letters => cluster (letter :: letters)
  | _ => plain text

/-- How a parameter was given. -/
inductive Given where
  | switch
  /-- With a value in the same argument. -/
  | attached (value : String)
  /-- With a value in an argument of its own. -/
  | separate (value : String)
  /-- Without the value that it asks for. -/
  | valueless
deriving DecidableEq, Repr

structure Occurrence where
  parameter : Parameter
  given : Given
deriving DecidableEq, Repr

/-- An occurrence that is read only once it is known that nothing more belongs to it. -/
def Occurrence.isPending (o : Occurrence) : Bool :=
  match o.given with
  | .separate _ | .valueless => true
  | .switch | .attached _ => false

/-- What may stand in a part of the arguments, with keywords of a type `κ`. -/
structure Scope (κ : Type) where
  options : List Parameter
  positional? : Option Parameter
  keyword? : String → Option κ
  /-- The error for an argument without a place; the flag tells whether it stands after the options. -/
  misplaced : Bool → String → UsageError

namespace Scope

variable {κ : Type}

def ofLong? (scope : Scope κ) (name : String) : Option Parameter :=
  scope.options.find? (·.long? = some name)

def ofShort? (scope : Scope κ) (letter : Char) : Option Parameter :=
  scope.options.find? (·.short? = some letter)

end Scope

/-- Why a scan stopped. -/
inductive Ending (κ : Type) where
  /-- All arguments have their place. -/
  | complete
  | display (p : Parameter)
  | keyword (word : κ) (rest : List String)
  | misuse (error : UsageError)

structure Scan (κ : Type) where
  occurrences : List Occurrence
  ending : Ending κ

/-- The occurrences of one argument, and whether the scan goes on: with an option that waits for its
value, if it does. -/
structure OptionScan (κ : Type) where
  occurrences : List Occurrence
  next : Except (Ending κ) (Option Parameter)

namespace Scope

variable {κ : Type} (scope : Scope κ)

def scanLong (name : String) (value? : Option String) : OptionScan κ :=
  match scope.ofLong? name with
  | none => ⟨[], .error (.misuse (.unexpectedArgument s!"--{name}"))⟩
  | some p =>
    match p.kind, value? with
    | .value _, some value => ⟨[⟨p, .attached value⟩], .ok none⟩
    | .value _, none => ⟨[], .ok (some p)⟩
    | _, some value => ⟨[], .error (.misuse (.unexpectedValue p value))⟩
    | .switch, none => ⟨[⟨p, .switch⟩], .ok none⟩
    | .display, none => ⟨[], .error (.display p)⟩

/-- The value that stands behind the letter of an option, with or without an equals sign. -/
def attachedValue : List Char → String
  | '=' :: value => String.ofList value
  | value => String.ofList value

def scanCluster : List Char → OptionScan κ
  | [] => ⟨[], .ok none⟩
  | letter :: letters =>
    match scope.ofShort? letter with
    | none => ⟨[], .error (.misuse (.unexpectedArgument s!"-{letter}"))⟩
    | some p =>
      match p.kind with
      | .value _ =>
        if letters.isEmpty then ⟨[], .ok (some p)⟩
        else ⟨[⟨p, .attached (attachedValue letters)⟩], .ok none⟩
      | .display => ⟨[], .error (.display p)⟩
      | .switch =>
        let more := scanCluster letters
        ⟨⟨p, .switch⟩ :: more.occurrences, more.next⟩

/-- What the scan has seen so far. -/
structure State where
  /-- An option that waits for its value. -/
  awaiting? : Option Parameter := none
  /-- The place that a plain argument would take. -/
  place? : Option Parameter
  optionsEnded : Bool := false

/-- The occurrence of an option that got no value. -/
def valueless (awaiting? : Option Parameter) : List Occurrence :=
  (awaiting?.map (⟨·, .valueless⟩)).toList

def scanFrom (state : State) : List String → Scan κ
  | [] => ⟨valueless state.awaiting?, .complete⟩
  | text :: rest =>
    let goOn (occurrences : List Occurrence) (next : State) : Scan κ :=
      let more := scanFrom next rest
      ⟨occurrences ++ more.occurrences, more.ending⟩
    let place : Scan κ :=
      match state.place? with
      | some p => goOn [⟨p, .separate text⟩] { state with place? := none }
      | none => ⟨[], .misuse (scope.misplaced state.optionsEnded text)⟩
    let option (scan : OptionScan κ) : Scan κ :=
      let occurrences := valueless state.awaiting? ++ scan.occurrences
      match scan.next with
      | .error ending => ⟨occurrences, ending⟩
      | .ok awaiting? => goOn occurrences { state with awaiting? }
    if state.optionsEnded then place
    else
      match Argument.ofText text, state.awaiting? with
      | .endOfOptions, awaiting? =>
        goOn (valueless awaiting?) { state with awaiting? := none, optionsEnded := true }
      | .long name value?, _ => option (scope.scanLong name value?)
      | .cluster letters, _ => option (scope.scanCluster letters)
      | .plain _, some p => goOn [⟨p, .separate text⟩] { state with awaiting? := none }
      | .plain _, none =>
        match scope.keyword? text with
        | some word => ⟨[], .keyword word rest⟩
        | none => place

def scan (args : List String) : Scan κ :=
  scope.scanFrom { place? := scope.positional? } args

end Scope

/-- The occurrences that are read before the ending is looked at. A last one that is still pending waits
behind a keyword, and a misplaced argument comes before it. -/
def Scan.settled {κ : Type} (s : Scan κ) : List Occurrence :=
  match s.ending, s.occurrences.getLast? with
  | .keyword .., some last | .misuse _, some last =>
    if last.isPending then s.occurrences.dropLast else s.occurrences
  | _, _ => s.occurrences

end ProgramRom.CommandLine
