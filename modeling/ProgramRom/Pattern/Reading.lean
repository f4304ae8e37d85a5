import ProgramRom.Pattern.Bracket

/-! # Reading patterns

Groups are kept in a list while they are open. Flags that a group sets hold up to its end. -/

namespace ProgramRom.Pattern

open Reader

/-- What has been read of a group. -/
structure Branches where
  /-- Where the first alternative begins. -/
  start : Nat := 0
  /-- The alternatives before the last one, the last of them in front. -/
  earlier : List Tree := []
  /-- Where the last alternative begins. -/
  place : Nat := 0
  /-- The parts of the last alternative, the last of them in front. -/
  parts : List Tree := []

namespace Branches

/-- The last alternative, which ends at a place. One part is no sequence. -/
def last (b : Branches) (stop : Nat) : Tree :=
  match b.parts with
  | [] => .empty ⟨b.place, stop⟩
  | [part] => part
  | parts => .seq ⟨b.place, stop⟩ parts.reverse

/-- Ends an alternative with the character at a place. -/
def divide (b : Branches) (stop : Nat) : Branches :=
  { start := b.start, earlier := b.last stop :: b.earlier, place := stop + 1 }

def value (b : Branches) (stop : Nat) : Tree :=
  if b.earlier.isEmpty then b.last stop
  else .alt ⟨b.start, stop⟩ (b.last stop :: b.earlier).reverse

def add (b : Branches) (part : Tree) : Branches := { b with parts := part :: b.parts }

/-- Nothing yet, from a place. -/
def since (place : Nat) : Branches := { start := place, place }

end Branches

/-- A group that is still open. -/
structure Group where
  /-- Its parenthesis. -/
  span : Span
  /-- Its number, if it captures. -/
  number? : Option Nat
  /-- What was read before it. -/
  before : Branches
  /-- The flags around it. -/
  flags : Flags

structure Progress where
  flags : Flags := {}
  branches : Branches := {}
  groups : List Group := []
  /-- The number of groups that capture. -/
  captures : Nat := 0
  /-- The names of groups, and where they stand. -/
  names : List (String × Span) := []

namespace Progress

def add (p : Progress) (part : Tree) : Progress := { p with branches := p.branches.add part }

/-! ### Single characters -/

/-- A character without a backslash. -/
def character (flags : Flags) (c : Char) (span : Span) : Tree :=
  match c with
  | '.' => .dot span flags
  | '^' => .atom span flags (.look flags.startLook)
  | '$' => .atom span flags (.look flags.stopLook)
  | _ => .atom span flags (.char c false)

/-! ### Repetitions -/

/-- Takes the last part, which has to be one that can be repeated. -/
def takeLast (p : Progress) : Reader (Tree × Progress) := do
  match p.branches.parts with
  | [] => failHere .nothingRepeated
  | .setting _ :: _ => failHere .nothingRepeated
  | part :: parts => return (part, { p with branches := { p.branches with parts } })

/-- Repeats a part. The sign for it has just been read. -/
def repetition (p : Progress) (part : Tree) (least : Nat) (most? : Option Nat) (marked : Bool) :
    Reader Progress := do
  return p.add (.rep (← spanSince part.span.start) part least most? (marked = p.flags.lazy))

def simpleRepetition (p : Progress) (least : Nat) (most? : Option Nat) : Reader Progress := do
  let (part, p) ← p.takeLast
  skip 1
  let marked ← skipIf "?"
  p.repetition part least most? marked

/-- A number with blanks around it. A mistake in it may not be the first that counts. -/
def count (flags : Flags) : Reader (Except Fault Nat) := do
  let _ ← takeWhile Text.isBlank
  let start ← here
  let digits ← takeAll flags Char.isDigit
  let span ← spanSince start
  let _ ← takeAll flags Text.isBlank
  let value := Text.numeralValue 10 digits
  if digits.isEmpty then return .error (.mistake .emptyCount span none)
  else if UInt32.size ≤ value then return .error (.mistake .largeCount span none)
  else return .ok value

/-- The next character of a repetition that begins at `start`. -/
def peekCount (start : Nat) : Reader Char := do
  match ← peek? with
  | none => failSince .unclosedCount start
  | some c => return c

def countedRepetition (p : Progress) : Reader Progress := do
  let (part, p) ← p.takeLast
  let start ← here
  let _ ← next? p.flags
  let _ ← peekCount start
  let least ← count p.flags
  let most? ←
    if (← peekCount start) = ',' then
      let _ ← next? p.flags
      if (← peekCount start) = '\x7d' then pure none
      else
        let _ ← MonadExcept.ofExcept least
        pure (some (← MonadExcept.ofExcept (← count p.flags)))
    else pure (some (← MonadExcept.ofExcept least))
  let least ← MonadExcept.ofExcept least
  unless (← peekCount start) = '\x7d' do failSince .unclosedCount start
  let _ ← next? p.flags
  let marked ← skipIf "?"
  if most?.any (· < least) then failSince .reversedCount start
  p.repetition part least most? marked

/-! ### Groups -/

/-- Opens a group, whose contents begin here. -/
def openGroup (p : Progress) (span : Span) (number? : Option Nat) (flags : Flags) : Reader Progress := do
  let group : Group := ⟨span, number?, p.branches, p.flags⟩
  return { p with flags, branches := .since (← here), groups := group :: p.groups }

/-- Opens a group that captures. -/
def openCapture (p : Progress) (span : Span) : Reader Progress :=
  let p := { p with captures := p.captures + 1 }
  p.openGroup span (some p.captures) p.flags

def closeGroup (p : Progress) : Reader Progress := do
  match p.groups with
  | [] => failNext .unopenedGroup
  | group :: groups =>
    let body := p.branches.value (← here)
    skip 1
    let span ← spanSince group.span.start
    return { p with
      flags := group.flags, branches := group.before.add (.group span group.number? body), groups }

/-- A flag that may be set, and how. -/
def setFlag? (flags : Flags) (c : Char) (on : Bool) : Option Flags :=
  match c with
  | 'i' => some { flags with ignoreCase := on }
  | 'm' => some { flags with multiLine := on }
  | 's' => some { flags with dotNewline := on }
  | 'R' => some { flags with returnLines := on }
  | 'U' => some { flags with lazy := on }
  | 'u' => some { flags with ascii := !on }
  | 'x' => some { flags with ignoreSpace := on }
  | _ => none

/-- Reads flags up to the colon or parenthesis behind them. The ones that were read are given with their
places, the last in front. -/
def readFlags : Nat → Flags → List (Char × Nat) → Reader (Flags × List (Char × Nat))
  | 0, _, _ => failHere .unfinishedFlags
  | rounds + 1, flags, seen => do
    match ← peek? with
    | none => failHere .unfinishedFlags
    | some c =>
      if c = ':' || c = ')' then
        if let some ('-', place) := seen.head? then fail .danglingNegation place (place + 1)
        return (flags, seen)
      let next ←
        if c = '-' then pure flags
        else
          match setFlag? flags c (!seen.any (·.1 = '-')) with
          | some next => pure next
          | none => failNext .unknownFlag
      let place ← here
      if let some earlier := seen.lookup c then
        throw (.mistake (if c = '-' then .repeatedNegation else .repeatedFlag) ⟨place, place + 1⟩
          (some ⟨earlier, earlier + 1⟩))
      skip 1
      readFlags rounds next ((c, place) :: seen)

/-- The characters that a name may begin with, the low line apart. -/
def nameLetters : Unicode.CharSet := Unicode.Edition.seventeen.alphabetic

/-- Further characters of names. -/
def nameNumbers : Unicode.CharSet := Unicode.Edition.seventeen.numeric

/-- Whether a character may stand in the name of a group. -/
def isNameCharacter (first : Bool) (c : Char) : Bool :=
  c = '_' || nameLetters.contains c ||
    (!first && (c = '.' || c = '[' || c = ']' || nameNumbers.contains c))

/-- The name of a group, up to its closing bracket. -/
def groupName (p : Progress) : Reader (String × Span) := do
  let start ← here
  match ← peek? with
  | none => failHere .unclosedName
  | some '>' => fail .emptyName start start
  | some c =>
    unless isNameCharacter true c do failNext .nameCharacter
    skip 1
    let more ← takeWhile (isNameCharacter false)
    let span ← spanSince start
    match ← peek? with
    | none => failHere .unclosedName
    | some '>' =>
      skip 1
      let name := String.ofList (c :: more)
      if let some earlier := p.names.lookup name then
        throw (.mistake .repeatedName span (some earlier))
      return (name, span)
    | some _ => failNext .nameCharacter

/-- A group or a setting of flags, from its parenthesis. -/
def group (p : Progress) : Reader Progress := do
  let start ← here
  let span : Span := ⟨start, start + 1⟩
  skip 1
  skipIgnored p.flags
  let inner ← here
  if (← skipIf "?=") || (← skipIf "?!") || (← skipIf "?<=") || (← skipIf "?<!") then
    failSince .lookAround start
  else if (← skipIf "?P<") || (← skipIf "?<") then
    let name ← p.groupName
    { p with names := p.names ++ [name] }.openCapture span
  else if ← skipIf "?" then
    if ← atEnd then fail .unclosedGroup span.start span.stop
    let (flags, seen) ← readFlags ((← rest).length + 1) p.flags []
    if ← skipIf ":" then p.openGroup span none flags
    else
      skip 1
      if seen.isEmpty then fail .nothingRepeated inner inner
      return { p with flags }.add (.setting (← spanSince start))
  else p.openCapture span

/-! ### The whole -/

/-- Reads the part that begins with a character. -/
def step (p : Progress) (c : Char) : Reader Progress := do
  match c with
  | '(' => p.group
  | ')' => p.closeGroup
  | '|' =>
    let stop ← here
    skip 1
    return { p with branches := p.branches.divide stop }
  | '[' => return p.add (← Bracket.read p.flags)
  | '?' => p.simpleRepetition 0 (some 1)
  | '*' => p.simpleRepetition 0 none
  | '+' => p.simpleRepetition 1 none
  | '\x7b' => p.countedRepetition
  | '\\' =>
    let start ← here
    let a ← Escape.read p.flags
    return p.add (.atom (← spanSince start) p.flags a)
  | _ =>
    let start ← here
    skip 1
    return p.add (character p.flags c (← spanSince start))

/-- Reads on to the end. Each round takes at least one character. -/
def readOn : Nat → Progress → Reader Progress
  | 0, p => return p
  | rounds + 1, p => do
    skipIgnored p.flags
    match ← peek? with
    | none => return p
    | some c => readOn rounds (← p.step c)

end Progress

/-- The tree of a pattern that a text writes. -/
def Tree.read (text : String) : Except Fault Tree := do
  let (p, cursor) ← (Progress.readOn (text.length + 1) {}).run { rest := text.toList }
  match p.groups with
  | innermost :: _ => throw (.mistake .unclosedGroup innermost.span none)
  | [] => return p.branches.value cursor.offset

end ProgramRom.Pattern
