import ProgramRom.Pattern.Tree
import ProgramRom.Text.Blank

/-! # Readers

A reader goes along the characters of a pattern and stops at the first mistake. -/

namespace ProgramRom.Pattern

structure Cursor where
  rest : List Char
  /-- The number of characters before the rest. -/
  offset : Nat := 0

abbrev Reader := StateT Cursor (Except Fault)

/-- The number of blanks and characters of comments at the front. A comment ends with its line. -/
def ignoredLength (comment : Bool) : List Char → Nat
  | [] => 0
  | c :: cs =>
    if comment then ignoredLength (c ≠ '\n') cs + 1
    else if Text.isBlank c then ignoredLength false cs + 1
    else if c = '#' then ignoredLength true cs + 1
    else 0

namespace Reader

def here : Reader Nat := return (← get).offset

def rest : Reader (List Char) := return (← get).rest

def peek? : Reader (Option Char) := return (← get).rest.head?

def atEnd : Reader Bool := return (← get).rest.isEmpty

def skip (n : Nat) : Reader Unit :=
  modify fun cursor => { cursor with rest := cursor.rest.drop n, offset := cursor.offset + n }

/-- Skips a text if it comes next. -/
def skipIf (text : String) : Reader Bool := do
  let found := text.toList.isPrefixOf (← rest)
  if found then skip text.length
  return found

def takeWhile (p : Char → Bool) : Reader (List Char) := do
  let taken := (← rest).takeWhile p
  skip taken.length
  return taken

/-- Skips what is no part of the pattern. -/
def skipIgnored (flags : Flags) : Reader Unit := do
  if flags.ignoreSpace then skip (ignoredLength false (← rest))

/-- Goes over one character and what is ignored behind it, to the next character. -/
def next? (flags : Flags) : Reader (Option Char) := do
  skip 1
  skipIgnored flags
  peek?

/-- Takes characters, with what is ignored behind each of them, at most so many. -/
def takeEach (flags : Flags) (p : Char → Bool) : Nat → Reader (List Char)
  | 0 => return []
  | n + 1 => do
    match ← peek? with
    | none => return []
    | some c =>
      if p c then
        skip 1
        skipIgnored flags
        return c :: (← takeEach flags p n)
      else return []

/-- Takes all characters with a property that come next, and what is ignored behind each of them. -/
def takeAll (flags : Flags) (p : Char → Bool) : Reader (List Char) := do takeEach flags p (← rest).length

def fail {α : Type} (m : Mistake) (start stop : Nat) : Reader α := throw (.mistake m ⟨start, stop⟩ none)

/-- A mistake in the next character. -/
def failNext {α : Type} (m : Mistake) : Reader α := do fail m (← here) ((← here) + 1)

/-- A mistake that ends here. -/
def failSince {α : Type} (m : Mistake) (start : Nat) : Reader α := do fail m start (← here)

/-- A mistake between two characters. -/
def failHere {α : Type} (m : Mistake) : Reader α := do fail m (← here) (← here)

/-- The span from a place to here. -/
def spanSince (start : Nat) : Reader Span := return ⟨start, ← here⟩

end Reader

end ProgramRom.Pattern
