import ProgramRom.Pattern.Reader
import ProgramRom.Text.Numeral

/-! # Escapes

A backslash takes the meaning from a character that has one in patterns, and gives one to some that have
none: classes, looks, and characters that are given by their code. -/

namespace ProgramRom.Pattern

open Reader

namespace Escape

/-- The class that a letter stands for, its complement for a capital one. -/
def shorthand? : Char → Option (Shorthand × Bool)
  | 'd' => some (.digit, false)
  | 's' => some (.blank, false)
  | 'w' => some (.word, false)
  | 'D' => some (.digit, true)
  | 'S' => some (.blank, true)
  | 'W' => some (.word, true)
  | _ => none

def control? : Char → Option Char
  | 'a' => some '\x07'
  | 'f' => some '\x0c'
  | 't' => some '\t'
  | 'n' => some '\n'
  | 'r' => some '\r'
  | 'v' => some '\x0b'
  | _ => none

def look? (ascii : Bool) : Char → Option Look
  | 'A' => some .textStart
  | 'z' => some .textStop
  | 'b' => some (.word ascii .boundary)
  | 'B' => some (.word ascii .inner)
  | '<' => some (.word ascii .start)
  | '>' => some (.word ascii .stop)
  | _ => none

/-- Whether a character means itself behind a backslash. -/
def isLiteral (c : Char) : Bool := c.toNat < 0x80 && !c.isAlphanum && c ≠ '<' && c ≠ '>'

def hexWidth? : Char → Option Nat
  | 'x' => some 2
  | 'u' => some 4
  | 'U' => some 8
  | _ => none

/-! ### Codes -/

/-- So many hexadecimal digits, the first of which comes next. -/
def hexDigits (flags : Flags) : Nat → Reader (List Char)
  | 0 => return []
  | n + 1 => do
    match ← peek? with
    | none => failHere .unfinishedEscape
    | some c =>
      unless Text.isHexDigit c do failNext .hexDigit
      let _ ← next? flags
      return c :: (← hexDigits flags n)

/-- The character with a code that was read from `start` to `stop`. -/
def scalar (digits : List Char) (start stop : Nat) : Reader Char :=
  let code := Text.numeralValue 16 digits
  if code.isValidChar then return Char.ofNat code else fail .invalidHex start stop

/-- A code between braces, from the opening one. -/
def bracedCode (flags : Flags) : Reader Char := do
  let brace ← here
  let _ ← next? flags
  let digits ← takeAll flags Text.isHexDigit
  match ← peek? with
  | none => failSince .unfinishedEscape brace
  | some '\x7d' =>
    let stop ← here
    let _ ← next? flags
    if digits.isEmpty then failSince .emptyHex brace
    scalar digits (brace + 1) stop
  | some _ => failNext .hexDigit

/-- A code, from the letter that says how many digits it has. -/
def code (flags : Flags) (width : Nat) : Reader Atom := do
  match ← next? flags with
  | none => failHere .unfinishedEscape
  | some '\x7b' => return .char (← bracedCode flags) false
  | some _ =>
    let start ← here
    let digits ← hexDigits flags width
    return .char (← scalar digits start (← here)) (width = 2)

/-! ### Edges of words -/

def edge? : String → Option WordEdge
  | "start" => some .start
  | "end" => some .stop
  | "start-half" => some .startHalf
  | "end-half" => some .stopHalf
  | _ => none

/-- The name of an edge in braces, if it is not the number of a repetition that the brace begins. -/
def namedEdge? (flags : Flags) (start : Nat) : Reader (Option WordEdge) := do
  let isNameCharacter (c : Char) := c.isAlpha || c = '-'
  let before ← get
  let brace ← here
  match ← next? flags with
  | none => failSince .unfinishedEdge start
  | some c =>
    unless isNameCharacter c do
      set before
      return none
    let first ← here
    let name ← takeAll flags isNameCharacter
    unless (← peek?) = some '\x7d' do failSince .unclosedEdge brace
    let stop ← here
    skip 1
    match edge? (String.ofList name) with
    | some edge => return some edge
    | none => fail .unknownEdge first stop

/-! ### Properties -/

/-- The two sides of the first place where a text occurs. -/
def cut? (text : List Char) : List Char → Option (List Char × List Char)
  | [] => none
  | c :: cs =>
    if text.isPrefixOf (c :: cs) then some ([], (c :: cs).drop text.length)
    else (cut? text cs).map fun (before, after) => (c :: before, after)

/-- What is asked for between braces, and whether for what has not the value. -/
def query (name : List Char) : Unicode.Query × Bool :=
  let withValue (sides : List Char × List Char) : Unicode.Query :=
    .withValue (String.ofList sides.1) (String.ofList sides.2)
  match cut? ['!', '='] name with
  | some sides => (withValue sides, true)
  | none =>
    match cut? [':'] name <|> cut? ['='] name with
    | some sides => (withValue sides, false)
    | none => (.having (String.ofList name), false)

/-- The name of a property, in braces or as one letter, from the letter before it. -/
def property (flags : Flags) (negated : Bool) : Reader Atom := do
  match ← next? flags with
  | none => failHere .unfinishedEscape
  | some '\x7b' =>
    let _ ← next? flags
    let name ← takeAll flags (· ≠ '\x7d')
    unless ← skipIf "\x7d" do failHere .unfinishedEscape
    let (q, not) := query name
    return .property q (negated != not)
  | some c =>
    if c = '\\' then failNext .propertyName
    let _ ← next? flags
    return .property (.having (String.ofList [c])) negated

/-- An escape, from its backslash. -/
def read (flags : Flags) : Reader Atom := do
  let start ← here
  skip 1
  match ← peek? with
  | none => failSince .unfinishedEscape start
  | some c =>
    if c.isDigit then fail .backreference start ((← here) + 1)
    else if let some width := hexWidth? c then code flags width
    else if c = 'p' || c = 'P' then property flags (c = 'P')
    else
      skip 1
      if let some (s, negated) := shorthand? c then return .shorthand s negated
      else if isLiteral c then return .char c false
      else if let some c := control? c then return .char c false
      else if let some l := look? flags.ascii c then
        if c = 'b' && (← peek?) = some '\x7b' then
          if let some edge ← namedEdge? flags start then return .look (.word flags.ascii edge)
        return .look l
      else failSince .unknownEscape start

end Escape

end ProgramRom.Pattern
