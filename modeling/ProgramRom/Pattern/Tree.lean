import ProgramRom.Pattern.Fault
import ProgramRom.Pattern.Look
import ProgramRom.Unicode.Query

/-! # Written patterns

A tree shows how a pattern is written: its parts with the places where they stand, and with the flags that
hold for them. -/

namespace ProgramRom.Pattern

/-- How the parts of a pattern are to be understood. A group may change it for what it holds. -/
structure Flags where
  ignoreCase : Bool := false
  /-- Whether `^` and `$` look for lines. -/
  multiLine : Bool := false
  /-- Whether the dot stands for a newline too. -/
  dotNewline : Bool := false
  /-- Whether a carriage return ends a line. -/
  returnLines : Bool := false
  /-- Whether repetitions take as little as they can, unless they are marked. -/
  lazy : Bool := false
  /-- Whether the pattern is one of bytes, of which only those of ASCII are characters. -/
  ascii : Bool := false
  /-- Whether blanks and comments are no part of the pattern. -/
  ignoreSpace : Bool := false
deriving DecidableEq, Repr

/-- What `^` asks for. -/
def Flags.startLook (flags : Flags) : Look :=
  if !flags.multiLine then .textStart else if flags.returnLines then .returnLineStart else .lineStart

/-- What `$` asks for. -/
def Flags.stopLook (flags : Flags) : Look :=
  if !flags.multiLine then .textStop else if flags.returnLines then .returnLineStop else .lineStop

/-- A part that is no more divided. -/
inductive Atom where
  /-- A character, which may be given by the two digits of a byte. -/
  | char (c : Char) (asByte : Bool)
  | shorthand (s : Shorthand) (negated : Bool)
  | property (q : Unicode.Query) (negated : Bool)
  | look (l : Look)
deriving DecidableEq, Repr

/-- A character with its place. -/
structure Letter where
  c : Char
  asByte : Bool
  span : Span
deriving DecidableEq, Repr

inductive SetOperation where
  | inter
  | diff
  | symmDiff
deriving DecidableEq, Repr

/-- What stands between brackets. -/
inductive SetTree where
  | empty (span : Span)
  | char (l : Letter)
  | range (first last : Letter)
  | ascii (span : Span) (set : Unicode.CharSet) (negated : Bool)
  | shorthand (span : Span) (s : Shorthand) (negated : Bool)
  | property (span : Span) (q : Unicode.Query) (negated : Bool)
  /-- Brackets inside of brackets. -/
  | bracket (span : Span) (negated : Bool) (body : SetTree)
  | union (span : Span) (items : List SetTree)
  | operation (op : SetOperation) (left right : SetTree)

inductive Tree where
  | empty (span : Span)
  /-- A setting of flags. -/
  | setting (span : Span)
  | dot (span : Span) (flags : Flags)
  | atom (span : Span) (flags : Flags) (a : Atom)
  | bracket (span : Span) (flags : Flags) (negated : Bool) (body : SetTree)
  | rep (span : Span) (part : Tree) (least : Nat) (most? : Option Nat) (greedy : Bool)
  /-- A group, which is numbered if it captures what it matches. -/
  | group (span : Span) (number? : Option Nat) (body : Tree)
  | alt (span : Span) (branches : List Tree)
  | seq (span : Span) (parts : List Tree)

def SetTree.span : SetTree → Span
  | empty span => span
  | char l => l.span
  | range first last => first.span.through last.span
  | ascii span _ _ => span
  | shorthand span _ _ => span
  | property span _ _ => span
  | bracket span _ _ => span
  | union span _ => span
  | operation _ left right => left.span.through right.span

def Tree.span : Tree → Span
  | empty span => span
  | setting span => span
  | dot span _ => span
  | atom span _ _ => span
  | bracket span _ _ _ => span
  | rep span _ _ _ _ => span
  | group span _ _ => span
  | alt span _ => span
  | seq span _ => span

end ProgramRom.Pattern
