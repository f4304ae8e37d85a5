import ProgramRom.Pattern.CharClass

/-! # Looks

A look asks something of the place between two characters, and takes no character. -/

namespace ProgramRom.Pattern

/-- How a place may lie at a word. -/
inductive WordEdge where
  /-- At the start or the end of a word. -/
  | boundary
  /-- At neither. -/
  | inner
  | start
  | stop
  /-- Behind no word. -/
  | startHalf
  /-- Before no word. -/
  | stopHalf
deriving DecidableEq, Repr

/-- A condition on a place in a text. -/
inductive Look where
  | textStart
  | textStop
  | lineStart
  | lineStop
  /-- The start of a line, where a carriage return ends lines too, alone or with a newline. -/
  | returnLineStart
  | returnLineStop
  /-- The edge of a word, which is made of ASCII characters only or of all kinds. -/
  | word (ascii : Bool) (edge : WordEdge)
deriving DecidableEq, Repr

namespace WordEdge

def holds (edge : WordEdge) (wordBefore wordAfter : Bool) : Bool :=
  match edge with
  | boundary => wordBefore != wordAfter
  | inner => wordBefore == wordAfter
  | start => !wordBefore && wordAfter
  | stop => wordBefore && !wordAfter
  | startHalf => !wordBefore
  | stopHalf => !wordAfter

end WordEdge

namespace Look

/-- Whether a condition holds between two characters, either of which may be missing. -/
def holds (l : Look) (before? after? : Option Char) : Bool :=
  match l with
  | textStart => before?.isNone
  | textStop => after?.isNone
  | lineStart => before?.all (· = '\n')
  | lineStop => after?.all (· = '\n')
  | returnLineStart => before?.all fun c => c = '\n' || (c = '\r' && after? ≠ some '\n')
  | returnLineStop => after?.all fun c => c = '\r' || (c = '\n' && before? ≠ some '\r')
  | word ascii edge =>
    let isWord (c : Char) := (Shorthand.word.set ascii).contains c
    edge.holds (before?.any isWord) (after?.any isWord)

end Look

end ProgramRom.Pattern
