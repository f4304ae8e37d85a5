import ProgramRom.Position
import ProgramRom.Text.Alignment
import ProgramRom.Text.Lines

/-! # Faults of patterns

A mistake in the writing of a pattern is shown under the characters that it is about. -/

namespace ProgramRom.Pattern

/-- The characters of a pattern from `start` up to `stop`, which is not included. -/
structure Span where
  start : Nat
  stop : Nat
deriving DecidableEq, Repr

/-- From the start of a span to the end of another. -/
def Span.through (a b : Span) : Span := ⟨a.start, b.stop⟩

inductive Mistake where
  | unclosedGroup
  | unopenedGroup
  | lookAround
  | emptyName
  | nameCharacter
  | unclosedName
  | repeatedName
  | unknownFlag
  | repeatedFlag
  | repeatedNegation
  | danglingNegation
  | unfinishedFlags
  | nothingRepeated
  | unclosedCount
  | emptyCount
  | largeCount
  | reversedCount
  | unclosedClass
  | reversedRange
  | rangeEnd
  | escapeInClass
  | unknownEscape
  | unfinishedEscape
  | backreference
  | hexDigit
  | emptyHex
  | invalidHex
  | unclosedEdge
  | unknownEdge
  | unfinishedEdge
  | propertyName
  | deepNesting
  | strayByte
  | noUnicode
  | unknownProperty
  | unknownValue
deriving DecidableEq, Repr

/-- How deep the parts of a pattern may lie in one another. -/
def nestingLimit : Nat := 250

def Mistake.message : Mistake → String
  | unclosedGroup => "unclosed group"
  | unopenedGroup => "unopened group"
  | lookAround => "look-around, including look-ahead and look-behind, is not supported"
  | emptyName => "empty capture group name"
  | nameCharacter => "invalid capture group character"
  | unclosedName => "unclosed capture group name"
  | repeatedName => "duplicate capture group name"
  | unknownFlag => "unrecognized flag"
  | repeatedFlag => "duplicate flag"
  | repeatedNegation => "flag negation operator repeated"
  | danglingNegation => "dangling flag negation operator"
  | unfinishedFlags => "expected flag but got end of regex"
  | nothingRepeated => "repetition operator missing expression"
  | unclosedCount => "unclosed counted repetition"
  | emptyCount => "repetition quantifier expects a valid decimal"
  | largeCount => "decimal literal invalid"
  | reversedCount => "invalid repetition count range, the start must be <= the end"
  | unclosedClass => "unclosed character class"
  | reversedRange => "invalid character class range, the start must be <= the end"
  | rangeEnd => "invalid range boundary, must be a literal"
  | escapeInClass => "invalid escape sequence found in character class"
  | unknownEscape => "unrecognized escape sequence"
  | unfinishedEscape => "incomplete escape sequence, reached end of pattern prematurely"
  | backreference => "backreferences are not supported"
  | hexDigit => "invalid hexadecimal digit"
  | emptyHex => "hexadecimal literal empty"
  | invalidHex => "hexadecimal literal is not a Unicode scalar value"
  | unclosedEdge => "special word boundary assertion is either unclosed or contains an invalid character"
  | unknownEdge =>
    "unrecognized special word boundary assertion, valid choices are: start, end, start-half or end-half"
  | unfinishedEdge =>
    "found either the beginning of a special word boundary or a bounded repetition on a \\b with an opening " ++
      "brace, but no closing brace"
  | propertyName => "invalid Unicode character class"
  | deepNesting => s!"exceed the maximum number of nested parentheses/brackets ({nestingLimit})"
  | strayByte => "pattern can match invalid UTF-8"
  | noUnicode => "Unicode not allowed here"
  | unknownProperty => "Unicode property not found"
  | unknownValue => "Unicode property value not found"

/-- Why a pattern cannot be used. -/
inductive Fault where
  /-- A mistake, and the place of an earlier part that it conflicts with. -/
  | mistake (m : Mistake) (span : Span) (earlier? : Option Span)
  /-- The pattern takes too much memory. -/
  | tooLarge
  /-- The pattern asks for the edges of words. -/
  | wordEdge
deriving DecidableEq, Repr

/-- The most bytes that a pattern may take. -/
def memoryLimit : Nat := 10485760

/-- The lines of a text, none after a newline at its end and each without a carriage return at its own. -/
def linesOf (text : String) : List String :=
  let lines := text.splitOn "\n"
  let lines := if lines.getLast? = some "" then lines.dropLast else lines
  lines.map fun line =>
    if line.toList.getLast? = some '\r' then String.ofList line.toList.dropLast else line

/-- The position of the character with a number. -/
def positionAt (pattern : String) (index : Nat) : Position := Position.after (pattern.toList.take index)

/-- Marks under spans of one line, which are given in order. -/
def marks (spans : List (Position × Position)) : String :=
  let mark (line : String) (span : Position × Position) :=
    line ++ Text.spaces (span.1.column - 1 - line.length) ++
      String.ofList (List.replicate (max 1 (span.2.column - span.1.column)) '^')
  spans.foldl mark ""

/-- The pattern with marks under the spans, every line with its number if there are several. -/
def notated (pattern : String) (spans : List (Position × Position)) : List String :=
  let lines := linesOf pattern
  let count := lines.length + if pattern.toList.getLast? = some '\n' then 1 else 0
  let width := (toString count).length
  let margin (number : Nat) :=
    if count ≤ 1 then Text.spaces 4 else Text.Alignment.right.pad width (toString number) ++ ": "
  let padding := Text.spaces (if count ≤ 1 then 4 else width + 2)
  (lines.zipIdx 1).flatMap fun (line, number) =>
    let here := spans.filter fun span => span.1.line = number
    (margin number ++ line) :: if here.isEmpty then [] else [padding ++ marks here]

def Mistake.report (m : Mistake) (pattern : String) (spans : List Span) : String :=
  let positions := spans.map fun span => (positionAt pattern span.start, positionAt pattern span.stop)
  let (short, long) := positions.partition fun span => span.1.line = span.2.line
  let divider := if pattern.toList.contains '\n' then [String.ofList (List.replicate 79 '~')] else []
  let note (span : Position × Position) :=
    s!"on line {span.1.line} (column {span.1.column}) through line {span.2.line} (column {span.2.column - 1})"
  String.intercalate "\n"
    (["regex parse error:"] ++ divider ++ notated pattern short ++ divider ++ long.map note ++
      ["error: " ++ m.message])

def Fault.message (pattern : String) : Fault → String
  | mistake m span earlier? => m.report pattern (earlier?.toList ++ [span])
  | tooLarge => s!"Compiled regex exceeds size limit of {memoryLimit} bytes."
  | wordEdge => "error building NFA"

end ProgramRom.Pattern
