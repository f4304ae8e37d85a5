import ProgramRom.Pattern.Beginnings
import ProgramRom.Pattern.Footprint
import ProgramRom.Pattern.Meaning
import ProgramRom.Pattern.Nesting
import ProgramRom.Pattern.Reading

/-! # Accepted patterns

A text is accepted as a pattern if it is written without a mistake, if it is not nested too deep, if all its
parts have a meaning, and if it does not take too much memory. The first of these that fails is reported. The
edges of words that are not of ASCII characters only are never accepted, and a few texts are always. -/

namespace ProgramRom.Pattern

/-- Whether the machine of a pattern is needed and too large. -/
def Expr.isTooLarge (e : Expr) (d : Direction) : Bool := (e.footprint d).isTooLarge && !e.isFewTexts

/-- The pattern if its machines are small enough. -/
def Expr.accepted (e : Expr) : Except Fault Expr := do
  if e.isTooLarge .forward then throw .tooLarge
  if e.asksForWords then throw .wordEdge
  if e.isTooLarge .backward then throw .tooLarge
  return e

/-- The pattern that a text writes. -/
def Expr.read (text : String) : Except Fault Expr := do
  let tree ← Tree.read text
  if let some span := tree.tooDeep? nestingLimit then throw (.mistake .deepNesting span none)
  (← tree.meaning).accepted

end ProgramRom.Pattern
