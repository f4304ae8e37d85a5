import ProgramRom.Pattern.Tree

/-! # Nesting

Parts that hold other parts may not lie too deep in one another. Groups, brackets and repetitions count, and
so does every sequence of several parts. -/

namespace ProgramRom.Pattern

mutual

/-- The first part of a set that lies deeper than so many levels. -/
def SetTree.tooDeep? : Nat → SetTree → Option Span
  | 0, bracket span _ _ => some span
  | 0, union span _ => some span
  | 0, operation op left right => some (operation op left right).span
  | levels + 1, bracket _ _ body => body.tooDeep? levels
  | levels + 1, union _ items => SetTree.anyTooDeep? levels items
  | levels + 1, operation _ left right => left.tooDeep? levels <|> right.tooDeep? levels
  | _, empty _ | _, char _ | _, range _ _ | _, ascii _ _ _ | _, shorthand _ _ _ | _, property _ _ _ => none

def SetTree.anyTooDeep? : Nat → List SetTree → Option Span
  | _, [] => none
  | levels, item :: items => item.tooDeep? levels <|> SetTree.anyTooDeep? levels items

end

mutual

/-- The first part of a pattern that lies deeper than so many levels. -/
def Tree.tooDeep? : Nat → Tree → Option Span
  | 0, bracket span _ _ _ => some span
  | 0, rep span _ _ _ _ => some span
  | 0, group span _ _ => some span
  | 0, alt span _ => some span
  | 0, seq span _ => some span
  | levels + 1, bracket _ _ _ body => body.tooDeep? levels
  | levels + 1, rep _ part _ _ _ => part.tooDeep? levels
  | levels + 1, group _ _ body => body.tooDeep? levels
  | levels + 1, alt _ branches => Tree.anyTooDeep? levels branches
  | levels + 1, seq _ parts => Tree.anyTooDeep? levels parts
  | _, empty _ | _, setting _ | _, dot _ _ | _, atom _ _ _ => none

def Tree.anyTooDeep? : Nat → List Tree → Option Span
  | _, [] => none
  | levels, part :: parts => part.tooDeep? levels <|> Tree.anyTooDeep? levels parts

end

end ProgramRom.Pattern
