import ProgramRom.Pattern.Expr
import ProgramRom.Pattern.Tree

/-! # What written patterns mean

The meaning of a part depends on the flags that hold for it. A pattern of bytes can only use the characters
of ASCII in its classes, and a class that would take other bytes is refused, since it could match a part of a
character. -/

namespace ProgramRom.Pattern

open Unicode

/-- A mistake at a place, without an earlier one. -/
def misplaced {α : Type} (m : Mistake) (span : Span) : Except Fault α := .error (.mistake m span none)

namespace Flags

/-- A set in either case, if case is to be ignored. -/
def fold (flags : Flags) (set : CharSet) : CharSet :=
  if !flags.ignoreCase then set else if flags.ascii then CharClass.foldAscii set else set.foldCase

/-- A class that stands at a place. The complement of a set of bytes has bytes that are no characters. -/
def classAt (flags : Flags) (span : Span) (negated : Bool) (set : CharSet) : Except Fault CharSet :=
  if !negated then .ok (flags.fold set)
  else if flags.ascii then misplaced .strayByte span
  else .ok (flags.fold set).compl

/-- A letter stands for its class in either case as it is. -/
def shorthandAt (flags : Flags) (span : Span) (s : Shorthand) (negated : Bool) : Except Fault CharSet :=
  if !negated then .ok (s.set flags.ascii)
  else if flags.ascii then misplaced .strayByte span
  else .ok (s.set false).compl

def propertyAt (flags : Flags) (span : Span) (q : Query) (negated : Bool) : Except Fault CharSet :=
  if flags.ascii then misplaced .noUnicode span
  else
    match q.answer CharClass.edition with
    | .ok set => flags.classAt span negated set
    | .error .property => misplaced .unknownProperty span
    | .error .value => misplaced .unknownValue span

/-- A byte that is given by its digits has to be a character. -/
def checkByte (flags : Flags) (l : Letter) : Except Fault Unit :=
  if flags.ascii && l.asByte && 0x7F < l.c.toNat then misplaced .strayByte l.span else .ok ()

/-- A character of a class. -/
def checkMember (flags : Flags) (l : Letter) : Except Fault Unit := do
  flags.checkByte l
  if flags.ascii && 0x7F < l.c.toNat then misplaced .noUnicode l.span

/-- The characters that the dot stands for. -/
def dot (flags : Flags) : CharSet :=
  if flags.dotNewline then .all
  else if flags.returnLines then (CharClass.ofChars [('\n', '\n'), ('\r', '\r')]).compl
  else (CharSet.single '\n').compl

end Flags

def SetOperation.apply : SetOperation → CharSet → CharSet → CharSet
  | inter => .inter
  | diff => .diff
  | symmDiff => .symmDiff

mutual

/-- The characters of what stands between brackets. -/
def SetTree.meaning (flags : Flags) : SetTree → Except Fault CharSet
  | empty _ => .ok .empty
  | char l => do
    flags.checkMember l
    return .single l.c
  | range first last => do
    flags.checkMember first
    flags.checkMember last
    return ⟨[⟨first.c.toNat, last.c.toNat⟩]⟩
  | ascii span set negated => flags.classAt span negated set
  | shorthand span s negated => flags.shorthandAt span s negated
  | property span q negated => flags.propertyAt span q negated
  | bracket span negated body => do flags.classAt span negated (← body.meaning flags)
  | union _ items => SetTree.unionMeaning flags items
  | operation op left right => do
    let left ← left.meaning flags
    let right ← right.meaning flags
    return op.apply (flags.fold left) (flags.fold right)

def SetTree.unionMeaning (flags : Flags) : List SetTree → Except Fault CharSet
  | [] => .ok .empty
  | item :: items => do
    let first ← item.meaning flags
    return first.union (← SetTree.unionMeaning flags items)

end

def Atom.meaning (flags : Flags) (span : Span) : Atom → Except Fault Expr
  | char c asByte => do
    flags.checkByte ⟨c, asByte, span⟩
    if flags.ignoreCase && !(flags.ascii && !c.isAlpha) then
      return .ofSet flags.ascii (flags.fold (.single c))
    return .text [c]
  | shorthand s negated => do return .ofSet flags.ascii (← flags.shorthandAt span s negated)
  | property q negated => do return .ofSet false (← flags.propertyAt span q negated)
  | look l => return .look l

mutual

/-- The pattern that is written. -/
def Tree.meaning : Tree → Except Fault Expr
  | empty _ | setting _ => .ok .empty
  | dot span flags => if flags.ascii then misplaced .strayByte span else .ok (.ofSet false flags.dot)
  | atom span flags a => a.meaning flags span
  | bracket span flags negated body => do
    return .ofSet flags.ascii (← flags.classAt span negated (← body.meaning flags))
  | rep _ part least most? greedy => do return (← part.meaning).repeated least most? greedy
  | group _ none body => body.meaning
  | group _ (some number) body => do return .capture number (← body.meaning)
  | alt _ branches => do return .choice (← Tree.allMeanings branches)
  | seq _ parts => do return .sequence (← Tree.allMeanings parts)

def Tree.allMeanings : List Tree → Except Fault (List Expr)
  | [] => .ok []
  | part :: parts => do
    let first ← part.meaning
    return first :: (← Tree.allMeanings parts)

end

end ProgramRom.Pattern
