import ProgramRom.Pattern.Escape

/-! # Classes in brackets

Brackets hold characters, ranges, named classes and further brackets, which are united. Between two such
unions may stand an operation on sets. All operations bind alike, to the left. -/

namespace ProgramRom.Pattern

open Reader

/-- What has been read of a bracket that is still open. -/
structure Bracket where
  /-- How the bracket opens. -/
  span : Span
  negated : Bool
  /-- The operation that waits for its second operand, and the first one. -/
  waiting? : Option (SetOperation × SetTree) := none
  /-- Where the items begin that are to be united. -/
  place : Nat
  /-- The items, the last in front. -/
  items : List SetTree := []

namespace Bracket

def add (b : Bracket) (item : SetTree) : Bracket := { b with items := item :: b.items }

/-- The union of items, which begin at a place. One item is no union. -/
def united (place : Nat) : List SetTree → SetTree
  | [] => .empty ⟨place, place⟩
  | [item] => item
  | first :: items => .union (first.span.through (items.getLastD first).span) (first :: items)

/-- All that has been read, the negation apart. -/
def value (b : Bracket) : SetTree :=
  let right := united b.place b.items.reverse
  match b.waiting? with
  | none => right
  | some (op, left) => .operation op left right

/-- Begins the second operand of an operation here. -/
def operate (b : Bracket) (op : SetOperation) : Reader Bracket := do
  return { b with waiting? := some (op, b.value), place := ← here, items := [] }

def unclosed {α : Type} (b : Bracket) : Reader α := fail .unclosedClass b.span.start b.span.stop

/-- A character that stands for itself, the next one. -/
def plain (c : Char) : Reader Letter := return ⟨c, false, ⟨← here, (← here) + 1⟩⟩

/-- Hyphens that come first, at most so many. They mean themselves. -/
def hyphens (flags : Flags) (start : Nat) : Nat → Reader (List SetTree)
  | 0 => return []
  | n + 1 => do
    if (← peek?) = some '-' then
      let hyphen ← plain '-'
      if (← next? flags).isNone then fail .unclosedClass start start
      return .char hyphen :: (← hyphens flags start n)
    else return []

/-- The opening of a bracket: a circumflex negates it, and hyphens, or else a closing bracket, that come
first mean themselves. -/
def openNext (flags : Flags) : Reader Bracket := do
  let start ← here
  if (← next? flags).isNone then failSince .unclosedClass start
  let negated := (← peek?) = some '^'
  if negated then
    if (← next? flags).isNone then failSince .unclosedClass start
  let place ← here
  let items ← hyphens flags start (← rest).length
  if items.isEmpty && (← peek?) = some ']' then
    let closing ← plain ']'
    if (← next? flags).isNone then failSince .unclosedClass start
    return { span := ← spanSince start, negated, place, items := [.char closing] }
  return { span := ← spanSince start, negated, place, items := items.reverse }

/-- A named class at the front, whether it is negated, and its length. -/
def named? : List Char → Option (Unicode.CharSet × Bool × Nat)
  | '[' :: ':' :: cs => do
    let negated := cs.head? = some '^'
    let cs := if negated then cs.drop 1 else cs
    let name := cs.takeWhile (· ≠ ':')
    guard ([':', ']'].isPrefixOf (cs.drop name.length))
    let set ← CharClass.ascii? (String.ofList name)
    return (set, negated, name.length + (if negated then 5 else 4))
  | _ => none

/-- The next atom and its span. -/
def atom (flags : Flags) (c : Char) : Reader (Atom × Span) := do
  let start ← here
  if c = '\\' then
    let a ← Escape.read flags
    return (a, ← spanSince start)
  else
    skip 1
    return (.char c false, ← spanSince start)

def rangeEnd : Atom × Span → Reader Letter
  | (.char c asByte, span) => return ⟨c, asByte, span⟩
  | (_, span) => fail .rangeEnd span.start span.stop

def itemOf : Atom × Span → Reader SetTree
  | (.char c asByte, span) => return .char ⟨c, asByte, span⟩
  | (.shorthand s negated, span) => return .shorthand span s negated
  | (.property q negated, span) => return .property span q negated
  | (.look _, span) => fail .escapeInClass span.start span.stop

/-- The character that decides whether a hyphen before it makes a range. What is ignored is left out, but of
a comment only its sign. -/
def decisive? (flags : Flags) (cs : List Char) : Option Char :=
  if !flags.ignoreSpace then cs.head?
  else
    match cs.dropWhile Text.isBlank with
    | '#' :: cs => (cs.dropWhile Text.isBlank).head?
    | cs => cs.head?

/-- The next character, escape or range. -/
def item (flags : Flags) (b : Bracket) (c : Char) : Reader SetTree := do
  let first ← atom flags c
  skipIgnored flags
  match ← rest with
  | [] => b.unclosed
  | '-' :: cs =>
    let decisive? := decisive? flags cs
    if decisive? = some ']' || decisive? = some '-' then itemOf first
    else
      match ← next? flags with
      | none => b.unclosed
      | some d =>
        let second ← atom flags d
        let low ← rangeEnd first
        let high ← rangeEnd second
        if high.c < low.c then fail .reversedRange first.2.start second.2.stop
        return .range low high
  | _ => itemOf first

/-- Reads on to the end of the outermost bracket. Each round takes at least one character. -/
def readOn (flags : Flags) : Nat → Bracket → List Bracket → Reader Tree
  | 0, b, _ => b.unclosed
  | rounds + 1, b, outer => do
    skipIgnored flags
    let operation? : Option SetOperation := match ← rest with
      | '&' :: '&' :: _ => some .inter
      | '-' :: '-' :: _ => some .diff
      | '~' :: '~' :: _ => some .symmDiff
      | _ => none
    if let some op := operation? then
      skip 2
      readOn flags rounds (← b.operate op) outer
    else
      match ← peek? with
      | none => b.unclosed
      | some '[' =>
        match named? (← rest) with
        | some (set, negated, length) =>
          let start ← here
          skip length
          readOn flags rounds (b.add (.ascii (← spanSince start) set negated)) outer
        | none => readOn flags rounds (← openNext flags) (b :: outer)
      | some ']' =>
        skip 1
        let span ← spanSince b.span.start
        match outer with
        | [] => return .bracket span flags b.negated b.value
        | parent :: outer => readOn flags rounds (parent.add (.bracket span b.negated b.value)) outer
      | some c => readOn flags rounds (b.add (← item flags b c)) outer

/-- A class, from its opening bracket. -/
def read (flags : Flags) : Reader Tree := do
  let rounds := (← rest).length
  readOn flags rounds (← openNext flags) []

end Bracket

end ProgramRom.Pattern
