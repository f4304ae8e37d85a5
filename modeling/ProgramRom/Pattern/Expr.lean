import ProgramRom.Pattern.Look

/-! # Patterns

A pattern describes parts of a text. It is made of characters and looks by following, choice and repetition.
The functions that build patterns leave out what makes no difference: what is empty, sequences inside of
sequences and choices inside of choices. A sequence and a choice are written with their first part on the
left, and the rest on the right. -/

namespace ProgramRom.Pattern

open Unicode

inductive Expr where
  | empty
  /-- At least one character, one after the other. -/
  | text (cs : List Char)
  /-- One character of a set, which may be a set of bytes. -/
  | one (asBytes : Bool) (set : CharSet)
  | look (l : Look)
  /-- At least `least` times, and at most as often as is said. -/
  | rep (e : Expr) (least : Nat) (most? : Option Nat) (greedy : Bool)
  | capture (number : Nat) (e : Expr)
  | seq (first rest : Expr)
  | alt (first rest : Expr)
deriving DecidableEq, Repr

namespace Expr

/-- What matches nothing, not even the empty text. -/
def never : Expr := one true .empty

/-- One character of a set. -/
def ofSet (asBytes : Bool) (set : CharSet) : Expr :=
  if set.isEmpty then never
  else
    match set.single? with
    | some c => text [c]
    | none => one asBytes set

/-! ### Lengths -/

/-- The least number of characters that a pattern takes, unless it may match nothing. -/
def shortest? : Expr → Option Nat
  | empty => some 0
  | text cs => some cs.length
  | one _ set => if set.isEmpty then none else some 1
  | look _ => some 0
  | rep e least _ _ => e.shortest?.map (· * least)
  | capture _ e => e.shortest?
  | seq a b => do return (← a.shortest?) + (← b.shortest?)
  | alt a b => do return min (← a.shortest?) (← b.shortest?)

/-- The greatest number of characters that a pattern takes, if there is one. -/
def longest? : Expr → Option Nat
  | empty => some 0
  | text cs => some cs.length
  | one _ set => if set.isEmpty then none else some 1
  | look _ => some 0
  | rep e _ most? _ => do return (← e.longest?) * (← most?)
  | capture _ e => e.longest?
  | seq a b => do return (← a.longest?) + (← b.longest?)
  | alt a b => do return max (← a.longest?) (← b.longest?)

/-- Whether a pattern takes no characters. -/
def isWidthless (e : Expr) : Bool := e.longest? = some 0

/-- Whether a match can only begin at the start of the text. -/
def startsText : Expr → Bool
  | look l => l = .textStart
  | rep e least _ _ => 0 < least && e.startsText
  | capture _ e => e.startsText
  | seq a b => a.startsText || (a.isWidthless && b.startsText)
  | alt a b => a.startsText && b.startsText
  | empty | text _ | one _ _ => false

/-- Whether a match can only end at the end of the text. -/
def stopsText : Expr → Bool
  | look l => l = .textStop
  | rep e least _ _ => 0 < least && e.stopsText
  | capture _ e => e.stopsText
  | seq a b => b.stopsText || (a.stopsText && b.isWidthless)
  | alt a b => a.stopsText && b.stopsText
  | empty | text _ | one _ _ => false

/-! ### Repetition -/

/-- A repetition. What takes no characters matters once at most. -/
def repeated (e : Expr) (least : Nat) (most? : Option Nat) (greedy : Bool) : Expr :=
  let least' := if e.isWidthless then min least 1 else least
  let most' := if e.isWidthless then some (min (most?.getD 1) 1) else most?
  if most' = some 0 then empty else if least' = 1 && most' = some 1 then e else rep e least' most' greedy

/-! ### Sequences -/

/-- The parts of a sequence. -/
def parts : Expr → List Expr
  | empty => []
  | seq a b => a :: b.parts
  | e => [e]

/-- Joins texts that follow one another. -/
def joinTexts : List Expr → List Expr
  | [] => []
  | e :: es =>
    match e, joinTexts es with
    | text a, text b :: rest => text (a ++ b) :: rest
    | e, rest => e :: rest

/-- Parts one after the other, which are no sequences. -/
def ofParts : List Expr → Expr
  | [] => empty
  | [e] => e
  | e :: es => seq e (ofParts es)

def sequence (es : List Expr) : Expr := ofParts (joinTexts (es.flatMap parts))

/-! ### Choices -/

/-- The branches of a choice. -/
def branches : Expr → List Expr
  | alt a b => a :: b.branches
  | e => [e]

/-- One of some branches, which are no choices. -/
def ofBranches : List Expr → Expr
  | [] => never
  | [e] => e
  | e :: es => alt e (ofBranches es)

/-- The only character that a pattern matches. -/
def char? : Expr → Option Char
  | text [c] => some c
  | _ => none

def set? : Expr → Option CharSet
  | one _ set => some set
  | _ => none

/-- The set of the characters that all branches are. -/
def setOfChars? (es : List Expr) : Option CharSet := (es.mapM char?).map fun cs => .unions (cs.map .single)

/-- The union of the sets that all branches are. -/
def setOfSets? (es : List Expr) : Option CharSet := (es.mapM set?).map .unions

/-- The number of parts that two lists begin with alike. -/
def sharedLength : List Expr → List Expr → Nat
  | a :: as, b :: bs => if a = b then sharedLength as bs + 1 else 0
  | _, _ => 0

/-- The number of parts that all branches begin with alike, if all are sequences. -/
def commonLength (es : List Expr) : Nat :=
  match es with
  | seq a b :: rest =>
    let first := (seq a b).parts
    rest.foldl (fun length e =>
      match e with
      | seq c d => min length (sharedLength first (seq c d).parts)
      | _ => 0) first.length
  | _ => 0

/-- A choice. Characters and sets are one set, and what all branches begin with is taken out. At most so many
times is something taken out of what remains. -/
def choiceWithin : Nat → List Expr → Expr
  | 0, es => ofBranches (es.flatMap branches)
  | rounds + 1, es =>
    let es := es.flatMap branches
    match es with
    | [] => never
    | [e] => e
    | first :: _ =>
      match setOfChars? es <|> setOfSets? es with
      | some set => ofSet false set
      | none =>
        match commonLength es with
        | 0 => ofBranches es
        | n => sequence (first.parts.take n ++
            [choiceWithin rounds (es.map fun e => sequence (e.parts.drop n))])

/-- The number of steps that a pattern is made of. -/
def size : Expr → Nat
  | empty | text _ | one _ _ | look _ => 1
  | rep e _ _ _ | capture _ e => e.size + 1
  | seq a b | alt a b => a.size + b.size + 1

/-- A choice. -/
def choice (es : List Expr) : Expr := choiceWithin (es.foldl (fun n e => n + e.size) 0) es

/-! ### What a pattern asks for -/

/-- Whether a pattern asks for the edge of a word that is not of ASCII characters only. -/
def asksForWords : Expr → Bool
  | look (.word ascii _) => !ascii
  | empty | text _ | one _ _ | look _ => false
  | rep e _ _ _ | capture _ e => e.asksForWords
  | seq a b | alt a b => a.asksForWords || b.asksForWords

end Expr

end ProgramRom.Pattern
