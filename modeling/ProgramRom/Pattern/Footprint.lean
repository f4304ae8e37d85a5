import ProgramRom.Pattern.ByteSequence
import ProgramRom.Pattern.Expr
import ProgramRom.Pattern.Fault
import Std.Data.HashMap

/-! # The memory that a pattern takes

To be used, a pattern becomes a machine that reads bytes, and another one that reads them backwards. Repetitions
are written out, so that a short pattern can become a large machine. The sizes of both are limited.

A machine has states of a fixed size. A state that chooses among steps by the next byte needs room for each step,
and a fork room for each way that leads from it. -/

namespace ProgramRom.Pattern

def stateSize : Nat := 32

def stepSize : Nat := 8

def waySize : Nat := 4

/-- What a machine takes that is being built. -/
structure Usage where
  states : Nat := 0
  steps : Nat := 0
  ways : Nat := 0
deriving DecidableEq, Repr

namespace Usage

def bytes (u : Usage) : Nat := stateSize * u.states + stepSize * u.steps + waySize * u.ways

def addStates (u : Usage) (n : Nat) : Usage := { u with states := u.states + n }

def addWays (u : Usage) (n : Nat) : Usage := { u with ways := u.ways + n }

/-- A state that chooses among so many steps. -/
def addChoice (u : Usage) (steps : Nat) : Usage := { u with states := u.states + 1, steps := u.steps + steps }

def isTooLarge (u : Usage) : Bool := memoryLimit < u.bytes

end Usage

/-- A part of a machine. -/
structure Piece where
  /-- What the machine takes with the part. -/
  usage : Usage
  /-- Whether the part ends with a fork, which has one more way when something follows. -/
  endsWithFork : Bool := false

namespace Piece

/-- What the machine takes once the part is joined to another state. -/
def joined (p : Piece) : Usage := if p.endsWithFork then p.usage.addWays 1 else p.usage

/-- A part with another one behind it. -/
def followedBy (p : Piece) (next : Usage → Piece) : Piece :=
  let q := next p.usage
  { q with usage := if p.endsWithFork then q.usage.addWays 1 else q.usage }

/-- Further copies behind a part. No more are made than fit. -/
def repeated (one : Usage → Piece) : Nat → Piece → Piece
  | 0, p => p
  | n + 1, p => if p.usage.isTooLarge then p else repeated one n (p.followedBy one)

end Piece

/-! ### Classes

States of a class that are equal are shared. They are found again through a table with a fixed number of slots,
where a state takes the slot of its hash and drives out the one before. -/

/-- A step of a state: from a range of bytes to a state. -/
structure Step where
  range : ByteRange
  target : Nat
deriving DecidableEq, Repr

def hashStart : UInt64 := 14695981039346656037

def hashFactor : UInt64 := 1099511628211

/-- The hash of numbers, one after the other. -/
def hashOf (numbers : List Nat) : UInt64 :=
  numbers.foldl (fun h n => (h ^^^ n.toUInt64) * hashFactor) hashStart

/-- A table of numbered states. -/
abbrev SlotTable (α : Type) := Std.HashMap Nat (α × Nat)

namespace SlotTable

/-- The state that is in the slot, if it is the one that is looked for. -/
def find? {α : Type} [DecidableEq α] (table : SlotTable α) (slot : Nat) (key : α) : Option Nat :=
  match table[slot]? with
  | some (other, number) => if other = key then some number else none
  | none => none

end SlotTable

/-- A class that is being built. -/
structure ClassState (α : Type) where
  usage : Usage
  table : SlotTable α := ∅

/-- The slots for states that choose among steps. -/
def choiceSlots : Nat := 10000

/-- The slots for states that are shared between the ends of sequences. -/
def endingSlots : Nat := 1000

namespace ClassState

/-- The number of a state with some steps, which is added unless it is found. -/
def choice (steps : List Step) (s : ClassState (List Step)) : Nat × ClassState (List Step) :=
  let numbers := steps.flatMap fun step => [step.range.low, step.range.high, step.target]
  let slot := (hashOf numbers).toNat % choiceSlots
  match s.table.find? slot steps with
  | some number => (number, s)
  | none =>
    (s.usage.states, ⟨s.usage.addChoice steps.length, s.table.insert slot (steps, s.usage.states)⟩)

/-- The state that begins all of some sequences, which have at most so many bytes and come in order. Behind
them comes the target. -/
def forward (target : Nat) :
    Nat → List ByteSequence → ClassState (List Step) → Nat × ClassState (List Step)
  | 0, _, s => (target, s)
  | n + 1, sequences, s =>
    let groups := sequences.splitBy fun a b => a.head? = b.head?
    let (steps, s) := groups.foldl (fun (steps, s) group =>
      match group with
      | (range :: rest) :: more =>
        let (next, s) := if rest.isEmpty then (target, s)
          else forward target n (rest :: more.map List.tail) s
        (⟨range, next⟩ :: steps, s)
      | _ => (steps, s)) ([], s)
    choice steps.reverse s

/-- The state that takes the bytes of a sequence before a state is reached, the last ones first. -/
def backward (target : Nat) (sequence : ByteSequence) (s : ClassState (ByteRange × Nat)) :
    ClassState (ByteRange × Nat) :=
  (sequence.foldl (fun (target, s) range =>
    let slot := (hashOf [target, range.low, range.high]).toNat % endingSlots
    match s.table.find? slot (range, target) with
    | some number => (number, s)
    | none =>
      (s.usage.states, ⟨s.usage.addStates 1, s.table.insert slot ((range, target), s.usage.states)⟩))
    (target, s)).2

end ClassState

/-- Which way a machine reads. -/
inductive Direction where
  | forward
  | backward
deriving DecidableEq, Repr

/-- The states of a class. -/
def buildClass (d : Direction) (set : Unicode.CharSet) (u : Usage) : Usage :=
  if set.isAscii then (u.addStates 1).addChoice set.ranges.length
  else
    match d with
    | .forward => (ClassState.forward u.states 4 (ByteSequence.ofSet set) ⟨u.addStates 1, ∅⟩).2.usage
    | .backward =>
      let sequences := ByteSequence.ofSet set
      (sequences.foldl (fun s sequence => ClassState.backward (u.states + 1) sequence s)
        ⟨(u.addStates 2).addWays sequences.length, ∅⟩).usage

/-! ### Choices of texts

A choice of texts becomes a tree, in which texts share what they begin with. -/

/-- The states of a tree of texts that have at most so many bytes, some of which have more than none. -/
def buildTexts : Nat → List (List Nat) → Usage → Usage
  | 0, _, u => u
  | n + 1, texts, u =>
    -- A text that ends here divides the texts before it from those behind it.
    let runs := texts.splitBy fun a b => !a.isEmpty && !b.isEmpty
    let chunks := runs.filter fun chunk => chunk.head?.any (!·.isEmpty)
    let ends := (texts.dropWhile (·.isEmpty)).countP (·.isEmpty) + if texts.head?.any (·.isEmpty) then 1 else 0
    let u := chunks.foldl (fun u chunk =>
      let firsts := (chunk.filterMap (·.head?)).eraseDups
      let u := firsts.foldl (fun u byte =>
        let rest := (chunk.filter fun text => text.head? = some byte).map List.tail
        if rest.all (·.isEmpty) then u else buildTexts n rest u) u
      if firsts.length = 1 then u.addStates 1 else u.addChoice firsts.length) u
    (u.addStates 1).addWays (chunks.length + ends)

/-! ### Patterns -/

/-- Where a pattern stands in a choice. -/
inductive Place where
  | alone
  | second
  | later
deriving DecidableEq, Repr

/-- Joins a branch to its choice. The fork of the choice and the state behind it are added with the second
branch. -/
def Place.join (p : Piece) : Place → Piece
  | alone => p
  | second => ⟨(p.joined.addWays 1).addStates 2, false⟩
  | later => ⟨p.joined.addWays 1, false⟩

/-- Copies one after the other. Without any there is an empty state. -/
def copies (one : Usage → Piece) (n : Nat) (u : Usage) : Piece :=
  match n with
  | 0 => ⟨u.addStates 1, false⟩
  | n + 1 => Piece.repeated one n (one u)

/-- Copies that may be left out, behind a part. Each has a fork before it. -/
def optionalCopies (one : Usage → Piece) : Nat → Piece → Piece
  | 0, p => p
  | n + 1, p =>
    if p.usage.isTooLarge then p
    else optionalCopies one n (p.followedBy fun u => one ((u.addStates 1).addWays 2))

/-- The states of a repetition. What may be empty needs two forks to be repeated any number of times. -/
def buildRepetition (one : Usage → Piece) (mayBeEmpty : Bool) (least : Nat) (most? : Option Nat) (u : Usage) :
    Piece :=
  match most? with
  | some most =>
    if least = most then copies one least u
    else if least = 0 && most = 1 then ⟨(one (u.addStates 1)).joined.addStates 1 |>.addWays 2, false⟩
    else
      let p := copies one least u
      ⟨(optionalCopies one (most - least) { p with usage := p.usage.addStates 1 }).joined, false⟩
  | none =>
    if least = 0 then
      if mayBeEmpty then ⟨((one u).joined.addStates 3).addWays 4, false⟩
      else ⟨(one (u.addStates 1)).joined.addWays 1, true⟩
    else ⟨((copies one least u).joined.addStates 1).addWays 1, true⟩

/-- The bytes of a text. -/
def bytesOf (cs : List Char) : List Nat := cs.flatMap fun c => encoded c.toNat

/-- The texts of a choice, if all branches are texts. -/
def Expr.texts? : Expr → Option (List (List Char))
  | text cs => some [cs]
  | alt (text cs) rest => rest.texts?.map (cs :: ·)
  | _ => none

/-- The states of a pattern, at a place of a choice. -/
def Expr.build (d : Direction) : Expr → Place → Usage → Piece
  | empty, place, u => place.join ⟨u.addStates 1, false⟩
  | text cs, place, u => place.join ⟨u.addStates (bytesOf cs).length, false⟩
  | one _ set, place, u => place.join ⟨buildClass d set u, false⟩
  | look _, place, u => place.join ⟨u.addStates 1, false⟩
  | rep e least most? _, place, u =>
    place.join (buildRepetition (e.build d .alone) (!e.shortest?.any (0 < ·)) least most? u)
  | capture _ e, place, u =>
    match d with
    | .forward => place.join ⟨(e.build d .alone (u.addStates 1)).joined.addStates 1, false⟩
    | .backward => place.join (e.build d .alone u)
  | seq a b, place, u =>
    match d with
    | .forward => place.join ((a.build d .alone u).followedBy (b.build d .alone))
    | .backward => place.join ((b.build d .alone u).followedBy (a.build d .alone))
  | alt a b, .alone, u =>
    match (alt a b).texts? with
    | some texts =>
      let texts := texts.map fun cs => if d = .forward then bytesOf cs else (bytesOf cs).reverse
      ⟨buildTexts ((texts.map List.length).foldl max 0 + 1) texts (u.addStates 1), false⟩
    | none => b.build d .second ((a.build d .alone u).joined.addWays 1)
  | alt a b, .second, u => b.build d .later (Place.second.join (a.build d .alone u)).usage
  | alt a b, .later, u => b.build d .later (Place.later.join (a.build d .alone u)).usage

/-- What the machine of a pattern takes. Unless a match can only begin where the machine does, it begins with a
loop over any bytes. Forwards, the ends of the match are captured. -/
def Expr.footprint (e : Expr) (d : Direction) : Usage :=
  let fixed := if d = .forward then e.startsText else e.stopsText
  let u : Usage := if fixed then { states := 1 } else { states := 3, steps := 1, ways := 2 }
  let p := match d with
    | .forward => (capture 0 e).build d .alone u
    | .backward => e.build d .alone u
  p.joined.addStates 1

end ProgramRom.Pattern
