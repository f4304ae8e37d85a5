import ProgramRom.Pattern.ByteSequence
import ProgramRom.Pattern.Expr

/-! # What matches begin with

A pattern that comes down to a few texts is looked for as these texts, and no machine is made of it. To find
them, the texts are collected that matches can begin with. They are kept in the order of preference, and none is
kept that comes too late for another one.

There are limits to the number of texts and to their length. A beginning that has been cut is not all of its
match any more, and what follows it is not looked at. -/

namespace ProgramRom.Pattern

/-- The number of texts that are kept. -/
def beginningLimit : Nat := 250

/-- The number of bytes that are kept of a text. -/
def beginningLength : Nat := 100

/-- The number of characters of a class that are told apart, and the number of times that something is
repeated. -/
def spreadLimit : Nat := 10

/-- A text that matches can begin with, in bytes. -/
structure Beginning where
  bytes : List Nat
  /-- Whether it is all of the match. -/
  whole : Bool
deriving DecidableEq, Repr

namespace Beginning

def cut (n : Nat) (b : Beginning) : Beginning := if b.bytes.length ≤ n then b else ⟨b.bytes.take n, false⟩

def unfinished (b : Beginning) : Beginning := { b with whole := false }

/-- What a match begins with that goes on with another beginning. -/
def followedBy (a b : Beginning) : Beginning := if a.whole then ⟨a.bytes ++ b.bytes, b.whole⟩ else a

/-- Beginnings of which no two neighbours are of the same bytes. -/
def merged (bs : List Beginning) : List Beginning :=
  (bs.splitBy fun a b => a.bytes = b.bytes).filterMap fun group =>
    group.head?.map fun b => ⟨b.bytes, group.all (·.whole)⟩

/-- Leaves out each beginning that has another one before it with which it begins itself. -/
def preferred (bs : List Beginning) : List Beginning :=
  bs.foldl (fun kept b => if kept.any (·.bytes.isPrefixOf b.bytes) then kept else kept ++ [b]) []

/-- The bytes that two lists begin with alike. -/
def shared : List Nat → List Nat → List Nat
  | a :: as, b :: bs => if a = b then a :: shared as bs else []
  | _, _ => []

/-- The bytes that all begin with alike. -/
def sharedByAll : List Beginning → List Nat
  | [] => []
  | b :: bs => bs.foldl (fun bytes c => shared bytes c.bytes) b.bytes

/-- The bytes that are found in many texts. -/
def isCommonByte (byte : Nat) : Bool :=
  0xC0 ≤ byte || "\n\r (),-./0129:_abcdefghilmnoprstuvxy|".toList.any (·.toNat = byte)

/-- A shorter list in which more beginnings are the same, where there are many. -/
def shortened (bs : List Beginning) : List Beginning :=
  [(5, 10), (4, 10), (3, 64), (2, 64), (1, 10)].foldl (fun bs (length, many) =>
    if bs.length ≤ many then bs else preferred (bs.map (cut length))) bs

/-- Whether the beginnings are looked for as they are. Where it makes the search faster, only their first bytes
are looked for, and a machine tells whether there is a match. -/
def areEnough (bs : List Beginning) : Bool :=
  let kept := preferred bs
  let start := sharedByAll kept
  if kept.isEmpty || bs.any (·.bytes.isEmpty) then false
  else if 1 < bs.length && start.length ≤ 3 && start.head?.any (!isCommonByte ·) then
    (kept.map (cut 1)).all (·.whole)
  else
    let few := kept.length ≤ 16 && kept.all (·.whole)
    let kept := if 4 < start.length || (1 < start.length && !few) then kept.map (cut start.length) else kept
    let short := shortened kept
    kept.all (·.whole) &&
      (short.all (·.whole) || short.any (·.bytes.length ≤ 2) || 64 < short.length)

end Beginning

/-- What all matches of a pattern begin with, in the order of preference, unless there is too much of it. -/
abbrev Beginnings := Option (List Beginning)

namespace Beginnings

/-- The beginnings of a character of a set. -/
def ofSet (set : Unicode.CharSet) : Beginnings :=
  if spreadLimit < set.ranges.foldl (fun n r => n + (r.last + 1 - r.first)) 0 then none
  else some (set.ranges.flatMap fun r =>
    (List.range' r.first (r.last + 1 - r.first)).map fun code => ⟨encoded code, true⟩)

/-- What the empty text begins with. -/
def nothing : Beginnings := some [⟨[], true⟩]

def unfinished (b : Beginnings) : Beginnings := b.map fun bs => bs.map Beginning.unfinished

/-- Whether what follows makes a difference. -/
def canGrow (b : Beginnings) : Bool := b.any fun bs => bs.any (·.whole)

/-- The beginnings of two branches. If they are too many, they are cut first. -/
def union : Beginnings → Beginnings → Beginnings
  | some as, some bs =>
    let fit (as bs : List Beginning) := as.length + bs.length ≤ beginningLimit
    if fit as bs then some (Beginning.merged (as ++ bs))
    else
      let as := Beginning.merged (as.map (Beginning.cut 4))
      let bs := Beginning.merged (bs.map (Beginning.cut 4))
      if fit as bs then some (Beginning.merged (as ++ bs)) else none
  | _, _ => none

/-- The beginnings of what is followed by something that is not known. -/
def beforeUnknown : Beginnings → Beginnings
  | none => none
  | some bs => if bs.any (·.bytes.isEmpty) then none else unfinished (some bs)

/-- The beginnings of a sequence of two parts. -/
def followedBy : Beginnings → Beginnings → Beginnings
  | some as, some bs =>
    if as.length * bs.length ≤ beginningLimit then
      let both := as.flatMap fun a => if a.whole then bs.map a.followedBy else [a]
      some ((Beginning.merged both).map (Beginning.cut beginningLength))
    else beforeUnknown (some as)
  | a, _ => beforeUnknown a

/-- Adds a part, unless it makes no difference. -/
def grow (a b : Beginnings) : Beginnings := if a.canGrow then a.followedBy b else a

/-- Adds the same part so many times. -/
def growTimes (b : Beginnings) : Nat → Beginnings → Beginnings
  | 0, a => a
  | n + 1, a => growTimes b n (a.grow b)

/-- The beginnings of a repetition. -/
def repeated (b : Beginnings) (least : Nat) (most? : Option Nat) (greedy : Bool) : Beginnings :=
  if least = 0 then
    let b := if most? = some 1 then b else b.unfinished
    if greedy then b.union nothing else nothing.union b
  else
    let copies := growTimes b (min least spreadLimit) nothing
    if most? = some least && least ≤ spreadLimit then copies else copies.unfinished

end Beginnings

/-- How a part is joined to those before it. -/
inductive Joint where
  | behind
  | beside
deriving DecidableEq, Repr

def Joint.join (a b : Beginnings) : Joint → Beginnings
  | behind => a.grow b
  | beside => a.union b

namespace Expr

/-- The beginnings of a pattern that is joined to a part with some beginnings. -/
def beginningsFrom : Expr → Joint → Beginnings → Beginnings
  | empty, joint, before => joint.join before .nothing
  | text cs, joint, before =>
    joint.join before (some [Beginning.cut beginningLength ⟨cs.flatMap fun c => encoded c.toNat, true⟩])
  | one _ set, joint, before => joint.join before (.ofSet set)
  | look _, joint, before => joint.join before .nothing
  | rep e least most? greedy, joint, before =>
    joint.join before ((e.beginningsFrom .behind .nothing).repeated least most? greedy)
  | capture _ e, joint, before => joint.join before (e.beginningsFrom .behind .nothing)
  | seq a b, .behind, before => b.beginningsFrom .behind (a.beginningsFrom .behind before)
  | seq a b, .beside, before => before.union (b.beginningsFrom .behind (a.beginningsFrom .behind .nothing))
  | alt a b, .beside, before => b.beginningsFrom .beside (a.beginningsFrom .beside before)
  | alt a b, .behind, before => before.grow (b.beginningsFrom .beside (a.beginningsFrom .beside (some [])))

/-- Whether a pattern is made of characters only. -/
def isPlain : Expr → Bool
  | empty | text _ | one _ _ => true
  | look _ | capture _ _ => false
  | rep e _ _ _ => e.isPlain
  | seq a b | alt a b => a.isPlain && b.isPlain

/-- Whether a pattern comes down to a few texts. -/
def isFewTexts (e : Expr) : Bool :=
  e.isPlain && (e.beginningsFrom .behind .nothing).any Beginning.areEnough

end Expr

end ProgramRom.Pattern
