/-! # Sets of characters

A set is written as ranges of codes, in increasing order and with both ends included. Ranges that overlap, or
of which one begins right behind the other, are joined to one, so that a set that comes from `ofRanges` is
written in one way only.

The surrogates are no characters. They may lie inside a range, but no range begins or ends with one. -/

namespace ProgramRom.Unicode

structure CodeRange where
  first : Nat
  last : Nat
deriving DecidableEq, Repr

/-- The code of the character behind one. -/
def codeAfter (code : Nat) : Nat := if code = 0xD7FF then 0xE000 else code + 1

/-- The code of the character before one. -/
def codeBefore (code : Nat) : Nat := if code = 0xE000 then 0xD7FF else code - 1

def lastCode : Nat := 0x10FFFF

namespace CodeRange

def contains (r : CodeRange) (code : Nat) : Bool := r.first ≤ code && code ≤ r.last

/-- The range between two codes, whichever is the greater. -/
def between (a b : Nat) : CodeRange := ⟨min a b, max a b⟩

/-- What two ranges have in common. -/
def inter? (a b : CodeRange) : Option CodeRange :=
  let first := max a.first b.first
  let last := min a.last b.last
  if first ≤ last then some ⟨first, last⟩ else none

/-- What remains of a range without another one. -/
def diff (a b : CodeRange) : List CodeRange :=
  if (a.inter? b).isNone then [a]
  else
    (if a.first < b.first then [⟨a.first, codeBefore b.first⟩] else []) ++
      if b.last < a.last then [⟨codeAfter b.last, a.last⟩] else []

/-- Joins ranges in increasing order to the one before them. -/
def joinFrom (current : CodeRange) : List CodeRange → List CodeRange
  | [] => [current]
  | r :: rs =>
    if r.first ≤ current.last + 1 then joinFrom ⟨current.first, max current.last r.last⟩ rs
    else current :: joinFrom r rs

/-- The ranges between those of a list in increasing order, from the end of one that lies before them. -/
def gapsFrom (last : Nat) : List CodeRange → List CodeRange
  | [] => if last < lastCode then [⟨codeAfter last, lastCode⟩] else []
  | r :: rs => between (codeAfter last) (codeBefore r.first) :: gapsFrom r.last rs

theorem any_contains_joinFrom {code : Nat} {current : CodeRange} {rs : List CodeRange}
    (h : (current :: rs).Pairwise fun a b => a.first ≤ b.first) :
    (joinFrom current rs).any (·.contains code) = (current.contains code || rs.any (·.contains code)) := by
  induction rs generalizing current with
  | nil => simp [joinFrom]
  | cons r rs ih =>
    simp only [List.pairwise_cons, List.mem_cons, forall_eq_or_imp] at h
    obtain ⟨⟨hr, hrs⟩, hr', hp⟩ := h
    unfold joinFrom
    split
    · rename_i hj
      have hp' : (CodeRange.mk current.first (max current.last r.last) :: rs).Pairwise
          fun a b => a.first ≤ b.first := List.pairwise_cons.mpr ⟨hrs, hp⟩
      rw [ih hp', List.any_cons, ← Bool.or_assoc]
      congr 1
      rw [Bool.eq_iff_iff]
      simp only [contains, Bool.and_eq_true, decide_eq_true_eq, Bool.or_eq_true]
      omega
    · rw [List.any_cons, ih (List.pairwise_cons.mpr ⟨hr', hp⟩), List.any_cons]

end CodeRange

structure CharSet where
  ranges : List CodeRange
deriving DecidableEq, Repr

namespace CharSet

def empty : CharSet := ⟨[]⟩

def all : CharSet := ⟨[⟨0, lastCode⟩]⟩

def single (c : Char) : CharSet := ⟨[⟨c.toNat, c.toNat⟩]⟩

def containsCode (s : CharSet) (code : Nat) : Bool := s.ranges.any (·.contains code)

def contains (s : CharSet) (c : Char) : Bool := s.containsCode c.toNat

/-- The set with all codes of some ranges, which may come in any order and overlap. -/
def ofRanges (rs : List CodeRange) : CharSet :=
  match rs.mergeSort fun a b => a.first ≤ b.first with
  | [] => empty
  | r :: rs => ⟨CodeRange.joinFrom r rs⟩

def union (a b : CharSet) : CharSet := ofRanges (a.ranges ++ b.ranges)

def unions (sets : List CharSet) : CharSet := ofRanges (sets.flatMap (·.ranges))

def inter (a b : CharSet) : CharSet := ⟨a.ranges.flatMap fun r => b.ranges.filterMap r.inter?⟩

def diff (a b : CharSet) : CharSet :=
  ⟨a.ranges.flatMap fun r => b.ranges.foldl (fun rest s => rest.flatMap (·.diff s)) [r]⟩

def symmDiff (a b : CharSet) : CharSet := (a.union b).diff (a.inter b)

/-- The characters between the ranges of a set. Two ranges that end and begin on either side of the surrogates
have no character between them, and count for their two ends. -/
def compl (s : CharSet) : CharSet :=
  match s.ranges with
  | [] => all
  | r :: rs => ⟨(if 0 < r.first then [⟨0, codeBefore r.first⟩] else []) ++ CodeRange.gapsFrom r.last rs⟩

def isEmpty (s : CharSet) : Bool := s.ranges.isEmpty

def isAscii (s : CharSet) : Bool := s.ranges.all (·.last < 0x80)

/-- The only character of a set. -/
def single? (s : CharSet) : Option Char :=
  match s.ranges with
  | [r] => if r.first = r.last then some (Char.ofNat r.first) else none
  | _ => none

@[simp]
theorem containsCode_empty (code : Nat) : empty.containsCode code = false := rfl

theorem containsCode_ofRanges (rs : List CodeRange) (code : Nat) :
    (ofRanges rs).containsCode code = rs.any (·.contains code) := by
  have hperm := List.mergeSort_perm rs fun a b => decide (a.first ≤ b.first)
  have hsorted : (rs.mergeSort fun a b => decide (a.first ≤ b.first)).Pairwise fun a b => a.first ≤ b.first := by
    have h := @List.pairwise_mergeSort CodeRange (fun a b => decide (a.first ≤ b.first))
      (fun a b c hab hbc => by simp only [decide_eq_true_eq] at *; omega)
      (fun a b => by simp only [Bool.or_eq_true, decide_eq_true_eq]; omega) rs
    exact h.imp fun hab => by simpa using hab
  have hany : (rs.mergeSort fun a b => decide (a.first ≤ b.first)).any (·.contains code) =
      rs.any (·.contains code) := by
    rw [Bool.eq_iff_iff]
    simp [List.any_eq_true, hperm.mem_iff]
  rw [← hany, ofRanges]
  split
  · rename_i heq
    simp [heq]
  · rename_i r rest heq
    rw [heq] at hsorted
    rw [containsCode, CodeRange.any_contains_joinFrom hsorted, heq, List.any_cons]

@[simp]
theorem contains_union (a b : CharSet) (c : Char) : (a.union b).contains c = (a.contains c || b.contains c) := by
  rw [contains, union, containsCode_ofRanges, List.any_append]
  rfl

@[simp]
theorem contains_single (c d : Char) : (single c).contains d = decide (d = c) := by
  rw [Bool.eq_iff_iff]
  simp only [single, contains, containsCode, List.any_cons, List.any_nil, CodeRange.contains, Bool.or_false,
    Bool.and_eq_true, decide_eq_true_eq]
  exact ⟨fun h => Char.ext (UInt32.toNat_inj.mp (by change d.toNat = c.toNat; omega)), fun h => by simp [h]⟩

@[simp]
theorem contains_all (c : Char) : all.contains c = true := by
  have h : c.toNat < 0x110000 := by
    rcases c.valid with h | h
    · have : c.val.toNat < 0xD800 := h
      show c.val.toNat < 0x110000
      omega
    · exact h.2
  simp [all, contains, containsCode, CodeRange.contains, lastCode]
  omega

end CharSet

end ProgramRom.Unicode
