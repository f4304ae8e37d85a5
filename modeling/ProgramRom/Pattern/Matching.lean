import ProgramRom.Pattern.Expr

/-! # Matching

A text of `n` characters has `n + 1` places, before, between and behind its characters. A set of places is
a number whose bit `i` says whether the place `i` is in the set. A pattern leads from a set of places to the
set of those places where a match that begins in the first set can end, and a text matches if some place can
be reached from any place at all. -/

namespace ProgramRom.Pattern

/-- The places below `n` with a property. -/
def placesWhere (n : Nat) (p : Nat → Bool) : Nat :=
  (List.range n).foldl (fun places i => if p i then places ||| 1 <<< i else places) 0

/-- All places below `n`. -/
def allPlaces (n : Nat) : Nat := placesWhere n fun _ => true

/-- A pattern laid over a text: classes and looks are the sets of the places where they hold. -/
inductive Trail where
  | stay
  /-- Over one character, from the given places. -/
  | across (places : Nat)
  /-- Nowhere, at the given places only. -/
  | check (places : Nat)
  | seq (a b : Trail)
  | alt (a b : Trail)
  | rep (a : Trail) (least : Nat) (most? : Option Nat)

/-- Applies a function up to `n` times, until it changes nothing. -/
def settle (f : Nat → Nat) : Nat → Nat → Nat
  | 0, places => places
  | n + 1, places => if f places = places then places else settle f n (f places)

/-- The places that a trail leads to. A trail goes forward only, so that no more rounds count than there
are places. -/
def Trail.ends (count : Nat) : Trail → Nat → Nat
  | stay, places => places
  | across here, places => (places &&& here) <<< 1
  | check here, places => places &&& here
  | seq a b, places => b.ends count (a.ends count places)
  | alt a b, places => a.ends count places ||| b.ends count places
  | rep a least most?, places =>
    let reached := settle (a.ends count) (min least count) places
    let further := (most?.map (· - least)).getD count
    settle (fun places => places ||| a.ends count places) (min further count) reached

/-- The places before the characters of a text with a property. -/
def placesBefore (characters : Array Char) (p : Char → Bool) : Nat :=
  placesWhere characters.size fun i => characters[i]?.any p

/-- The trail of a pattern on a text. What a group captures and whether a repetition is greedy makes no
difference to where matches can end. -/
def Expr.laidOn (characters : Array Char) : Expr → Trail
  | empty => .stay
  | text cs => (cs.map fun c => Trail.across (placesBefore characters (· = c))).foldr .seq .stay
  | one _ set => .across (placesBefore characters set.contains)
  | look l =>
    .check (placesWhere (characters.size + 1) fun i =>
      l.holds (if i = 0 then none else characters[i - 1]?) characters[i]?)
  | rep e least most? _ => .rep (e.laidOn characters) least most?
  | capture _ e => e.laidOn characters
  | seq a b => .seq (a.laidOn characters) (b.laidOn characters)
  | alt a b => .alt (a.laidOn characters) (b.laidOn characters)

/-- Whether some part of a text matches a pattern. -/
def Expr.occursIn (e : Expr) (text : String) : Bool :=
  let characters := text.toList.toArray
  let count := characters.size + 1
  (e.laidOn characters).ends count (allPlaces count) ≠ 0

end ProgramRom.Pattern
