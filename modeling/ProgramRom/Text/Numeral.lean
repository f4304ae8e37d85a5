/-! # Numerals

A numeral is a run of at least one digit, the most significant first. Leading zeros count for nothing,
and there is no limit to its length. -/

namespace ProgramRom.Text

def isHexDigit (c : Char) : Bool :=
  c.isDigit || ('a' ≤ c && c ≤ 'f') || ('A' ≤ c && c ≤ 'F')

/-- The value of a hexadecimal digit, of either case. -/
def digitValue (c : Char) : Nat :=
  if c.isDigit then c.toNat - '0'.toNat
  else if 'a' ≤ c then c.toNat - 'a'.toNat + 10
  else c.toNat - 'A'.toNat + 10

/-- The number that digits write in a base. -/
def numeralValue (base : Nat) (digits : List Char) : Nat :=
  digits.foldl (fun value c => value * base + digitValue c) 0

/-- The number that a text of nothing but digits writes. -/
def numeral? (base : Nat) (isDigit : Char → Bool) (cs : List Char) : Option Nat :=
  if !cs.isEmpty && cs.all isDigit then some (numeralValue base cs) else none

def decimal? : List Char → Option Nat := numeral? 10 Char.isDigit

def hexadecimal? : List Char → Option Nat := numeral? 16 isHexDigit

theorem numeral?_eq_some_iff {base value : Nat} {isDigit : Char → Bool} {cs : List Char} :
    numeral? base isDigit cs = some value ↔
      cs ≠ [] ∧ (∀ c ∈ cs, isDigit c = true) ∧ numeralValue base cs = value := by
  simp [numeral?, and_assoc]

end ProgramRom.Text
