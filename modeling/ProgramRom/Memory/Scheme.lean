import ProgramRom.UnknownName

/-! # Storage schemes

A scheme says how an interpreter core lays out its program memory and its bracket stack. -/

namespace ProgramRom

inductive Scheme where
  /-- Three bits tell the eight operations apart. In a program whose brackets match, at most every other
  operation opens a bracket that is still open, so half the capacity is enough for the stack. -/
  | packed
  /-- Operations are kept as their codes, and the stack has an entry for every operation. -/
  | byte
deriving DecidableEq, Repr

namespace Scheme

def all : List Scheme := [packed, byte]

/-- The scheme of a core of which nothing is said. -/
def default : Scheme := packed

def name : Scheme → String
  | packed => "packed"
  | byte => "byte"

def ofName (name : String) : Except UnknownName Scheme :=
  match all.find? (·.name = name) with
  | some scheme => .ok scheme
  | none => .error {}

def bitsPerOperation : Scheme → Nat
  | packed => 3
  | byte => 8

/-- Entries of the bracket stack of a core whose program memory holds `capacity` operations. -/
def stackEntries : Scheme → UInt64 → UInt64
  | packed, capacity => capacity / 2
  | byte, capacity => capacity

theorem toNat_stackEntries_packed (capacity : UInt64) : (packed.stackEntries capacity).toNat = capacity.toNat / 2 :=
  UInt64.toNat_div capacity 2

end Scheme

end ProgramRom
