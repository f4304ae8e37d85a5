import ProgramRom.Word

/-! # Capacity expressions

A capacity is a sum of terms, read from left to right. Memory sizes tend to be powers of two, often less
one so that the top address fits the address register, or numbers with a binary scale. Every number
written and every partial result has to fit a word. -/

namespace ProgramRom.Capacity

/-- The scale a number is written with. -/
inductive Scale where
  | one
  | kibi
  | mebi
deriving DecidableEq, Repr

def Scale.factor : Scale → Nat
  | one => 1
  | kibi => 1024
  | mebi => 1024 * 1024

inductive Term where
  | power (base exponent : Nat)
  | hexadecimal (value : Nat)
  | scaled (value : Nat) (scale : Scale)
deriving DecidableEq, Repr

inductive Sign where
  | plus
  | minus
deriving DecidableEq, Repr

structure Expression where
  first : Term
  rest : List (Sign × Term)
deriving DecidableEq, Repr

/-- The word a term stands for. An exponent has to fit a word of half the width. -/
def Term.value? : Term → Option UInt64
  | power base exponent =>
    if base < UInt64.size ∧ exponent < UInt32.size then Word.pow? base exponent else none
  | hexadecimal value => Word.fit? value
  | scaled value scale => Word.fit? (value * scale.factor)

/-- A partial result with one more term. -/
def Sign.combine? : Sign → UInt64 → UInt64 → Option UInt64
  | plus, total, term => Word.add? total term
  | minus, total, term => Word.sub? total term

def Expression.step? (total : UInt64) (part : Sign × Term) : Option UInt64 := do
  part.1.combine? total (← part.2.value?)

/-- The word an expression stands for, if all its terms and all its partial results are words. -/
def Expression.value? (e : Expression) : Option UInt64 := do
  e.rest.foldlM step? (← e.first.value?)

end ProgramRom.Capacity
