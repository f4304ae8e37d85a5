import ProgramRom.Capacity.Reading
import ProgramRom.Demo
import ProgramRom.Memory.Scheme

/-! # Values of parameters

How the text of an argument is read as a value, and the reason that is given if it cannot be. -/

namespace ProgramRom.CommandLine

/-- Why a text is not a value. -/
inductive ValueError where
  /-- The text is empty and stands for no value at all. -/
  | absent
  | invalid (reason : String)
deriving DecidableEq, Repr

namespace Value

inductive WordError where
  | empty
  | invalidDigit
  | tooLarge
deriving DecidableEq, Repr

def WordError.message : WordError → String
  | empty => "cannot parse integer from empty string"
  | invalidDigit => "invalid digit found in string"
  | tooLarge => "number too large to fit in target type"

/-- A number with one more digit, the digit being looked at before the size. -/
def addDigit (value : Nat) (c : Char) : Except WordError Nat :=
  if !c.isDigit then .error .invalidDigit
  else if UInt64.size ≤ value * 10 + Text.digitValue c then .error .tooLarge
  else .ok (value * 10 + Text.digitValue c)

def digits (cs : List Char) : Except WordError UInt64 :=
  (cs.foldlM addDigit 0).map Nat.toUInt64

/-- A word in decimal, with or without a plus sign. -/
def word (text : String) : Except WordError UInt64 :=
  match text.toList with
  | [] => .error .empty
  | ['+'] => .error .invalidDigit
  | '+' :: cs => digits cs
  | cs => digits cs

def indent (text : String) : Except ValueError UInt64 := (word text).mapError (.invalid ·.message)

def capacity (text : String) : Except ValueError UInt64 := (Capacity.read text).mapError (.invalid ·.message)

def demo (text : String) : Except ValueError Demo := (Demo.ofName text).mapError (.invalid ·.message)

def scheme (text : String) : Except ValueError Scheme := (Scheme.ofName text).mapError (.invalid ·.message)

/-- The path of a file, which is any text but the empty one. -/
def path (text : String) : Except ValueError String :=
  if text.isEmpty then .error .absent else .ok text

end Value

end ProgramRom.CommandLine
