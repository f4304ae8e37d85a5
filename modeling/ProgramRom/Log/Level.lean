/-! # Levels of log records -/

namespace ProgramRom.Log

inductive Level where
  | error
  | warn
  | info
  | debug
  | trace
deriving DecidableEq, Repr

namespace Level

def all : List Level := [error, warn, info, debug, trace]

def name : Level → String
  | error => "ERROR"
  | warn => "WARN"
  | info => "INFO"
  | debug => "DEBUG"
  | trace => "TRACE"

/-- How detailed a level is. -/
def detail : Level → Nat
  | error => 1
  | warn => 2
  | info => 3
  | debug => 4
  | trace => 5

end Level

/-- The most detailed level that is let through, if any is. -/
structure Threshold where
  level? : Option Level
deriving DecidableEq, Repr

namespace Threshold

def off : Threshold := ⟨none⟩

def upTo (level : Level) : Threshold := ⟨some level⟩

def admits (t : Threshold) (level : Level) : Bool :=
  t.level?.any fun most => level.detail ≤ most.detail

/-- The threshold of a level's name, or of `off`, in any case of its letters. -/
def ofName? (name : String) : Option Threshold :=
  let name := name.map Char.toUpper
  if name = "OFF" then some off else (Level.all.find? (·.name = name)).map upTo

end Threshold

end ProgramRom.Log
