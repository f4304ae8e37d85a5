import ProgramRom.Generation

/-! # Editing sessions

A session is a text that steps change one after the other: it is reduced to its program, replaced by
the block of its program, or extended. A step that fails leaves the text as it is. -/

namespace ProgramRom.Editing

open Log

inductive Step where
  | clean
  | cleanStrict
  | generate (indent : UInt64)
  | generateStrict (indent : UInt64)
  | append (text : String)
  /-- Begin anew with a built-in program. -/
  | demo (name : String)
deriving DecidableEq, Repr

/-- What a step makes of a text, with the number of operations if it generates a block. -/
structure Change where
  text : String
  count? : Option Nat
deriving DecidableEq, Repr

inductive StepError where
  | unknownSymbol (error : UnknownSymbol)
  | limit (error : LimitError)
  | unknownName (error : UnknownName)
deriving DecidableEq, Repr

def Change.ofBlock (block : Block) : Change := ⟨block.text, some block.count⟩

def StepError.ofGeneration : GenerationError → StepError
  | .unknownSymbol e => unknownSymbol e
  | .limit e => limit e

def Step.apply (text : String) : Step → Recorded (Except StepError Change)
  | clean => do return .ok ⟨(← Program.clean text).toSource, none⟩
  | cleanStrict => return (Program.ofStrictSource text).map (⟨·.toSource, none⟩) |>.mapError .unknownSymbol
  | generate indent => do return (← ProgramRom.generate text indent).map .ofBlock |>.mapError .limit
  | generateStrict indent => do
    return (← ProgramRom.generateStrict text indent).map .ofBlock |>.mapError .ofGeneration
  | append more => return .ok ⟨text ++ more, none⟩
  | demo name => return (Demo.ofName name).map (⟨·.source, none⟩) |>.mapError .unknownName

/-- The text after a step. -/
def textAfter (text : String) : Except StepError Change → String
  | .ok change => change.text
  | .error _ => text

/-- The answers to a list of steps, each applied to the text that the ones before it left. -/
def run (text : String) : List Step → Recorded (List (Except StepError Change))
  | [] => return []
  | step :: steps => do
    let answer ← step.apply text
    return answer :: (← run (textAfter text answer) steps)

theorem value_run_cons (text : String) (step : Step) (steps : List Step) :
    (run text (step :: steps)).value =
      (step.apply text).value :: (run (textAfter text (step.apply text).value) steps).value := rfl

end ProgramRom.Editing
