import ProgramRom.Capacity.Reading
import ProgramRom.Log.Recorded

/-! # Sizing

Capacities and estimates with the records that they leave: one for each that is found, none for a
failure. -/

namespace ProgramRom.Sizing

open Log

/-- The capacity that a text writes. -/
def capacity (text : String) : Recorded (Except Capacity.Fault UInt64) := do
  match Capacity.read text with
  | .error e => return .error e
  | .ok value =>
    record (.capacity text value)
    return .ok value

/-- The memories of a core. -/
def estimate (programCapacity dataCapacity : UInt64) (scheme : Scheme) :
    Recorded (Except Memory.Fault Memory.Estimate) := do
  match Memory.Estimate.ofCapacities programCapacity dataCapacity scheme with
  | .error e => return .error e
  | .ok estimate =>
    record (.estimated estimate)
    return .ok estimate

end ProgramRom.Sizing
