import ProgramRom.Editing
import ProgramRom.CommandLine.Workspace
import ProgramRom.Main
import ProgramRom.Proofs.CaseStatement
import ProgramRom.Proofs.Layout
import ProgramRom.Proofs.GenerationOutcome
import ProgramRom.Proofs.Capacity.Value
import ProgramRom.Proofs.Capacity.Joining
import ProgramRom.Proofs.AddressWidth
import ProgramRom.Proofs.BracketStack
import ProgramRom.Proofs.Grid
import ProgramRom.Proofs.Log.Trail
import ProgramRom.Proofs.Regeneration
import ProgramRom.Proofs.Session
import ProgramRom.Proofs.Location
import ProgramRom.Proofs.Memory.Faults
import ProgramRom.Proofs.Memory.Comparison
import ProgramRom.Proofs.CommandLine.Generate
import ProgramRom.Proofs.CommandLine.Estimate
import ProgramRom.Proofs.CommandLine.Logging
import ProgramRom.Proofs.Memory.Kibibits
import ProgramRom.Proofs.Messages
