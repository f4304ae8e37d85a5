import ProgramRom.CommandLine.Run

/-! # The program

Runs the command line against the files of the system. -/

namespace ProgramRom.CommandLine

/-- The error that the system reports. Its codes come with either sign. -/
def FileError.ofSystem : IO.Error → FileError
  | .noFileOrDirectory .. => .notFound
  | .inappropriateType _ code _ => if code = 20 || code + 20 = 0 then .notDirectory else .isDirectory
  | .invalidArgument _ code details =>
    if code = 36 || code + 36 = 0 then .nameTooLong else .other details
  | error => .other (toString error)

/-- All bytes of a stream, after those that were read already. -/
partial def readAll (stream : IO.FS.Stream) (bytes : ByteArray) : IO ByteArray := do
  let more ← stream.read 65536
  if more.isEmpty then return bytes else readAll stream (bytes ++ more)

/-- The result of an action on files, errors included. -/
def attempt {α : Type} (action : IO α) : IO (Except FileError α) := do
  match ← action.toBaseIO with
  | .ok a => return .ok a
  | .error e => return .error (.ofSystem e)

def systemHost : Host IO where
  readInput := attempt do readAll (← IO.getStdin) .empty
  readFile path := attempt (IO.FS.readBinFile path)
  writeFile path content := attempt (IO.FS.writeBinFile path content)

end ProgramRom.CommandLine

open ProgramRom.CommandLine in
/-- Shows the outcome of a run and returns its exit code. -/
def main (args : List String) : IO UInt32 := do
  let outcome ← run systemHost args (← IO.getEnv "RUST_LOG")
  IO.print outcome.stdout
  IO.eprint outcome.stderr
  return outcome.exitCode
