/-! # Hosts

A run asks its host for the standard input and for files, and to write a file. A write either fails
before it changes anything or completes. -/

namespace ProgramRom.CommandLine

/-- Why a file cannot be read or written. -/
inductive FileError where
  | notFound
  | isDirectory
  | notDirectory
  | nameTooLong
  /-- The bytes are no text. -/
  | notText
  | other (reason : String)
deriving DecidableEq, Repr

def FileError.message : FileError → String
  | notFound => "No such file or directory (os error 2)"
  | isDirectory => "Is a directory (os error 21)"
  | notDirectory => "Not a directory (os error 20)"
  | nameTooLong => "File name too long (os error 36)"
  | notText => "stream did not contain valid UTF-8"
  | other reason => reason

structure Host (m : Type → Type) where
  readInput : m (Except FileError ByteArray)
  readFile : (path : String) → m (Except FileError ByteArray)
  writeFile : (path : String) → (content : ByteArray) → m (Except FileError Unit)

/-- The text that bytes encode. -/
def decodeText (bytes : ByteArray) : Except FileError String :=
  match String.fromUTF8? bytes with
  | some text => .ok text
  | none => .error .notText

end ProgramRom.CommandLine
