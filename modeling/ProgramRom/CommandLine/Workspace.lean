import ProgramRom.CommandLine.Host
import ProgramRom.CommandLine.Path

/-! # Workspaces

A workspace is a host in memory: a standard input and the files of one directory. Paths that lead out
of the directory reach directories above it and nothing else. -/

namespace ProgramRom.CommandLine

structure Workspace where
  input : ByteArray
  files : List (String × ByteArray)

namespace Workspace

def find? (w : Workspace) (name : String) : Option ByteArray := w.files.lookup name

/-- Sets the content of a file. -/
def put (w : Workspace) (name : String) (content : ByteArray) : Workspace :=
  { w with files := (name, content) :: w.files.filter (·.1 ≠ name) }

theorem find?_put_self (w : Workspace) (name : String) (content : ByteArray) :
    (w.put name content).find? name = some content := by
  simp [find?, put]

theorem lookup_filter_ne {name other : String} (h : other ≠ name) (files : List (String × ByteArray)) :
    (files.filter (·.1 ≠ name)).lookup other = files.lookup other := by
  induction files with
  | nil => rfl
  | cons file files ih =>
    obtain ⟨first, content⟩ := file
    by_cases hf : first = name
    · subst hf
      have hb : (other == first) = false := beq_eq_false_iff_ne.mpr h
      simpa [List.lookup_cons, hb] using ih
    · simp only [ne_eq, hf, not_false_eq_true, decide_true, List.filter_cons_of_pos, List.lookup_cons]
      cases other == first with
      | true => rfl
      | false => exact ih

theorem find?_put_of_ne (w : Workspace) {name other : String} (h : other ≠ name) (content : ByteArray) :
    (w.put name content).find? other = w.find? other := by
  have hb : (other == name) = false := beq_eq_false_iff_ne.mpr h
  simp only [find?, put, List.lookup_cons, hb]
  exact lookup_filter_ne h w.files

/-- Where the way along a path has come to. -/
inductive Spot where
  /-- The directory of the workspace. -/
  | home
  /-- A directory outside of it. -/
  | outside
  /-- A file of the workspace. -/
  | file (name : String)
deriving DecidableEq, Repr

/-- The spot where a path begins. -/
def start (path : Path) : Spot := if path.absolute then .outside else .home

/-- A name that is short enough to be looked up. -/
def checkName (name : String) : Except FileError Unit :=
  if Path.nameSizeLimit < name.utf8ByteSize then .error .nameTooLong else .ok ()

/-- Goes on by one name. -/
def enter (w : Workspace) : Spot → String → Except FileError Spot
  | .file _, _ => .error .notDirectory
  | spot, "." => .ok spot
  | _, ".." => .ok .outside
  | .outside, name => do
    checkName name
    .error .notFound
  | .home, name => do
    checkName name
    if (w.find? name).isSome then .ok (.file name) else .error .notFound

/-- Goes along all names. -/
def walk (w : Workspace) (spot : Spot) (names : List String) : Except FileError Spot := names.foldlM w.enter spot

/-- The path that a text spells. -/
def readPath (text : String) : Except FileError Path :=
  if text.isEmpty then .error .notFound
  else if Path.sizeLimit < text.utf8ByteSize then .error .nameTooLong
  else .ok (.ofText text)

def read (w : Workspace) (text : String) : Except FileError ByteArray := do
  let path ← readPath text
  match ← w.walk (start path) path.names with
  | .home | .outside => .error .isDirectory
  | .file name =>
    if path.slashed then .error .notDirectory
    else
      match w.find? name with
      | some content => .ok content
      | none => .error .notFound

/-- The name of the file that a path writes to. -/
def target (w : Workspace) (text : String) : Except FileError String := do
  let path ← readPath text
  match path.names.getLast? with
  | none => .error .isDirectory
  | some name =>
    match ← w.walk (start path) path.names.dropLast with
    | .file _ => .error .notDirectory
    | spot =>
      if Path.isDots name || path.slashed then .error .isDirectory
      else
        checkName name
        if spot = .home then .ok name else .error .notFound

def host : Host (StateM Workspace) where
  readInput := return .ok (← get).input
  readFile path := return (← get).read path
  writeFile path content := do
    let w ← get
    match w.target path with
    | .error e => return .error e
    | .ok name =>
      set (w.put name content)
      return .ok ()

end Workspace

end ProgramRom.CommandLine
