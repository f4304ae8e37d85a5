/-! # Texts without terminal control

A text that is shown may hold control characters and the sequences that steer a terminal. `visible` leaves
them out. Of the controls the blank ones stay, and of a sequence nothing stays but the blanks in its head.

A blank that stays suspends its sequence: what follows is shown, and the next control takes up the sequence
where it was left. -/

namespace ProgramRom.Text

/-- How far a control sequence has come. -/
inductive Stage where
  /-- Outside all sequences. -/
  | ground
  /-- Behind the escape character. -/
  | escape
  /-- Behind an escape character and at least one intermediate character. -/
  | intermediate
  /-- In the head of a control sequence, up to its final character. -/
  | control
  /-- At the head of a device string. -/
  | deviceEntry
  | deviceParameters
  | deviceIntermediate
  /-- In the body of a device string, or of a string for applications. -/
  | payload
  /-- In the body of a command for the operating system. -/
  | command
deriving DecidableEq, Repr

/-- What becomes of a character. -/
inductive Showing where
  | shown
  | hidden
deriving DecidableEq, Repr

namespace Stage

/-- The controls that set out text: tab, line feed, form feed and carriage return. -/
def isLayout (c : Char) : Bool := c = '\t' || c = '\n' || c = '\x0c' || c = '\r'

/-- Whether a character is shown outside of sequences. -/
def isPlain (c : Char) : Bool := isLayout c || (0x20 ≤ c.toNat && c.toNat ≠ 0x7F)

/-- Whether a character is the end of a string, or its encoding has a byte that is. -/
def endsString (c : Char) : Bool := (String.utf8EncodeChar c).contains 0x9C

/-- Behind the escape character, the kind of a sequence is told by its second character. -/
def afterEscape (c : Char) : Stage :=
  if c = '[' then control
  else if c = ']' then command
  else if c = 'P' then deviceEntry
  else if c = 'X' || c = '^' || c = '_' then payload
  else if c.toNat ≤ 0x2F then intermediate
  else ground

/-- The stage behind a printable ASCII character. -/
def afterPrintable (stage : Stage) (c : Char) : Stage :=
  match stage with
  | ground => ground
  | escape => afterEscape c
  | intermediate => if c.toNat ≤ 0x2F then intermediate else ground
  | control => if c.toNat ≤ 0x3F then control else ground
  | deviceEntry =>
    if c.toNat ≤ 0x2F then deviceIntermediate else if c.toNat ≤ 0x3F then deviceParameters else payload
  | deviceParameters =>
    if c.toNat ≤ 0x2F then deviceIntermediate else if c.toNat ≤ 0x3B then deviceParameters else payload
  | deviceIntermediate => if c.toNat ≤ 0x2F then deviceIntermediate else payload
  | payload => payload
  | command => command

/-- Whether a control has its effect within a stage. -/
def obeysControls : Stage → Bool
  | ground | escape | intermediate | control => true
  | _ => false

/-- The stage behind a character, and whether the character is shown. -/
def step (stage : Stage) (c : Char) : Stage × Showing :=
  if c = '\x18' || c = '\x1a' then (ground, .hidden)
  else if c = '\x1b' then (escape, .hidden)
  else if c.toNat < 0x20 then
    if stage = command && c = '\x07' then (ground, .hidden)
    else (stage, if stage.obeysControls && isLayout c then .shown else .hidden)
  else if c = '\x7f' then (stage, .hidden)
  else if c.toNat < 0x7F then (stage.afterPrintable c, if stage = ground then .shown else .hidden)
  else
    match stage with
    | ground => (ground, .shown)
    | payload => (if endsString c then ground else payload, .hidden)
    | _ => (stage, .hidden)

end Stage

/-- The characters that are shown, beginning in a stage that is suspended or not. -/
def visibleFrom (stage : Stage) (suspended : Bool) : List Char → List Char
  | [] => []
  | c :: cs =>
    if suspended && Stage.isPlain c then
      c :: visibleFrom (if c.toNat < 0x80 then stage else .ground) true cs
    else
      match stage.step c with
      | (next, .shown) => c :: visibleFrom next true cs
      | (next, .hidden) => visibleFrom next false cs

/-- A text as it is shown, without the control of a terminal. -/
def visible (text : String) : String := String.ofList (visibleFrom .ground false text.toList)

end ProgramRom.Text
