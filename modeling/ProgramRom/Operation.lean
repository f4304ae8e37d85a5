/-! # Operations

The interpreter core executes eight operations. Program memory holds one word per operation, and that
word is the code of the character the operation is written as: the codes are the one table, and a source
character is looked up by its code. -/

namespace ProgramRom

/-- An operation of the interpreter core. -/
inductive Operation where
  | increment
  | decrement
  | moveRight
  | moveLeft
  | output
  | input
  | jumpForward
  | jumpBackward
deriving DecidableEq, Repr

/-- The word of every address past the end of a program. No operation has it. -/
def nopCode : UInt8 := 0x00

namespace Operation

/-- The operations in the order in which they are listed. -/
def all : List Operation :=
  [increment, decrement, moveRight, moveLeft, output, input, jumpForward, jumpBackward]

/-- The word program memory holds for an operation. -/
def code : Operation → UInt8
  | increment => 0x2B
  | decrement => 0x2D
  | moveRight => 0x3E
  | moveLeft => 0x3C
  | output => 0x2E
  | input => 0x2C
  | jumpForward => 0x5B
  | jumpBackward => 0x5D

/-- The source character an operation is written as: the one whose code is the operation's word. -/
def symbol (op : Operation) : Char :=
  Char.ofUInt8 op.code

/-- The operation with a given word, if there is one. -/
def ofCode? (code : UInt8) : Option Operation :=
  all.find? (·.code = code)

/-- The code of a character as a word. Wider codes are refused, not cut off. -/
def word? (c : Char) : Option UInt8 :=
  if c.toNat < UInt8.size then some c.toUInt8 else none

/-- The operation a source character stands for; every other character is a comment. -/
def ofSymbol? (c : Char) : Option Operation := do
  ofCode? (← word? c)

def mnemonic : Operation → String
  | increment => "Increment"
  | decrement => "Decrement"
  | moveRight => "MoveRight"
  | moveLeft => "MoveLeft"
  | output => "Output"
  | input => "Input"
  | jumpForward => "JumpForward"
  | jumpBackward => "JumpBackward"

/-! ### Codes determine operations -/

theorem mem_all (op : Operation) : op ∈ all := by
  cases op <;> decide

@[simp] theorem ofCode?_code (op : Operation) : ofCode? op.code = some op := by
  cases op <;> rfl

@[simp] theorem ofCode?_nopCode : ofCode? nopCode = none := rfl

theorem ofCode?_eq_some_iff {word : UInt8} {op : Operation} : ofCode? word = some op ↔ op.code = word := by
  constructor
  · intro h
    simpa using List.find?_some h
  · rintro rfl
    exact ofCode?_code op

/-! ### Symbols determine operations -/

theorem toNat_ofUInt8 (word : UInt8) : (Char.ofUInt8 word).toNat = word.toNat :=
  UInt8.toNat_toUInt32 word

theorem toUInt8_ofUInt8 (word : UInt8) : (Char.ofUInt8 word).toUInt8 = word :=
  UInt8.toUInt8_toUInt32 word

theorem ofUInt8_toUInt8 {c : Char} (h : c.toNat < UInt8.size) : Char.ofUInt8 c.toUInt8 = c := by
  have hword : c.toUInt8.toNat = c.toNat := by
    simp only [Char.toUInt8, UInt32.toNat_toUInt8]
    exact Nat.mod_eq_of_lt h
  rw [← Char.toNat_inj, toNat_ofUInt8, hword]

/-- A character has a word only where that word leads back to it, so no wide character stands for a narrow one. -/
theorem word?_eq_some_iff {c : Char} {word : UInt8} : word? c = some word ↔ Char.ofUInt8 word = c := by
  constructor
  · intro h
    obtain ⟨hc, hword⟩ := Option.ite_none_right_eq_some.mp h
    rw [← Option.some.inj hword, ofUInt8_toUInt8 hc]
  · rintro rfl
    have hc : (Char.ofUInt8 word).toNat < UInt8.size := by
      rw [toNat_ofUInt8]
      exact word.toNat_lt
    rw [word?, if_pos hc, toUInt8_ofUInt8]

theorem ofSymbol?_eq_some_iff {c : Char} {op : Operation} : ofSymbol? c = some op ↔ op.symbol = c := by
  simp only [ofSymbol?, Option.bind_eq_bind, Option.bind_eq_some_iff, word?_eq_some_iff, ofCode?_eq_some_iff]
  constructor
  · rintro ⟨_, rfl, rfl⟩
    rfl
  · rintro rfl
    exact ⟨op.code, rfl, rfl⟩

theorem symbol_of_ofSymbol? {c : Char} {op : Operation} (h : ofSymbol? c = some op) : op.symbol = c :=
  ofSymbol?_eq_some_iff.mp h

@[simp] theorem ofSymbol?_symbol (op : Operation) : ofSymbol? op.symbol = some op :=
  ofSymbol?_eq_some_iff.mpr rfl

theorem code_toNat (op : Operation) : op.code.toNat = op.symbol.toNat :=
  (toNat_ofUInt8 op.code).symm

end Operation

/-- A word that is the code of no operation. -/
structure UnknownCode where
  code : UInt8
deriving DecidableEq, Repr

def UnknownCode.message (e : UnknownCode) : String :=
  s!"No discriminant in enum `Operation` matches the value `{e.code.toNat}`"

/-- The operation with a given word, or the word itself as the reason why there is none. -/
def Operation.ofCode (code : UInt8) : Except UnknownCode Operation :=
  match ofCode? code with
  | some op => .ok op
  | none => .error ⟨code⟩

end ProgramRom
