import ProgramRom.Capacity.Expression
import ProgramRom.Text.Numeral
import ProgramRom.Text.Quoted

/-! # Reading capacities

A text is read from its front. A reader takes off what it reads and leaves the rest, or it refuses and
nothing is taken. Runs of spaces and of digits are taken whole. A term is read as a power, or else as a
hexadecimal number, or else as a decimal number with a scale, and what was read is not read again in
another way. Only the space and the tab count as spaces. -/

namespace ProgramRom.Capacity

/-- Why a text is no capacity. -/
inductive Fault where
  /-- The text is no expression. -/
  | invalid (text : String)
  /-- The text is an expression, and some number of it fits no word. -/
  | overflow (text : String)
deriving DecidableEq, Repr

def Fault.message : Fault → String
  | invalid text => "Invalid capacity: " ++ Text.quoteString text
  | overflow text => "Capacity arithmetic out of range: " ++ text

def isSpace (c : Char) : Bool := c = ' ' || c = '\t'

/-- A text without the spaces at its front. -/
def skipSpaces (cs : List Char) : List Char := cs.dropWhile isSpace

def Sign.ofSymbol? : Char → Option Sign
  | '+' => some plus
  | '-' => some minus
  | _ => none

def Scale.ofSymbol? : Char → Option Scale
  | 'k' | 'K' => some kibi
  | 'm' | 'M' => some mebi
  | _ => none

/-! ### Readers -/

/-- The number that the run of digits at the front of a text writes. -/
def readNumeral? (base : Nat) (isDigit : Char → Bool) (cs : List Char) : Option (Nat × List Char) :=
  (Text.numeral? base isDigit (cs.takeWhile isDigit)).map (·, cs.dropWhile isDigit)

def readDecimal? : List Char → Option (Nat × List Char) := readNumeral? 10 Char.isDigit

def readHexadecimal? : List Char → Option (Nat × List Char) := readNumeral? 16 Text.isHexDigit

/-- The scale at the front of a text. Without a letter for it the scale is one. -/
def readScale : List Char → Scale × List Char
  | [] => (.one, [])
  | c :: cs =>
    match Scale.ofSymbol? c with
    | some scale => (scale, cs)
    | none => (.one, c :: cs)

namespace Term

def readPower? (cs : List Char) : Option (Term × List Char) := do
  let (base, cs) ← readDecimal? cs
  match skipSpaces cs with
  | '^' :: cs =>
    let (exponent, cs) ← readDecimal? (skipSpaces cs)
    return (power base exponent, cs)
  | _ => none

def readMarked? : List Char → Option (Term × List Char)
  | '0' :: 'x' :: cs | '0' :: 'X' :: cs => do
    let (value, cs) ← readHexadecimal? cs
    return (hexadecimal value, cs)
  | _ => none

def readScaled? (cs : List Char) : Option (Term × List Char) := do
  let (value, cs) ← readDecimal? cs
  let (scale, cs) := readScale cs
  return (scaled value scale, cs)

/-- Powers and hexadecimal numbers begin with digits too, so they are tried first. -/
def read? (cs : List Char) : Option (Term × List Char) :=
  (readPower? cs).or ((readMarked? cs).or (readScaled? cs))

end Term

/-- A sign and the term behind it. -/
def readPart? (cs : List Char) : Option ((Sign × Term) × List Char) :=
  match skipSpaces cs with
  | [] => none
  | c :: cs => do
    let sign ← Sign.ofSymbol? c
    let (term, cs) ← Term.read? (skipSpaces cs)
    return ((sign, term), cs)

/-! ### What the readers take -/

theorem skipSpaces_suffix (cs : List Char) : skipSpaces cs <:+ cs :=
  List.dropWhile_suffix isSpace

theorem readNumeral?_suffix {base value : Nat} {isDigit : Char → Bool} {cs rest : List Char}
    (h : readNumeral? base isDigit cs = some (value, rest)) : rest <:+ cs := by
  obtain ⟨_, -, heq⟩ := Option.map_eq_some_iff.mp h
  cases heq
  exact List.dropWhile_suffix isDigit

theorem readScale_suffix (cs : List Char) : (readScale cs).2 <:+ cs := by
  unfold readScale
  split
  · exact List.suffix_refl []
  · rename_i c cs
    split
    · exact List.suffix_cons c cs
    · exact List.suffix_refl _

namespace Term

theorem readPower?_eq_some_iff {cs rest : List Char} {t : Term} :
    readPower? cs = some (t, rest) ↔
      ∃ base mid after exponent, readDecimal? cs = some (base, mid) ∧ skipSpaces mid = '^' :: after ∧
        readDecimal? (skipSpaces after) = some (exponent, rest) ∧ t = power base exponent := by
  constructor
  · intro h
    obtain ⟨⟨base, mid⟩, hbase, h⟩ := Option.bind_eq_some_iff.mp h
    dsimp only at h
    split at h
    · rename_i after hcaret
      obtain ⟨⟨exponent, rest'⟩, hexponent, heq⟩ := Option.bind_eq_some_iff.mp h
      cases heq
      exact ⟨base, mid, after, exponent, hbase, hcaret, hexponent, rfl⟩
    · cases h
  · rintro ⟨base, mid, after, exponent, hbase, hcaret, hexponent, rfl⟩
    simp [readPower?, hbase, hcaret, hexponent]

theorem readMarked?_eq_some_iff {cs rest : List Char} {t : Term} :
    readMarked? cs = some (t, rest) ↔
      ∃ mark digits value, (mark = 'x' ∨ mark = 'X') ∧ cs = '0' :: mark :: digits ∧
        readHexadecimal? digits = some (value, rest) ∧ t = hexadecimal value := by
  constructor
  · intro h
    unfold readMarked? at h
    split at h
    · rename_i digits
      obtain ⟨⟨value, rest'⟩, hvalue, heq⟩ := Option.bind_eq_some_iff.mp h
      cases heq
      exact ⟨'x', digits, value, Or.inl rfl, rfl, hvalue, rfl⟩
    · rename_i digits
      obtain ⟨⟨value, rest'⟩, hvalue, heq⟩ := Option.bind_eq_some_iff.mp h
      cases heq
      exact ⟨'X', digits, value, Or.inr rfl, rfl, hvalue, rfl⟩
    · cases h
  · rintro ⟨mark, digits, value, rfl | rfl, rfl, hvalue, rfl⟩
    · simp [readMarked?, hvalue]
    · simp [readMarked?, hvalue]

theorem readScaled?_eq_some_iff {cs rest : List Char} {t : Term} :
    readScaled? cs = some (t, rest) ↔
      ∃ value mid, readDecimal? cs = some (value, mid) ∧ (readScale mid).2 = rest ∧
        t = scaled value (readScale mid).1 := by
  constructor
  · intro h
    obtain ⟨⟨value, mid⟩, hvalue, heq⟩ := Option.bind_eq_some_iff.mp h
    cases heq
    exact ⟨value, mid, hvalue, rfl, rfl⟩
  · rintro ⟨value, mid, hvalue, rfl, rfl⟩
    simp [readScaled?, hvalue]

theorem read?_suffix {cs rest : List Char} {t : Term} (h : read? cs = some (t, rest)) : rest <:+ cs := by
  rcases Option.or_eq_some_iff.mp h with h | ⟨-, h⟩
  · obtain ⟨base, mid, after, exponent, hbase, hcaret, hexponent, -⟩ := readPower?_eq_some_iff.mp h
    have hafter : after <:+ skipSpaces mid := hcaret ▸ List.suffix_cons '^' after
    exact (readNumeral?_suffix hexponent).trans ((skipSpaces_suffix after).trans
      (hafter.trans ((skipSpaces_suffix mid).trans (readNumeral?_suffix hbase))))
  rcases Option.or_eq_some_iff.mp h with h | ⟨-, h⟩
  · obtain ⟨mark, digits, value, -, rfl, hvalue, -⟩ := readMarked?_eq_some_iff.mp h
    exact (readNumeral?_suffix hvalue).trans ((List.suffix_cons _ _).trans (List.suffix_cons _ _))
  · obtain ⟨value, mid, hvalue, rfl, -⟩ := readScaled?_eq_some_iff.mp h
    exact (readScale_suffix mid).trans (readNumeral?_suffix hvalue)

end Term

theorem readPart?_eq_some_iff {cs rest : List Char} {part : Sign × Term} :
    readPart? cs = some (part, rest) ↔
      ∃ c after, skipSpaces cs = c :: after ∧ Sign.ofSymbol? c = some part.1 ∧
        Term.read? (skipSpaces after) = some (part.2, rest) := by
  constructor
  · intro h
    unfold readPart? at h
    split at h
    · cases h
    · rename_i c after hcs
      obtain ⟨sign, hsign, h⟩ := Option.bind_eq_some_iff.mp h
      obtain ⟨⟨term, rest'⟩, hterm, heq⟩ := Option.bind_eq_some_iff.mp h
      cases heq
      exact ⟨c, after, hcs, hsign, hterm⟩
  · rintro ⟨c, after, hcs, hsign, hterm⟩
    simp [readPart?, hcs, hsign, hterm]

/-- A part takes at least its sign. -/
theorem readPart?_length_lt {cs rest : List Char} {part : Sign × Term} (h : readPart? cs = some (part, rest)) :
    rest.length < cs.length := by
  obtain ⟨c, after, hcs, -, hterm⟩ := readPart?_eq_some_iff.mp h
  have hrest : rest.length ≤ after.length :=
    ((Term.read?_suffix hterm).trans (skipSpaces_suffix after)).length_le
  have hafter : (c :: after).length ≤ cs.length := hcs ▸ (skipSpaces_suffix cs).length_le
  exact Nat.lt_of_le_of_lt hrest hafter

/-! ### Expressions -/

/-- As many parts as can be read, one after the other. -/
def readParts (cs : List Char) : List (Sign × Term) × List Char :=
  match _h : readPart? cs with
  | none => ([], cs)
  | some (part, rest) =>
    let (parts, rest) := readParts rest
    (part :: parts, rest)
termination_by cs.length
decreasing_by exact readPart?_length_lt _h

theorem readParts_of_none {cs : List Char} (h : readPart? cs = none) : readParts cs = ([], cs) := by
  rw [readParts]
  split
  · rfl
  · simp_all

theorem readParts_of_some {cs rest : List Char} {part : Sign × Term} (h : readPart? cs = some (part, rest)) :
    readParts cs = (part :: (readParts rest).1, (readParts rest).2) := by
  rw [readParts]
  split
  · simp_all
  · simp_all

/-- The expression that a text writes, spaces around it left out. Nothing may be left over. -/
def Expression.ofText? (text : String) : Option Expression := do
  let (first, cs) ← Term.read? (skipSpaces text.toList)
  let (rest, cs) := readParts cs
  if (skipSpaces cs).isEmpty then return ⟨first, rest⟩ else none

/-- The capacity that a text writes. That the text is no expression is reported before any overflow. -/
def read (text : String) : Except Fault UInt64 :=
  match Expression.ofText? text with
  | none => .error (.invalid text)
  | some e =>
    match e.value? with
    | none => .error (.overflow text)
    | some value => .ok value

end ProgramRom.Capacity
