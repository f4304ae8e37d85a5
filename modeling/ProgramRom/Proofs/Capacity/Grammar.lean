import Mathlib.Data.List.Basic
import ProgramRom.Capacity.Reading
import ProgramRom.Proofs.Runs

/-! # The grammar of capacities

    text := sp expr sp
    expr := term (sp ('+' | '-') sp term)*
    term := D sp '^' sp D | '0' ('x' | 'X') H | D ('k' | 'K' | 'm' | 'M')?

Here `D` and `H` are runs of at least one digit, decimal and hexadecimal, and `sp` is a run of spaces. A
derivation is a tree of the grammar with every character of its text in place. No text has two derivations:
what stands behind the first digits of a term tells which rule it follows, and what can stand behind a term
goes on with none of its runs. -/

namespace ProgramRom.Capacity.Grammar

/-! ### Derivations -/

/-- A run of spaces. -/
@[ext] structure Gap where
  chars : List Char
  spaces : ∀ c ∈ chars, isSpace c = true

/-- A run of digits. -/
@[ext] structure Digits (isDigit : Char → Bool) where
  chars : List Char
  nonempty : chars ≠ []
  digits : ∀ c ∈ chars, isDigit c = true

def Gap.ofChars (cs : List Char) (h : cs.all isSpace = true) : Gap := ⟨cs, List.all_eq_true.mp h⟩

def Digits.ofChars {isDigit : Char → Bool} (c : Char) (cs : List Char) (h : (c :: cs).all isDigit = true) :
    Digits isDigit :=
  ⟨c :: cs, List.cons_ne_nil c cs, List.all_eq_true.mp h⟩

/-- The letter that marks a hexadecimal number. -/
@[ext] structure Mark where
  symbol : Char
  letter : symbol = 'x' ∨ symbol = 'X'

/-- The letter of a scale. -/
@[ext] structure Letter where
  symbol : Char
  letter : symbol = 'k' ∨ symbol = 'K' ∨ symbol = 'm' ∨ symbol = 'M'

inductive TermForm where
  | power (base : Digits Char.isDigit) (before after : Gap) (exponent : Digits Char.isDigit)
  | hexadecimal (mark : Mark) (digits : Digits Text.isHexDigit)
  | scaled (digits : Digits Char.isDigit) (letter : Option Letter)

/-- A sign, with spaces around it, and the term behind it. -/
@[ext] structure PartForm where
  before : Gap
  sign : Sign
  after : Gap
  term : TermForm

@[ext] structure Derivation where
  before : Gap
  first : TermForm
  rest : List PartForm
  after : Gap

end Grammar

/-! ### The text of a derivation -/

def Sign.symbol : Sign → Char
  | plus => '+'
  | minus => '-'

@[simp] theorem Sign.ofSymbol?_symbol (s : Sign) : ofSymbol? s.symbol = some s := by
  cases s <;> rfl

theorem Sign.symbol_of_ofSymbol? {c : Char} {s : Sign} (h : ofSymbol? c = some s) : s.symbol = c := by
  unfold ofSymbol? at h
  split at h <;> cases h <;> rfl

namespace Grammar

open Text

def TermForm.text : TermForm → List Char
  | power base before after exponent => base.chars ++ (before.chars ++ '^' :: (after.chars ++ exponent.chars))
  | hexadecimal mark digits => '0' :: mark.symbol :: digits.chars
  | scaled digits letter => digits.chars ++ (letter.map Letter.symbol).toList

def PartForm.text (p : PartForm) : List Char :=
  p.before.chars ++ p.sign.symbol :: (p.after.chars ++ p.term.text)

def Derivation.text (d : Derivation) : List Char :=
  d.before.chars ++ (d.first.text ++ (d.rest.flatMap PartForm.text ++ d.after.chars))

/-! ### Spaces -/

theorem skipSpaces_gap (g : Gap) {rest : List Char} (h : Stops isSpace rest) :
    skipSpaces (g.chars ++ rest) = rest :=
  dropWhile_run g.spaces h

theorem skipSpaces_of_stops {rest : List Char} (h : Stops isSpace rest) : skipSpaces rest = rest :=
  skipSpaces_gap (.ofChars [] rfl) h

theorem skipSpaces_chars (g : Gap) : skipSpaces g.chars = [] := by
  have h : skipSpaces (g.chars ++ []) = [] := skipSpaces_gap g stops_nil
  rwa [List.append_nil] at h

theorem isSpace_iff {c : Char} : isSpace c = true ↔ c = ' ' ∨ c = '\t' := by
  simp [isSpace]

/-- No digit is taken for a space. -/
theorem stops_isSpace_digits {run : List Char} (hne : run ≠ []) (h : ∀ c ∈ run, c.isDigit = true)
    (rest : List Char) : Stops isSpace (run ++ rest) := by
  intro c hc
  rw [List.head?_append_of_ne_nil _ hne] at hc
  have hdigit := h c (List.mem_of_head? hc)
  rw [Bool.eq_false_iff]
  intro hspace
  rcases isSpace_iff.mp hspace with rfl | rfl <;> cases hdigit

/-! ### What stands behind a term -/

/-- What can stand behind a term: spaces, and then a sign or the end. -/
def Follows (rest : List Char) : Prop := ∀ c, (skipSpaces rest).head? = some c → c = '+' ∨ c = '-'

theorem Follows.head {rest : List Char} (h : Follows rest) {c : Char} (hc : rest.head? = some c) :
    c = ' ' ∨ c = '\t' ∨ c = '+' ∨ c = '-' := by
  by_cases hspace : isSpace c = true
  · rcases isSpace_iff.mp hspace with rfl | rfl
    · exact Or.inl rfl
    · exact Or.inr (Or.inl rfl)
  · have hstops : Stops isSpace rest := fun c' hc' => by
      rw [hc] at hc'
      cases hc'
      simpa using hspace
    have hskip : (skipSpaces rest).head? = some c := by rw [skipSpaces_of_stops hstops, hc]
    exact Or.inr (Or.inr (h c hskip))

/-- No run of a term goes on in what follows it. -/
theorem Follows.stops {rest : List Char} (h : Follows rest) {kind : Char → Bool}
    (hkind : kind ' ' = false ∧ kind '\t' = false ∧ kind '+' = false ∧ kind '-' = false) : Stops kind rest := by
  intro c hc
  rcases h.head hc with rfl | rfl | rfl | rfl
  · exact hkind.1
  · exact hkind.2.1
  · exact hkind.2.2.1
  · exact hkind.2.2.2

theorem Follows.isDigit {rest : List Char} (h : Follows rest) : Stops Char.isDigit rest :=
  h.stops ⟨rfl, rfl, rfl, rfl⟩

theorem Follows.isHexDigit {rest : List Char} (h : Follows rest) : Stops Text.isHexDigit rest :=
  h.stops ⟨rfl, rfl, rfl, rfl⟩

/-- No letter of a scale is taken for what follows a term. -/
theorem Follows.ne_letter {rest rest' : List Char} (h : Follows rest) (l : Letter) : rest ≠ l.symbol :: rest' := by
  rintro rfl
  rcases l with ⟨_, rfl | rfl | rfl | rfl⟩ <;> exact absurd (h.head rfl) (by decide)

theorem Follows.gap (g : Gap) : Follows g.chars := fun c hc => by
  rw [skipSpaces_chars] at hc
  cases hc

theorem symbol_eq (s : Sign) : s.symbol = '+' ∨ s.symbol = '-' := by
  cases s
  · exact Or.inl rfl
  · exact Or.inr rfl

theorem not_isSpace_symbol (s : Sign) : isSpace s.symbol = false := by
  cases s <;> rfl

theorem Follows.part (p : PartForm) (rest : List Char) : Follows (p.text ++ rest) := by
  intro c hc
  rw [PartForm.text, List.append_assoc, List.cons_append,
    skipSpaces_gap p.before (stops_cons (not_isSpace_symbol p.sign))] at hc
  cases hc
  exact symbol_eq p.sign

theorem Follows.parts (ps : List PartForm) (g : Gap) : Follows (ps.flatMap PartForm.text ++ g.chars) := by
  cases ps with
  | nil => exact .gap g
  | cons p ps =>
    rw [List.flatMap_cons, List.append_assoc]
    exact .part p _

/-! ### The first digits of a term -/

namespace TermForm

/-- The digits at the front of a term. -/
def lead : TermForm → List Char
  | power base _ _ _ => base.chars
  | hexadecimal _ _ => ['0']
  | scaled digits _ => digits.chars

/-- What a term has behind its first digits. -/
def behind : TermForm → List Char
  | power _ before after exponent => before.chars ++ '^' :: (after.chars ++ exponent.chars)
  | hexadecimal mark digits => mark.symbol :: digits.chars
  | scaled _ letter => (letter.map Letter.symbol).toList

theorem text_eq (f : TermForm) : f.text = f.lead ++ f.behind := by
  cases f <;> rfl

theorem lead_ne_nil (f : TermForm) : f.lead ≠ [] := by
  cases f with
  | power base _ _ _ => exact base.nonempty
  | hexadecimal _ _ => exact List.cons_ne_nil _ _
  | scaled digits _ => exact digits.nonempty

theorem isDigit_lead (f : TermForm) : ∀ c ∈ f.lead, c.isDigit = true := by
  cases f with
  | power base _ _ _ => exact base.digits
  | hexadecimal _ _ =>
    intro c hc
    obtain rfl := List.mem_singleton.mp hc
    decide
  | scaled digits _ => exact digits.digits

theorem stops_isDigit_behind (f : TermForm) {rest : List Char} (h : Follows rest) :
    Stops Char.isDigit (f.behind ++ rest) := by
  cases f with
  | power base before after exponent =>
    have hgap : Stops Char.isDigit before.chars := fun c hc => by
      rcases isSpace_iff.mp (before.spaces c (List.mem_of_head? hc)) with rfl | rfl <;> rfl
    rw [behind, List.append_assoc]
    exact stops_append hgap (stops_cons rfl)
  | hexadecimal mark digits =>
    rcases mark with ⟨_, rfl | rfl⟩
    · exact stops_cons rfl
    · exact stops_cons rfl
  | scaled digits letter =>
    rcases letter with _ | ⟨_, rfl | rfl | rfl | rfl⟩
    · exact h.isDigit
    all_goals exact stops_cons rfl

/-- The digits at the front of a term are all the digits there. -/
theorem takeWhile_text (f : TermForm) {rest : List Char} (h : Follows rest) :
    (f.text ++ rest).takeWhile Char.isDigit = f.lead := by
  rw [text_eq, List.append_assoc, takeWhile_run f.isDigit_lead (f.stops_isDigit_behind h)]

theorem dropWhile_text (f : TermForm) {rest : List Char} (h : Follows rest) :
    (f.text ++ rest).dropWhile Char.isDigit = f.behind ++ rest := by
  rw [text_eq, List.append_assoc, dropWhile_run f.isDigit_lead (f.stops_isDigit_behind h)]

theorem stops_isSpace_text (f : TermForm) (rest : List Char) : Stops isSpace (f.text ++ rest) := by
  rw [text_eq, List.append_assoc]
  exact stops_isSpace_digits f.lead_ne_nil f.isDigit_lead _

end TermForm

/-! ### The character that tells the rules apart -/

inductive Rule where
  | power
  | hexadecimal
  | scaled

/-- The rule of a term with a given character behind its first digits and the spaces there. -/
def Rule.ofNext : Option Char → Rule
  | some '^' => power
  | some 'x' | some 'X' => hexadecimal
  | _ => scaled

namespace TermForm

def rule : TermForm → Rule
  | power _ _ _ _ => .power
  | hexadecimal _ _ => .hexadecimal
  | scaled _ _ => .scaled

/-- The first character behind the digits of a term and the spaces there. -/
def next (f : TermForm) (rest : List Char) : Option Char := (skipSpaces (f.behind ++ rest)).head?

theorem skipSpaces_behind_power (base : Digits Char.isDigit) (before after : Gap)
    (exponent : Digits Char.isDigit) (rest : List Char) :
    skipSpaces ((power base before after exponent).behind ++ rest) =
      '^' :: (after.chars ++ (exponent.chars ++ rest)) := by
  rw [behind, List.append_assoc, List.cons_append, List.append_assoc,
    skipSpaces_gap before (stops_cons rfl)]

theorem next_power (base : Digits Char.isDigit) (before after : Gap) (exponent : Digits Char.isDigit)
    (rest : List Char) : (power base before after exponent).next rest = some '^' := by
  rw [next, skipSpaces_behind_power, List.head?_cons]

theorem next_hexadecimal (mark : Mark) (digits : Digits Text.isHexDigit) (rest : List Char) :
    (hexadecimal mark digits).next rest = some mark.symbol := by
  rcases mark with ⟨_, rfl | rfl⟩ <;> rfl

/-- Behind the digits of a number stands the letter of its scale, a sign, or nothing. -/
theorem next_scaled {digits : Digits Char.isDigit} {letter : Option Letter} {rest : List Char}
    (h : Follows rest) {c : Char} (hc : (scaled digits letter).next rest = some c) :
    c = 'k' ∨ c = 'K' ∨ c = 'm' ∨ c = 'M' ∨ c = '+' ∨ c = '-' := by
  rcases letter with _ | ⟨_, rfl | rfl | rfl | rfl⟩
  · rcases h c hc with rfl | rfl
    · simp
    · simp
  all_goals
    cases hc
    simp

theorem rule_eq (f : TermForm) {rest : List Char} (h : Follows rest) : f.rule = .ofNext (f.next rest) := by
  cases f with
  | power base before after exponent =>
    rw [next_power]
    rfl
  | hexadecimal mark digits =>
    rw [next_hexadecimal]
    rcases mark with ⟨_, rfl | rfl⟩ <;> rfl
  | scaled digits letter =>
    cases hc : (scaled digits letter).next rest with
    | none => rfl
    | some c => rcases next_scaled h hc with rfl | rfl | rfl | rfl | rfl | rfl <;> rfl

/-! ### Uniqueness -/

/-- A term at the front of a text ends in one place, and it is read in one way. -/
theorem text_unique {f f' : TermForm} {rest rest' : List Char} (h : Follows rest) (h' : Follows rest')
    (heq : f.text ++ rest = f'.text ++ rest') : f = f' ∧ rest = rest' := by
  have hlead : f.lead = f'.lead := by rw [← f.takeWhile_text h, heq, f'.takeWhile_text h']
  have hbehind : f.behind ++ rest = f'.behind ++ rest' := by
    rw [← f.dropWhile_text h, heq, f'.dropWhile_text h']
  have hrule : f.rule = f'.rule := by rw [f.rule_eq h, f'.rule_eq h', next, next, hbehind]
  cases f with
  | power base before after exponent =>
    cases f' with
    | power base' before' after' exponent' =>
      simp only [behind, List.append_assoc, List.cons_append] at hbehind
      obtain ⟨hbefore, hcaret⟩ := run_unique before.spaces before'.spaces (stops_cons rfl)
        (stops_cons rfl) hbehind
      obtain ⟨hafter, hrest⟩ := run_unique after.spaces after'.spaces
        (stops_isSpace_digits exponent.nonempty exponent.digits rest)
        (stops_isSpace_digits exponent'.nonempty exponent'.digits rest') (List.cons.inj hcaret).2
      obtain ⟨hexp, hrest⟩ := run_unique exponent.digits exponent'.digits h.isDigit h'.isDigit hrest
      exact ⟨by rw [Digits.ext hlead, Gap.ext hbefore, Gap.ext hafter, Digits.ext hexp], hrest⟩
    | hexadecimal _ _ => cases hrule
    | scaled _ _ => cases hrule
  | hexadecimal mark digits =>
    cases f' with
    | power _ _ _ _ => cases hrule
    | hexadecimal mark' digits' =>
      obtain ⟨hmark, hrest⟩ := List.cons.inj hbehind
      obtain ⟨hhex, hrest⟩ := run_unique digits.digits digits'.digits h.isHexDigit h'.isHexDigit hrest
      exact ⟨by rw [Mark.ext hmark, Digits.ext hhex], hrest⟩
    | scaled _ _ => cases hrule
  | scaled digits letter =>
    cases f' with
    | power _ _ _ _ => cases hrule
    | hexadecimal _ _ => cases hrule
    | scaled digits' letter' =>
      cases letter with
      | none =>
        cases letter' with
        | none => exact ⟨by rw [Digits.ext hlead], hbehind⟩
        | some l' => exact absurd hbehind (h.ne_letter l')
      | some l =>
        cases letter' with
        | none => exact absurd hbehind.symm (h'.ne_letter l)
        | some l' =>
          obtain ⟨hl, hrest⟩ := List.cons.inj hbehind
          exact ⟨by rw [Digits.ext hlead, Letter.ext hl], hrest⟩

end TermForm

theorem PartForm.text_unique {p p' : PartForm} {rest rest' : List Char} (h : Follows rest) (h' : Follows rest')
    (heq : p.text ++ rest = p'.text ++ rest') : p = p' ∧ rest = rest' := by
  simp only [PartForm.text, List.append_assoc, List.cons_append] at heq
  obtain ⟨hbefore, hsign⟩ := run_unique p.before.spaces p'.before.spaces
    (stops_cons (not_isSpace_symbol p.sign)) (stops_cons (not_isSpace_symbol p'.sign)) heq
  obtain ⟨hsymbol, heq⟩ := List.cons.inj hsign
  obtain ⟨hafter, heq⟩ := run_unique p.after.spaces p'.after.spaces (p.term.stops_isSpace_text rest)
    (p'.term.stops_isSpace_text rest') heq
  obtain ⟨hterm, hrest⟩ := TermForm.text_unique h h' heq
  have hs : some p.sign = some p'.sign := by
    rw [← Sign.ofSymbol?_symbol, hsymbol, Sign.ofSymbol?_symbol]
  exact ⟨PartForm.ext (Gap.ext hbefore) (Option.some.inj hs) (Gap.ext hafter) hterm, hrest⟩

/-- A part holds its sign, so it cannot be taken for the spaces at the end. -/
theorem Gap.ne_part (g : Gap) (p : PartForm) (rest : List Char) : g.chars ≠ p.text ++ rest := by
  intro h
  have hmem : p.sign.symbol ∈ g.chars := by
    rw [h]
    simp [PartForm.text]
  exact absurd (g.spaces _ hmem) (by simp [not_isSpace_symbol])

theorem parts_unique {ps ps' : List PartForm} {g g' : Gap}
    (heq : ps.flatMap PartForm.text ++ g.chars = ps'.flatMap PartForm.text ++ g'.chars) : ps = ps' ∧ g = g' := by
  induction ps generalizing ps' with
  | nil =>
    cases ps' with
    | nil => exact ⟨rfl, Gap.ext heq⟩
    | cons p' ps' =>
      rw [List.flatMap_cons, List.append_assoc] at heq
      exact absurd heq (g.ne_part p' _)
  | cons p ps ih =>
    rw [List.flatMap_cons, List.append_assoc] at heq
    cases ps' with
    | nil => exact absurd heq.symm (g'.ne_part p _)
    | cons p' ps' =>
      rw [List.flatMap_cons, List.append_assoc] at heq
      obtain ⟨hp, heq⟩ := PartForm.text_unique (.parts ps g) (.parts ps' g') heq
      obtain ⟨hps, hg⟩ := ih heq
      exact ⟨by rw [hp, hps], hg⟩

/-- No text has two derivations. -/
theorem text_injective : Function.Injective Derivation.text := by
  intro d d' heq
  obtain ⟨hbefore, heq⟩ := run_unique d.before.spaces d'.before.spaces (d.first.stops_isSpace_text _)
    (d'.first.stops_isSpace_text _) heq
  obtain ⟨hfirst, heq⟩ := TermForm.text_unique (.parts d.rest d.after) (.parts d'.rest d'.after) heq
  obtain ⟨hrest, hafter⟩ := parts_unique heq
  exact Derivation.ext (Gap.ext hbefore) hfirst hrest hafter

end ProgramRom.Capacity.Grammar
