import ProgramRom.Memory.Estimate
import ProgramRom.Proofs.Capacity.Joining
import ProgramRom.Proofs.Cleaning
import ProgramRom.Proofs.Numeral

/-! # Messages of one line

A message about a text stays on its line, whatever the text holds. What was given is quoted, and a quote holds
printable characters only: every other one is written as an escape. The message of an overflow alone repeats a text as
it stands. But an overflow is reported only of a text that the grammar derives as a whole, and no rule of the grammar
writes a control other than the tab. -/

namespace ProgramRom

namespace Text

/-! ### Characters of a line -/

/-- Whether a character leaves the line that it stands in as it is. Controls other than the tab do not, nor do the
separators of lines and of paragraphs. -/
def isInline (c : Char) : Bool := c = '\t' || !inRanges [(0x00, 0x1F), (0x7F, 0x9F), (0x2028, 0x2029)] c

/-- Characters that all leave their line as it is. -/
def Inline (cs : List Char) : Prop := ∀ c ∈ cs, isInline c = true

/-- A text that is one line without controls. -/
def OneLine (text : String) : Prop := Inline text.toList

instance (cs : List Char) : Decidable (Inline cs) :=
  decidable_of_iff (cs.all isInline = true) List.all_eq_true

instance (text : String) : Decidable (OneLine text) :=
  inferInstanceAs (Decidable (Inline text.toList))

variable {c delimiter : Char} {cs ds : List Char} {s t : String}

theorem isInline_iff :
    isInline c = true ↔ c = '\t' ∨ (0x1F < c.toNat ∧ (c.toNat < 0x7F ∨ 0x9F < c.toNat) ∧
      (c.toNat < 0x2028 ∨ 0x2029 < c.toNat)) := by
  simp [isInline, inRanges]

theorem isInline_of_toNat (hlow : 0x20 ≤ c.toNat) (hhigh : c.toNat ≤ 0x7E) : isInline c = true :=
  isInline_iff.mpr (Or.inr (by omega))

theorem isInline_of_isPrintable (h : isPrintable c = true) : isInline c = true := by
  have hcontrol : ¬isControl c = true := by simp [not_isControl_of_isPrintable h]
  have hseparator : ¬isSeparator c = true := by simp [not_isSeparator_of_isPrintable h]
  have hlow : ¬c.toNat ≤ 0x1F := fun hlow =>
    hcontrol (inRanges_iff.mpr ⟨(0x00, 0x1F), by decide, Nat.zero_le _, hlow⟩)
  have hhigh : ¬(0x7F ≤ c.toNat ∧ c.toNat ≤ 0x9F) := fun hhigh =>
    hcontrol (inRanges_iff.mpr ⟨(0x7F, 0x9F), by decide, hhigh⟩)
  have hline : ¬(0x2028 ≤ c.toNat ∧ c.toNat ≤ 0x2029) := fun hline =>
    hseparator (inRanges_iff.mpr ⟨(0x2028, 0x2029), by decide, hline⟩)
  exact isInline_iff.mpr (Or.inr (by omega))

theorem isInline_of_isHexDigit (h : isHexDigit c = true) : isInline c = true := by
  simp only [isHexDigit, Char.isDigit, Bool.or_eq_true, Bool.and_eq_true, decide_eq_true_eq] at h
  rcases h with (⟨hlow, hhigh⟩ | ⟨hlow, hhigh⟩) | ⟨hlow, hhigh⟩
  all_goals exact isInline_of_toNat (Nat.le_trans (by decide) hlow) (Nat.le_trans hhigh (by decide))

/-! ### Lines in parts -/

theorem inline_append : Inline (cs ++ ds) ↔ Inline cs ∧ Inline ds := List.forall_mem_append

theorem inline_cons : Inline (c :: cs) ↔ isInline c = true ∧ Inline cs := List.forall_mem_cons

theorem oneLine_append : OneLine (s ++ t) ↔ OneLine s ∧ OneLine t := by
  rw [OneLine, String.toList_append]
  exact inline_append

theorem oneLine_toString (n : Nat) : OneLine (toString n) := fun _ hc =>
  isInline_of_isHexDigit (Capacity.Grammar.isHexDigit_of_isDigit (isDigit_of_mem_toString hc))

/-! ### Quotes -/

theorem isHexDigit_digitChar : ∀ n < 16, isHexDigit (Nat.digitChar n) = true := by
  decide

theorem isHexDigit_of_mem_toDigits {n : Nat} (h : c ∈ Nat.toDigits 16 n) : isHexDigit c = true := by
  induction n using Nat.strongRecOn with
  | ind n ih =>
    rcases Nat.lt_or_ge n 16 with hn | hn
    · rw [Nat.toDigits_of_lt_base hn, List.mem_singleton] at h
      rw [h]
      exact isHexDigit_digitChar n hn
    · rw [Nat.toDigits_of_base_le (by decide) hn, List.mem_append, List.mem_singleton] at h
      rcases h with h | rfl
      · exact ih (n / 16) (by omega) h
      · exact isHexDigit_digitChar (n % 16) (by omega)

theorem inline_escapeCode (c : Char) : Inline (escapeCode c) := by
  refine inline_append.mpr ⟨inline_append.mpr ⟨by decide, ?_⟩, by decide⟩
  intro d hd
  exact isInline_of_isHexDigit (isHexDigit_of_mem_toDigits hd)

/-- Whatever a character is, its escape stays on the line. -/
theorem inline_escape (hdelimiter : isInline delimiter = true) (c : Char) : Inline (escape delimiter c) := by
  unfold escape
  split
  · rename_i hescaped
    have hc : isInline c = true := by
      rw [Bool.or_eq_true, decide_eq_true_eq, decide_eq_true_eq] at hescaped
      rcases hescaped with rfl | rfl
      · exact hdelimiter
      · decide
    exact inline_cons.mpr ⟨by decide, List.forall_mem_singleton.mpr hc⟩
  -- The four short escapes are fixed texts.
  split
  · decide
  split
  · decide
  split
  · decide
  split
  · decide
  split
  · rename_i hprintable
    exact List.forall_mem_singleton.mpr (isInline_of_isPrintable hprintable)
  · exact inline_escapeCode c

theorem oneLine_quoteChar (c : Char) : OneLine (quoteChar c) := by
  rw [OneLine, quoteChar, String.toList_ofList, List.cons_append, inline_cons, inline_append]
  exact ⟨by decide, inline_escape (by decide) c, by decide⟩

theorem oneLine_quoteString (s : String) : OneLine (quoteString s) := by
  rw [OneLine, quoteString, String.toList_ofList, List.cons_append, inline_cons, inline_append]
  refine ⟨by decide, fun d hd => ?_, by decide⟩
  obtain ⟨c, -, hd⟩ := List.mem_flatMap.mp hd
  exact inline_escape (by decide) c d hd

end Text

/-! ### Characters of capacities -/

namespace Capacity

/-- The characters that an expression may hold beside digits: marks, scales, the caret, signs and spaces. -/
def expressionSymbols : List Char := ['x', 'X', 'k', 'K', 'm', 'M', '^', '+', '-', ' ', '\t']

/-- Whether a character may stand in an expression. -/
def isExpressionChar (c : Char) : Bool := Text.isHexDigit c || expressionSymbols.contains c

theorem isInline_of_isExpressionChar {c : Char} (h : isExpressionChar c = true) : Text.isInline c = true := by
  have hsymbols : Text.Inline expressionSymbols := by decide
  rw [isExpressionChar, Bool.or_eq_true, List.contains_iff_mem] at h
  rcases h with h | h
  · exact Text.isInline_of_isHexDigit h
  · exact hsymbols c h

namespace Grammar

variable {text u : String}

theorem Gap.isExpressionChar_chars (g : Gap) : ∀ c ∈ g.chars, isExpressionChar c = true := by
  intro c hc
  rcases isSpace_iff.mp (g.spaces c hc) with rfl | rfl
  · decide
  · decide

theorem isExpressionChar_of_isHexDigit {c : Char} (h : Text.isHexDigit c = true) : isExpressionChar c = true := by
  rw [Capacity.isExpressionChar, h, Bool.true_or]

theorem isExpressionChar_of_isDigit {c : Char} (h : c.isDigit = true) : isExpressionChar c = true :=
  isExpressionChar_of_isHexDigit (isHexDigit_of_isDigit h)

theorem TermForm.isExpressionChar_text (f : TermForm) : ∀ c ∈ f.text, isExpressionChar c = true := by
  cases f with
  | power base before after exponent =>
    rw [text, List.forall_mem_append, List.forall_mem_append, List.forall_mem_cons, List.forall_mem_append]
    exact ⟨fun c hc => isExpressionChar_of_isDigit (base.digits c hc), before.isExpressionChar_chars, by decide,
      after.isExpressionChar_chars, fun c hc => isExpressionChar_of_isDigit (exponent.digits c hc)⟩
  | hexadecimal mark digits =>
    rw [text, List.forall_mem_cons, List.forall_mem_cons]
    refine ⟨by decide, ?_, fun c hc => isExpressionChar_of_isHexDigit (digits.digits c hc)⟩
    rcases mark with ⟨_, rfl | rfl⟩
    · decide
    · decide
  | scaled digits letter =>
    rw [text, List.forall_mem_append]
    refine ⟨fun c hc => isExpressionChar_of_isDigit (digits.digits c hc), ?_⟩
    rcases letter with _ | ⟨_, rfl | rfl | rfl | rfl⟩
    · exact List.forall_mem_nil _
    all_goals exact List.forall_mem_singleton.mpr (by decide)

theorem PartForm.isExpressionChar_text (p : PartForm) : ∀ c ∈ p.text, isExpressionChar c = true := by
  rw [text, List.forall_mem_append, List.forall_mem_cons, List.forall_mem_append]
  refine ⟨p.before.isExpressionChar_chars, ?_, p.after.isExpressionChar_chars, p.term.isExpressionChar_text⟩
  rcases symbol_eq p.sign with h | h
  · rw [h]
    decide
  · rw [h]
    decide

/-- No rule of the grammar writes any other character. -/
theorem Derivation.isExpressionChar_text (d : Derivation) : ∀ c ∈ d.text, isExpressionChar c = true := by
  rw [text, List.forall_mem_append, List.forall_mem_append, List.forall_mem_append]
  refine ⟨d.before.isExpressionChar_chars, d.first.isExpressionChar_text, fun c hc => ?_,
    d.after.isExpressionChar_chars⟩
  obtain ⟨p, -, hc⟩ := List.mem_flatMap.mp hc
  exact p.isExpressionChar_text c hc

theorem exists_derivation_of_overflow (h : read text = .error (.overflow u)) :
    u = text ∧ ∃ d : Derivation, d.text = text.toList := by
  by_cases hd : ∃ d : Derivation, d.text = text.toList
  · refine ⟨?_, hd⟩
    obtain ⟨d, hd⟩ := hd
    rw [read_of_text hd] at h
    cases hvalue : d.expression.value? with
    | none =>
      rw [hvalue] at h
      cases h
      rfl
    | some v =>
      rw [hvalue] at h
      cases h
  · obtain ⟨v, hv⟩ := exists_invalid_iff.mpr hd
    rw [h] at hv
    cases hv

theorem isExpressionChar_of_overflow (h : read text = .error (.overflow u)) :
    ∀ c ∈ text.toList, isExpressionChar c = true := by
  obtain ⟨-, d, hd⟩ := exists_derivation_of_overflow h
  rw [← hd]
  exact d.isExpressionChar_text

/-- A text with a character of no expression is refused. -/
theorem exists_invalid_of_mem {c : Char} (hmem : c ∈ text.toList) (hc : isExpressionChar c = false) :
    ∃ v, read text = .error (.invalid v) := by
  refine exists_invalid_iff.mpr ?_
  rintro ⟨d, hd⟩
  rw [d.isExpressionChar_text c (hd ▸ hmem)] at hc
  cases hc

end Grammar

/-! ### Messages -/

/-- The text of an overflow is repeated as it stands, and stays on the line because it is an expression. -/
theorem oneLine_message {text : String} {fault : Fault} (h : read text = .error fault) :
    Text.OneLine fault.message := by
  cases fault with
  | invalid v => exact Text.oneLine_append.mpr ⟨by decide, Text.oneLine_quoteString v⟩
  | overflow v =>
    obtain ⟨rfl, -⟩ := Grammar.exists_derivation_of_overflow h
    have hchars := Grammar.isExpressionChar_of_overflow h
    exact Text.oneLine_append.mpr ⟨by decide, fun c hc => isInline_of_isExpressionChar (hchars c hc)⟩

end Capacity

namespace UnknownSymbol

theorem message_eq (e : UnknownSymbol) :
    e.message = "Unknown symbol " ++ Text.quoteChar e.symbol ++ " at line " ++ toString e.position.line ++
      ", column " ++ toString e.position.column := rfl

theorem oneLine_message (e : UnknownSymbol) : Text.OneLine e.message := by
  simp only [message_eq, Text.oneLine_append]
  exact ⟨⟨⟨⟨⟨by decide, Text.oneLine_quoteChar e.symbol⟩, by decide⟩, Text.oneLine_toString _⟩, by decide⟩,
    Text.oneLine_toString _⟩

end UnknownSymbol

namespace Memory

theorem Excess.text_size_eq (store : Store) (entries width : Nat) :
    (Excess.size store entries width).text =
      toString entries ++ " x " ++ toString width ++ " bits (" ++ store.name ++ ")" := rfl

theorem Excess.oneLine_text (excess : Excess) : Text.OneLine excess.text := by
  cases excess with
  | size store entries width =>
    have hname : Text.OneLine store.name := by cases store <;> decide
    simp only [text_size_eq, Text.oneLine_append]
    exact ⟨⟨⟨⟨⟨Text.oneLine_toString entries, by decide⟩, Text.oneLine_toString width⟩, by decide⟩, hname⟩,
      by decide⟩
  | total => decide

theorem Fault.oneLine_message (fault : Fault) : Text.OneLine fault.message := by
  cases fault with
  | zeroCapacity region => cases region <;> decide
  | overflow excess => exact Text.oneLine_append.mpr ⟨by decide, excess.oneLine_text⟩

end Memory

/-- The message of every fault is one line without controls, the tab apart: of a text that is no capacity, of a source
that is refused, and of capacities that have no estimate. Such a text and such a source may hold any character. An
overflow repeats its text as it stands, which then holds nothing but the characters of expressions. -/
theorem messages_on_one_line :
    (∀ text fault, Capacity.read text = .error fault → Text.OneLine fault.message) ∧
    (∀ source error, Program.ofStrictSource source = .error error → Text.OneLine error.message) ∧
    (∀ p d scheme fault, Memory.Estimate.ofCapacities p d scheme = .error fault → Text.OneLine fault.message) ∧
    (∀ text repeated, Capacity.read text = .error (.overflow repeated) →
      (Capacity.Fault.overflow repeated).message = "Capacity arithmetic out of range: " ++ text ∧
      ∀ c ∈ text.toList, Capacity.isExpressionChar c = true) ∧
    ∀ c : Char, (∃ text fault, c ∈ text.toList ∧ Capacity.read text = .error fault) ∧
      ∃ source error, c ∈ source.toList ∧ Program.ofStrictSource source = .error error := by
  refine ⟨fun text fault => Capacity.oneLine_message, fun source error _ => error.oneLine_message,
    fun p d scheme fault _ => fault.oneLine_message, fun text repeated h => ?_, fun c => ?_⟩
  · obtain ⟨rfl, -⟩ := Capacity.Grammar.exists_derivation_of_overflow h
    exact ⟨rfl, Capacity.Grammar.isExpressionChar_of_overflow h⟩
  · -- A question mark is neither a character of expressions nor a symbol nor blank, whatever stands before it.
    have hmark : '?' ∈ (String.ofList [c, '?']).toList := by simp
    obtain ⟨v, hv⟩ := Capacity.Grammar.exists_invalid_of_mem hmark (by decide)
    obtain ⟨error, herror⟩ := Program.exists_ofStrictSource_eq_error_iff.mpr ⟨'?', hmark, by decide, by decide⟩
    exact ⟨⟨_, _, by simp, hv⟩, ⟨_, error, by simp, herror⟩⟩

/-- Controls and separators in what is refused, and a tab in what overflows. -/
theorem messages_on_one_line_controls :
    (¬Text.OneLine "1\n\u2028" ∧ ∃ fault, Capacity.read "1\n\u2028" = .error fault ∧ Text.OneLine fault.message) ∧
    (Capacity.read "2^64\t" = .error (.overflow "2^64\t") ∧
      Text.OneLine (Capacity.Fault.overflow "2^64\t").message ∧
      ∀ c ∈ "2^64\t".toList, Capacity.isExpressionChar c = true) ∧
    (¬Text.OneLine "+\r\u009b" ∧
      ∃ error, Program.ofStrictSource "+\r\u009b" = .error error ∧ Text.OneLine error.message) ∧
    ∃ fault, Memory.Estimate.ofCapacities 0 1 .packed = .error fault ∧ Text.OneLine fault.message := by
  obtain ⟨htext, hsource, hcapacities, hoverflow, -⟩ := messages_on_one_line
  have hnewline : '\n' ∈ "1\n\u2028".toList := by decide
  obtain ⟨v, hinvalid⟩ := Capacity.Grammar.exists_invalid_of_mem hnewline (by decide)
  have hlarge : Capacity.read "2^64\t" = .error (.overflow "2^64\t") := by
    have hparsed : Capacity.Expression.ofText? "2^64\t" = some ⟨.power 2 64, []⟩ := by decide +kernel
    unfold Capacity.read
    simp only [hparsed]
    rfl
  have hstray : Program.ofStrictSource "+\r\u009b" = .error ⟨⟨1, 3⟩, '\u009b'⟩ := by rfl
  have hzero : Memory.Estimate.ofCapacities 0 1 .packed = .error (.zeroCapacity .program) := by rfl
  exact ⟨⟨by decide, _, hinvalid, htext _ _ hinvalid⟩, ⟨hlarge, htext _ _ hlarge, (hoverflow _ _ hlarge).2⟩,
    ⟨by decide, _, hstray, hsource _ _ hstray⟩, _, hzero, hcapacities _ _ _ _ hzero⟩

end ProgramRom
