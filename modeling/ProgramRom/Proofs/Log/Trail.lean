import ProgramRom.Proofs.CaseStatement
import ProgramRom.Proofs.Cleaning

/-! # The log of a generation

A generation leaves a record of its source, one of each entry, in order, and one of the block. The record of an entry
and the arm of an entry are written apart from each other, yet with the same three texts: the address, the literal and
the symbol. Read from the lines of the block, these texts are the records of the log. Strict generation leaves the
records of the entries alone. -/

namespace ProgramRom

namespace Verilog

/-! ### The texts of an arm -/

/-- The texts that a labelled arm is made of. -/
structure ArmTexts where
  address : String
  literal : String
  symbol : String
deriving DecidableEq, Repr

/-- Reads `<address>: prog_wr <= <literal>; // <symbol>`. -/
def readTexts? (line : List Char) : Option ArmTexts := do
  let word ← (line.dropWhile (· ≠ ':')).dropPrefix? ": prog_wr <= ".toList
  let symbol ← (word.dropWhile (· ≠ ';')).dropPrefix? "; // ".toList
  return ⟨String.ofList (line.takeWhile (· ≠ ':')), String.ofList (word.takeWhile (· ≠ ';')), String.ofList symbol⟩

def isNumeric (line : List Char) : Bool := line.head?.any Char.isDigit

/-- The lines of a text that begin with a digit, each without the spaces before it. -/
def numericArms (text : String) : List (List Char) := (flushLines text.toList).filter isNumeric

theorem toList_arm_literal (label : String) (word : UInt8) (comment : String) :
    (arm label word comment).toList =
      label.toList ++ (": prog_wr <= ".toList ++ ((literal word).toList ++ ("; // ".toList ++ comment.toList))) := by
  simp [arm, target, toString]

theorem semicolon_not_mem_literal (word : UInt8) : ';' ∉ (literal word).toList := by
  have hdigit : ∀ d < 16, ';' ≠ hexDigit d := by decide
  have hword : word.toNat < 256 := word.toNat_lt
  have hhigh := hdigit (word.toNat / 16) (by omega)
  have hlow := hdigit (word.toNat % 16) (by omega)
  simp [literal, hhigh, hlow]

/-- An arm is read as the texts that it is written from, if its label holds no colon. -/
theorem readTexts?_arm {label : String} (hlabel : ':' ∉ label.toList) (word : UInt8) (comment : String) :
    readTexts? (arm label word comment).toList = some ⟨label, literal word, comment⟩ := by
  have hliteral := semicolon_not_mem_literal word
  have hword : ((arm label word comment).toList.dropWhile (· ≠ ':')).dropPrefix? ": prog_wr <= ".toList =
      some ((literal word).toList ++ ("; // ".toList ++ comment.toList)) := by
    rw [toList_arm_literal, Text.dropWhile_ne hlabel rfl]
    exact List.dropPrefix?_append_of_beq _ (by simp)
  have hsymbol : (((literal word).toList ++ ("; // ".toList ++ comment.toList)).dropWhile (· ≠ ';')).dropPrefix?
      "; // ".toList = some comment.toList := by
    rw [Text.dropWhile_ne hliteral rfl]
    exact List.dropPrefix?_append_of_beq _ (by simp)
  have haddress : (arm label word comment).toList.takeWhile (· ≠ ':') = label.toList := by
    rw [toList_arm_literal, Text.takeWhile_ne hlabel rfl]
  have htaken : ((literal word).toList ++ ("; // ".toList ++ comment.toList)).takeWhile (· ≠ ';') =
      (literal word).toList :=
    Text.takeWhile_ne hliteral rfl
  simp only [readTexts?, hword, hsymbol, haddress, htaken, Option.bind_eq_bind, Option.bind_some, String.ofList_toList]
  rfl

end Verilog

open Verilog

def CaseEntry.texts (e : CaseEntry) : ArmTexts :=
  ⟨e.address.text, e.operation.literal, String.singleton e.operation.symbol⟩

theorem CaseEntry.readTexts?_line (e : CaseEntry) : readTexts? e.line.toList = some e.texts :=
  readTexts?_arm (Text.not_mem_toString rfl e.address.index) _ _

theorem CaseEntry.isNumeric_line (e : CaseEntry) : isNumeric e.line.toList = true := by
  have hne : e.address.text.toList ≠ [] := Text.toList_toString_ne_nil _
  obtain ⟨c, hc⟩ : ∃ c, e.address.text.toList.head? = some c := ⟨_, List.head?_eq_some_head hne⟩
  rw [isNumeric, CaseEntry.line, toList_arm_literal, List.head?_append_of_ne_nil _ hne, hc, Option.any_some]
  exact Text.isDigit_of_mem_toString (List.mem_of_head? hc)

namespace CaseTable

theorem mapM_readTexts?_lines (es : List CaseEntry) :
    ((es.map CaseEntry.line).map String.toList).mapM readTexts? = some (es.map CaseEntry.texts) := by
  induction es with
  | nil => rfl
  | cons e es ih =>
    rw [List.map_cons, List.map_cons, List.mapM_cons, e.readTexts?_line, ih]
    rfl

/-- The numeric arms of a block are those of the entries of its table. -/
theorem numericArms_layout (t : CaseTable) (indent : Nat) :
    numericArms (t.layout indent).text = (t.entries.map CaseEntry.line).map String.toList := by
  have hentries : ((t.entries.map CaseEntry.line).map String.toList).filter isNumeric =
      (t.entries.map CaseEntry.line).map String.toList := by
    rw [List.filter_eq_self]
    intro l hl
    simp only [List.map_map, List.mem_map, Function.comp_apply] at hl
    obtain ⟨e, -, rfl⟩ := hl
    exact e.isNumeric_line
  have hheader : (t.header.map String.toList).filter isNumeric = [] := by
    have hbegin : ¬isNumeric beginMarker.toList = true := by decide
    have hlength : ¬isNumeric (lengthLine t.length).toList = true := by
      rw [isNumeric, toList_lengthLine, List.head?_append_of_ne_nil _ (by decide)]
      decide
    have hopening : ¬isNumeric "case (iptr)".toList = true := by decide
    rw [header, List.map_cons, List.map_cons, List.map_singleton, toList_opening, List.filter_cons_of_neg hbegin,
      List.filter_cons_of_neg hlength, List.filter_cons_of_neg hopening, List.filter_nil]
  have hdefault : ([arm "default" nopCode "NOP"].map String.toList).filter isNumeric = [] := by
    decide
  have hfooter : (footer.map String.toList ++ [[]]).filter isNumeric = [] := by
    decide
  rw [numericArms, flushLines_layout, arms, List.map_append, List.filter_append, List.filter_append,
    List.filter_append, hheader, hentries, hdefault, hfooter, List.nil_append, List.append_nil, List.append_nil]

end CaseTable

namespace Log

/-! ### Records as the log is given them -/

/-- What a record consists of. -/
structure Record where
  level : Level
  target : String
  message : String
deriving DecidableEq, Repr

def Event.asRecord (e : Event) : Record := ⟨e.level, e.target, e.message⟩

end Log

/-- The record of an arm, by its texts. -/
def Verilog.ArmTexts.record (t : ArmTexts) : Log.Record :=
  ⟨.trace, "bfcase::generator", t.address ++ " -> " ++ t.literal ++ " (" ++ t.symbol ++ ")"⟩

theorem CaseEntry.record_texts (e : CaseEntry) : (Log.Event.entry e).asRecord = e.texts.record := by
  have hmessage : e.summary =
      e.texts.address ++ " -> " ++ e.texts.literal ++ " (" ++ e.texts.symbol ++ ")" := by
    rw [← String.toList_inj]
    simp [CaseEntry.summary, Operation.annotated, CaseEntry.texts, toString]
  rw [Verilog.ArmTexts.record, ← hmessage]
  rfl

/-! ### The records of a generation -/

theorem CaseTable.draw_of_ok {t : CaseTable} {indent : UInt64} {block : Block} (h : t.render indent = .ok block) :
    t.draw indent = ⟨.ok block, t.entries.map .entry⟩ := by
  rw [CaseTable.draw, h]
  show (⟨.ok block, t.entries.map .entry ++ []⟩ : Log.Recorded (Except LimitError Block)) = _
  rw [List.append_nil]

theorem events_generate {source : String} {indent : UInt64} {block : Block}
    (h : (generate source indent).value = .ok block) :
    (generate source indent).events =
      .cleaned source.length (Program.ofSource source).length ::
        ((CaseTable.ofProgram (.ofSource source)).entries.map .entry ++ [.generated block.count]) := by
  rw [value_generate] at h
  simp only [generate, Program.clean, Log.Recorded.events_bind, Log.Recorded.value_bind, Log.Recorded.value_pure,
    CaseTable.draw_of_ok h]
  rfl

/-- Strict generation leaves no record where it fails, and otherwise those of the entries of its program's table. -/
theorem generateStrict_cases (source : String) {indent : UInt64} (h : indent.toNat ≤ 5000) :
    (∃ e, generateStrict source indent = ⟨.error e, []⟩) ∨
      generateStrict source indent =
        ⟨.ok ((CaseTable.ofProgram (.ofSource source)).layout indent.toNat),
          (CaseTable.ofProgram (.ofSource source)).entries.map .entry⟩ := by
  cases hread : Program.ofStrictSource source with
  | error e =>
    refine Or.inl ⟨.unknownSymbol e, ?_⟩
    rw [generateStrict, hread]
    rfl
  | ok p =>
    obtain ⟨-, rfl⟩ := Program.ofStrictSource_eq_ok_iff.mp hread
    have hdraw := CaseTable.draw_of_ok ((CaseTable.ofProgram (.ofSource source)).render_of_le h)
    refine Or.inr ?_
    rw [generateStrict, hread]
    simp only [hdraw]
    show (⟨_, _ ++ []⟩ : Log.Recorded (Except GenerationError Block)) = _
    rw [List.append_nil]
    rfl

theorem map_asRecord_entries (es : List CaseEntry) :
    (es.map Log.Event.entry).map Log.Event.asRecord = (es.map CaseEntry.texts).map ArmTexts.record := by
  rw [List.map_map, List.map_map]
  exact List.map_congr_left fun e _ => e.record_texts

/-- The log of a generation gives the number of characters of the source and that of its operations, then for each
labelled arm of the block, in order, the texts of its address, its literal and its symbol, and last the number of
operations again. Strict generation leaves the records of the arms and no other, and none where it fails. -/
theorem log_mirrors_block (source : String) (indent : UInt64) (h : indent.toNat ≤ 5000) :
    ∃ block texts, (generate source indent).value = .ok block ∧
      (numericArms block.text).mapM readTexts? = some texts ∧
      texts.length = (Program.ofSource source).length ∧
      (generate source indent).events.map Log.Event.asRecord =
        ⟨.debug, "bfcase::program",
          s!"cleaned {source.length} source chars down to {(Program.ofSource source).length} instructions"⟩ ::
        (texts.map ArmTexts.record ++
          [⟨.debug, "bfcase::generator",
            s!"generated case table with {(Program.ofSource source).length} entries"⟩]) ∧
      (∀ strict, (generateStrict source indent).value = .ok strict →
        strict = block ∧ (generateStrict source indent).events.map Log.Event.asRecord = texts.map ArmTexts.record) ∧
      ∀ e, (generateStrict source indent).value = .error e → (generateStrict source indent).events = [] := by
  let t := CaseTable.ofProgram (.ofSource source)
  have hblock : (generate source indent).value = .ok (t.layout indent.toNat) := value_generate_of_le source h
  have hlength : t.length = (Program.ofSource source).length := CaseTable.length_ofProgram _
  refine ⟨t.layout indent.toNat, t.entries.map CaseEntry.texts, hblock, ?_, ?_, ?_, ?_⟩
  · rw [t.numericArms_layout, CaseTable.mapM_readTexts?_lines]
  · rw [List.length_map, ← hlength, CaseTable.length]
  · rw [events_generate hblock, List.map_cons, List.map_append, map_asRecord_entries, ← hlength]
    rfl
  · rcases generateStrict_cases source h with ⟨e, hstrict⟩ | hstrict
    · rw [hstrict]
      exact ⟨fun _ hok => (by cases hok), fun _ _ => rfl⟩
    · rw [hstrict]
      exact ⟨fun _ hok => ⟨(Except.ok.inj hok).symm, map_asRecord_entries t.entries⟩,
        fun _ herror => (by cases herror)⟩

/-- Comments and a character whose code ends in that of an operation leave no trace but in the number of characters.
Strict generation stops at the first of them, and has the same records of the arms without them. -/
theorem log_mirrors_block_commented :
    (2 : UInt64).toNat ≤ 5000 ∧ ∃ block texts, (generate "+ ī\n[x]" 2).value = .ok block ∧
      (numericArms block.text).mapM readTexts? = some texts ∧
      texts.map ArmTexts.record =
        [⟨.trace, "bfcase::generator", "0 -> 8'h2B (+)"⟩, ⟨.trace, "bfcase::generator", "1 -> 8'h5B ([)"⟩,
          ⟨.trace, "bfcase::generator", "2 -> 8'h5D (])"⟩] ∧
      (generate "+ ī\n[x]" 2).events.map Log.Event.asRecord =
        ⟨.debug, "bfcase::program", "cleaned 7 source chars down to 3 instructions"⟩ ::
          (texts.map ArmTexts.record ++ [⟨.debug, "bfcase::generator", "generated case table with 3 entries"⟩]) ∧
      (generateStrict "+ ī\n[x]" 2).events = [] ∧
      (∃ strict, (generateStrict "+\n[ ]" 2).value = .ok strict) ∧
      (generateStrict "+\n[ ]" 2).events.map Log.Event.asRecord = texts.map ArmTexts.record := by
  obtain ⟨block, texts, hblock, htexts, -, hevents, -, hstray⟩ := log_mirrors_block "+ ī\n[x]" 2 (by decide)
  have hall : (generate "+ ī\n[x]" 2).events.map Log.Event.asRecord =
      ⟨.debug, "bfcase::program", "cleaned 7 source chars down to 3 instructions"⟩ ::
        ([⟨.trace, "bfcase::generator", "0 -> 8'h2B (+)"⟩, ⟨.trace, "bfcase::generator", "1 -> 8'h5B ([)"⟩,
          ⟨.trace, "bfcase::generator", "2 -> 8'h5D (])"⟩] ++
          [⟨.debug, "bfcase::generator", "generated case table with 3 entries"⟩]) := by decide +kernel
  have harms := List.append_cancel_right (List.cons.inj (hevents.symm.trans hall)).2
  refine ⟨by decide, block, texts, hblock, htexts, harms, by rw [hall, harms], ?_, ⟨_, rfl⟩, ?_⟩
  · exact hstray (.unknownSymbol ⟨⟨1, 3⟩, 'ī'⟩) (by decide)
  · rw [harms]
    decide +kernel

end ProgramRom
