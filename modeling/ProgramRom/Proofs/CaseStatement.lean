import Mathlib.Data.List.Basic
import ProgramRom.Generation
import ProgramRom.Proofs.Numeral
import ProgramRom.Proofs.Runs

/-! # What a case block says

The text of a block is read back as the `case` statement it writes: the lines between the opening of the
statement and its end are its arms, and the instruction pointer selects the first arm with its label, or else
the default arm. Read this way, the block of a program gives every address the word of the operation that
stands there, and the no-op word to every address past the end. -/

namespace ProgramRom

namespace Verilog

/-! ### The reading -/

/-- What an arm says. The default arm has no label. -/
structure Arm where
  label : Option Nat
  word : UInt8
  comment : List Char
deriving DecidableEq, Repr

def readLabel? (cs : List Char) : Option (Option Nat) :=
  if cs = "default".toList then some none else (Text.decimal? cs).map some

/-- Reads `<label>: prog_wr <= 8'h<HH>; // <comment>`. -/
def readArm? (line : List Char) : Option Arm :=
  match (line.dropWhile (· ≠ ':')).dropPrefix? ": prog_wr <= 8'h".toList with
  | some (high :: low :: rest) => do
    let label ← readLabel? (line.takeWhile (· ≠ ':'))
    let word ← Text.hexadecimal? [high, low]
    let comment ← rest.dropPrefix? "; // ".toList
    return ⟨label, word.toUInt8, comment⟩
  | _ => none

/-- The lines of a text, each without the spaces before it. -/
def flushLines (text : List Char) : List (List Char) :=
  (text.splitOn '\n').map fun line => line.dropWhile (· = ' ')

/-- The lines strictly between the opening of the statement and its end. -/
def body (lines : List (List Char)) : List (List Char) :=
  ((lines.dropWhile (· ≠ "case (iptr)".toList)).drop 1).takeWhile (· ≠ "endcase".toList)

/-- The arms of the statement, if every line of it is an arm. -/
def readCase? (text : String) : Option (List Arm) :=
  (body (flushLines text.toList)).mapM readArm?

/-- The number in the line that gives the length of the program. -/
def readLength? (text : String) : Option Nat :=
  (flushLines text.toList).findSome? fun line =>
    (line.dropPrefix? "// PROGRAM LENGTH (PROG_LEN) should be set to: ".toList).bind Text.decimal?

/-- The word that the statement loads at an address. -/
def select? (arms : List Arm) (address : Nat) : Option UInt8 :=
  ((arms.find? (·.label = some address)).or (arms.find? (·.label = none))).map Arm.word

/-! ### Lines -/

/-- A character of the printable part of ASCII. -/
def isPlain (c : Char) : Bool := ' ' ≤ c && c ≤ '~'

/-- A line of plain characters that begins with no space. -/
structure Flush (line : String) : Prop where
  head : line.toList.head? ≠ some ' '
  plain : ∀ c ∈ line.toList, isPlain c = true

theorem Flush.of_all {line : String} (head : line.toList.head? ≠ some ' ')
    (plain : line.toList.all isPlain = true) : Flush line :=
  ⟨head, List.all_eq_true.mp plain⟩

theorem newline_not_mem {line : List Char} (h : ∀ c ∈ line, isPlain c = true) : '\n' ∉ line := fun hmem => by
  cases h '\n' hmem

theorem isPlain_of_isDigit {c : Char} (h : c.isDigit = true) : isPlain c = true := by
  simp only [Char.isDigit, isPlain, Bool.and_eq_true, decide_eq_true_eq, ge_iff_le] at h ⊢
  have hlow : ' '.val ≤ '0'.val := by decide
  have hhigh : '9'.val ≤ '~'.val := by decide
  exact ⟨UInt32.le_trans hlow h.1, UInt32.le_trans h.2 hhigh⟩

theorem isPlain_hexDigit : ∀ d < 16, isPlain (hexDigit d) = true := by
  decide

theorem isPlain_symbol (op : Operation) : isPlain op.symbol = true := by
  cases op <;> rfl

@[simp] theorem flushLines_nil : flushLines [] = [[]] := rfl

theorem flushLines_append {line : List Char} (h : '\n' ∉ line) (rest : List Char) :
    flushLines (line ++ '\n' :: rest) = line.dropWhile (· = ' ') :: flushLines rest := by
  rw [flushLines, List.splitOn_append_cons_self_of_not_mem h, List.map_cons, flushLines]

theorem dropWhile_spaces (n : Nat) {line : String} (h : line.toList.head? ≠ some ' ') :
    ((Text.spaces n ++ line).toList).dropWhile (· = ' ') = line.toList := by
  rw [String.toList_append, Text.toList_spaces, Text.dropWhile_run (by simp) (Text.stops_eq h)]

/-- Indented lines are found again without their indentation. -/
theorem flushLines_unlines_indent (n : Nat) {ls : List String} (h : ∀ l ∈ ls, Flush l) (rest : List Char) :
    flushLines ((Text.unlines (Text.indent n ls)).toList ++ rest) = ls.map String.toList ++ flushLines rest := by
  induction ls with
  | nil => simp [Text.indent, Text.toList_unlines]
  | cons l ls ih =>
    have hl : Flush l := h l List.mem_cons_self
    have hls : ∀ l ∈ ls, Flush l := fun l' m => h l' (List.mem_cons_of_mem _ m)
    have hnewline : '\n' ∉ (Text.spaces n ++ l).toList := by
      simpa using newline_not_mem hl.plain
    have hsplit : (Text.unlines (Text.indent n (l :: ls))).toList ++ rest =
        (Text.spaces n ++ l).toList ++ '\n' :: ((Text.unlines (Text.indent n ls)).toList ++ rest) := by
      simp [Text.indent, Text.toList_unlines]
    rw [hsplit, flushLines_append hnewline, dropWhile_spaces n hl.head, ih hls]
    rfl

/-- The statement is what stands between its opening and its end. -/
theorem body_append {before arms : List (List Char)} (hbefore : ∀ l ∈ before, l ≠ "case (iptr)".toList)
    (harms : ∀ l ∈ arms, l ≠ "endcase".toList) (rest : List (List Char)) :
    body (before ++ "case (iptr)".toList :: (arms ++ "endcase".toList :: rest)) = arms := by
  unfold body
  generalize "case (iptr)".toList = opening at *
  generalize "endcase".toList = closing at *
  rw [Text.dropWhile_ne (fun hmem => hbefore _ hmem rfl) rfl, List.drop_succ_cons, List.drop_zero,
    Text.takeWhile_ne (fun hmem => harms _ hmem rfl) rfl]

/-! ### Arms -/

theorem toList_arm (label : String) (word : UInt8) (comment : String) :
    (arm label word comment).toList =
      label.toList ++ (": prog_wr <= 8'h".toList ++
        (hexDigit (word.toNat / 16) :: hexDigit (word.toNat % 16) :: ("; // ".toList ++ comment.toList))) := by
  simp [arm, target, literal, toString]

theorem readLabel?_toString (n : Nat) : readLabel? (toString n).toList = some (some n) := by
  have hne : (toString n).toList ≠ "default".toList := fun heq =>
    Text.not_mem_toString (c := 'd') rfl n (heq ▸ by decide)
  rw [readLabel?, if_neg hne, Text.decimal?_toString, Option.map_some]

/-- An arm is read as its label, its word and its comment. -/
theorem readArm?_arm {label : String} {l : Option Nat} (hcolon : ':' ∉ label.toList)
    (hlabel : readLabel? label.toList = some l) (word : UInt8) (comment : String) :
    readArm? (arm label word comment).toList = some ⟨l, word, comment.toList⟩ := by
  have hdrop : ((arm label word comment).toList.dropWhile (· ≠ ':')).dropPrefix? ": prog_wr <= 8'h".toList =
      some (hexDigit (word.toNat / 16) :: hexDigit (word.toNat % 16) :: ("; // ".toList ++ comment.toList)) := by
    rw [toList_arm, Text.dropWhile_ne hcolon rfl]
    exact List.dropPrefix?_append_of_beq _ (by simp)
  have htake : (arm label word comment).toList.takeWhile (· ≠ ':') = label.toList := by
    rw [toList_arm, Text.takeWhile_ne hcolon rfl]
  have hcomment : ("; // ".toList ++ comment.toList).dropPrefix? "; // ".toList = some comment.toList :=
    List.dropPrefix?_append_of_beq _ (by simp)
  simp only [readArm?, hdrop, htake, hlabel, Text.hexadecimal?_word, hcomment]
  simp

theorem arm_ne_endcase {label : String} (h : label.toList.head? ≠ some 'e') (hne : label.toList ≠ [])
    (word : UInt8) (comment : String) : (arm label word comment).toList ≠ "endcase".toList := by
  intro heq
  rw [toList_arm] at heq
  have hhead := congrArg List.head? heq
  rw [List.head?_append_of_ne_nil _ hne] at hhead
  exact h hhead

theorem flush_arm {label : String} (hne : label.toList ≠ []) (hlabel : Flush label) (word : UInt8)
    {comment : String} (hcomment : ∀ c ∈ comment.toList, isPlain c = true) : Flush (arm label word comment) where
  head := by
    rw [toList_arm, List.head?_append_of_ne_nil _ hne]
    exact hlabel.head
  plain c hc := by
    have hword : word.toNat < 256 := word.toNat_lt
    rw [toList_arm] at hc
    simp only [List.mem_append, List.mem_cons] at hc
    rcases hc with hc | hc | rfl | rfl | hc | hc
    · exact hlabel.plain c hc
    · exact List.all_eq_true.mp (by decide) c hc
    · exact isPlain_hexDigit _ (by omega)
    · exact isPlain_hexDigit _ (by omega)
    · exact List.all_eq_true.mp (by decide) c hc
    · exact hcomment c hc

end Verilog

open Verilog

/-! ### The arms of a table -/

/-- What the arm of an entry says. -/
def CaseEntry.arm (e : CaseEntry) : Arm := ⟨some e.address.index, e.operation.code, [e.operation.symbol]⟩

/-- What the arm of every other address says. -/
def defaultArm : Arm := ⟨none, nopCode, "NOP".toList⟩

namespace CaseTable

/-- What the arms of a table say. -/
def readings (t : CaseTable) : List Arm := t.entries.map CaseEntry.arm ++ [defaultArm]

end CaseTable

theorem CaseEntry.flush_label (e : CaseEntry) : Flush e.address.text where
  head hhead := Text.not_mem_toString rfl _ (List.mem_of_head? hhead)
  plain _ hc := isPlain_of_isDigit (Text.isDigit_of_mem_toString hc)

theorem CaseEntry.flush_line (e : CaseEntry) : Flush e.line := by
  refine flush_arm (Text.toList_toString_ne_nil _) e.flush_label _ fun c hc => ?_
  rw [String.toList_singleton, List.mem_singleton] at hc
  rw [hc]
  exact isPlain_symbol e.operation

theorem CaseEntry.readArm?_line (e : CaseEntry) : readArm? e.line.toList = some e.arm := by
  have hcolon : ':' ∉ e.address.text.toList := Text.not_mem_toString rfl e.address.index
  rw [CaseEntry.line, readArm?_arm hcolon (readLabel?_toString _), CaseEntry.arm, String.toList_singleton]

theorem CaseEntry.line_ne_endcase (e : CaseEntry) : e.line.toList ≠ "endcase".toList := by
  refine arm_ne_endcase (fun hhead => ?_) (Text.toList_toString_ne_nil _) _ _
  exact Text.not_mem_toString rfl _ (List.mem_of_head? hhead)

namespace CaseTable

/-! ### The lines of a block -/

theorem toList_lengthLine (count : Nat) :
    (lengthLine count).toList =
      "// PROGRAM LENGTH (PROG_LEN) should be set to: ".toList ++ (toString count).toList :=
  String.toList_append

theorem toList_opening : (s!"case ({selector})").toList = "case (iptr)".toList := by
  decide

theorem flush_header (t : CaseTable) : ∀ l ∈ t.header, Flush l := by
  intro l hl
  simp only [header, List.mem_cons, List.not_mem_nil, or_false] at hl
  rcases hl with rfl | rfl | rfl
  · exact .of_all (by decide) (by decide)
  · refine ⟨by simp [toList_lengthLine], fun c hc => ?_⟩
    rw [toList_lengthLine, List.mem_append] at hc
    rcases hc with hc | hc
    · exact List.all_eq_true.mp (by decide) c hc
    · exact isPlain_of_isDigit (Text.isDigit_of_mem_toString hc)
  · exact .of_all (by decide) (by decide)

theorem flush_arms (t : CaseTable) : ∀ l ∈ t.arms, Flush l := by
  intro l hl
  simp only [arms, List.mem_append, List.mem_map, List.mem_singleton] at hl
  rcases hl with ⟨e, -, rfl⟩ | rfl
  · exact e.flush_line
  · exact flush_arm (by decide) (.of_all (by decide) (by decide)) _ (List.all_eq_true.mp (by decide))

theorem flush_footer : ∀ l ∈ footer, Flush l := by
  intro l hl
  simp only [footer, List.mem_cons, List.not_mem_nil, or_false] at hl
  rcases hl with rfl | rfl
  · exact .of_all (by decide) (by decide)
  · exact .of_all (by decide) (by decide)

/-- The lines of a block without their indentation. Behind the last newline an empty line is left. -/
theorem flushLines_layout (t : CaseTable) (indent : Nat) :
    flushLines (t.layout indent).text.toList =
      t.header.map String.toList ++ (t.arms.map String.toList ++ (footer.map String.toList ++ [[]])) := by
  have htext : (t.layout indent).text.toList =
      (Text.unlines (Text.indent indent t.header)).toList ++
        ((Text.unlines (Text.indent (indent + armIndent) t.arms)).toList ++
          ((Text.unlines (Text.indent indent footer)).toList ++ [])) := by
    simp only [layout, lines, Text.unlines_append, String.toList_append, List.append_assoc, List.append_nil]
  rw [htext, flushLines_unlines_indent _ t.flush_header, flushLines_unlines_indent _ t.flush_arms,
    flushLines_unlines_indent _ flush_footer, flushLines_nil]

theorem arms_ne_endcase (t : CaseTable) : ∀ l ∈ t.arms.map String.toList, l ≠ "endcase".toList := by
  intro l hl
  obtain ⟨line, hline, rfl⟩ := List.mem_map.mp hl
  simp only [arms, List.mem_append, List.mem_map, List.mem_singleton] at hline
  rcases hline with ⟨e, -, rfl⟩ | rfl
  · exact e.line_ne_endcase
  · exact arm_ne_endcase (by decide) (by decide) _ _

theorem header_ne_opening (t : CaseTable) :
    ∀ l ∈ [beginMarker.toList, (lengthLine t.length).toList], l ≠ "case (iptr)".toList := by
  intro l hl heq
  have hhead : l.head? = some '/' := by
    simp only [List.mem_cons, List.not_mem_nil, or_false] at hl
    rcases hl with rfl | rfl
    · decide
    · rw [toList_lengthLine]
      rfl
  rw [heq] at hhead
  exact absurd hhead (by decide)

/-- The lines of the statement are the arms of the table. -/
theorem body_layout (t : CaseTable) (indent : Nat) :
    body (flushLines (t.layout indent).text.toList) = t.arms.map String.toList := by
  rw [flushLines_layout, header, List.map_cons, List.map_cons, List.map_singleton, toList_opening]
  exact body_append t.header_ne_opening t.arms_ne_endcase _

theorem mapM_readArm?_lines (es : List CaseEntry) :
    ((es.map CaseEntry.line).map String.toList).mapM readArm? = some (es.map CaseEntry.arm) := by
  induction es with
  | nil => rfl
  | cons e es ih =>
    rw [List.map_cons, List.map_cons, List.mapM_cons, e.readArm?_line, ih]
    rfl

/-- Every line of the statement is read, as what its arm says. -/
theorem readCase?_layout (t : CaseTable) (indent : Nat) :
    readCase? (t.layout indent).text = some t.readings := by
  have hdefault : readArm? (arm "default" nopCode "NOP").toList = some defaultArm :=
    readArm?_arm (by decide) rfl _ _
  rw [readCase?, body_layout, arms, List.map_append, List.mapM_append, mapM_readArm?_lines]
  simp [hdefault, readings]

/-- The length that a block gives is the number of its entries. -/
theorem readLength?_layout (t : CaseTable) (indent : Nat) :
    readLength? (t.layout indent).text = some t.length := by
  have hfirst : beginMarker.toList.dropPrefix? "// PROGRAM LENGTH (PROG_LEN) should be set to: ".toList = none := by
    decide
  have hline : (lengthLine t.length).toList.dropPrefix?
      "// PROGRAM LENGTH (PROG_LEN) should be set to: ".toList = some (toString t.length).toList := by
    rw [toList_lengthLine]
    exact List.dropPrefix?_append_of_beq _ (by simp)
  rw [readLength?, flushLines_layout, header, List.map_cons, List.map_cons, List.cons_append, List.cons_append,
    List.findSome?_cons, hfirst, Option.bind_none, List.findSome?_cons, hline, Option.bind_some,
    Text.decimal?_toString]

/-! ### What a program's block selects -/

/-- The labels of a program's block are its addresses in order, and the default label last. -/
theorem labels_ofProgram (p : Program) :
    (ofProgram p).readings.map Arm.label = (List.range p.length).map some ++ [none] := by
  have hlabel : ∀ x : Operation × Nat, (CaseEntry.arm ⟨⟨x.2⟩, x.1⟩).label = some x.2 := fun _ => rfl
  have hindex : p.operations.zipIdx.map Prod.snd = List.range p.length := by
    rw [List.zipIdx_map_snd, ← List.range_eq_range']
    rfl
  simp only [readings, ofProgram, List.map_append, List.map_map, Function.comp_def, hlabel, ← hindex]
  rfl

theorem find?_zipIdx (ops : List Operation) (k i : Nat) :
    ((ops.zipIdx k).map fun x => CaseEntry.arm ⟨⟨x.2⟩, x.1⟩).find? (·.label = some (k + i)) =
      ops[i]?.map fun op => CaseEntry.arm ⟨⟨k + i⟩, op⟩ := by
  induction ops generalizing k i with
  | nil => rfl
  | cons op ops ih =>
    rw [List.zipIdx_cons, List.map_cons]
    cases i with
    | zero => exact List.find?_cons_of_pos (by simp [CaseEntry.arm])
    | succ i =>
      have hk : k + (i + 1) = k + 1 + i := by omega
      rw [List.find?_cons_of_neg (by simp [CaseEntry.arm]), List.getElem?_cons_succ, hk]
      exact ih (k + 1) i

/-- The word at an address is that of the operation there, and past the end the no-op word. -/
theorem select?_ofProgram (p : Program) (i : Nat) :
    select? (ofProgram p).readings i = some ((p.operations[i]?.map Operation.code).getD nopCode) := by
  have hentry : ((ofProgram p).entries.map CaseEntry.arm).find? (·.label = some i) =
      p.operations[i]?.map fun op => CaseEntry.arm ⟨⟨i⟩, op⟩ := by
    have h := find?_zipIdx p.operations 0 i
    rw [Nat.zero_add] at h
    rw [← h, ofProgram, List.map_map]
    rfl
  have hnone : ((ofProgram p).entries.map CaseEntry.arm).find? (·.label = none) = none := by
    rw [List.find?_eq_none]
    intro a ha
    obtain ⟨e, -, rfl⟩ := List.mem_map.mp ha
    simp [CaseEntry.arm]
  rw [select?, readings, List.find?_append, List.find?_append, hentry, hnone]
  cases p.operations[i]? with
  | none => rfl
  | some op => rfl

end CaseTable

theorem value_generate (source : String) (indent : UInt64) :
    (generate source indent).value = (CaseTable.ofProgram (.ofSource source)).render indent := by
  simp only [generate, Program.clean, CaseTable.draw, Log.Recorded.value_bind, Log.Recorded.value_pure]
  cases (CaseTable.ofProgram (.ofSource source)).render indent with
  | error e => rfl
  | ok block => rfl

theorem value_generateStrict (source : String) (indent : UInt64) :
    (generateStrict source indent).value =
      match Program.ofStrictSource source with
      | .error e => .error (.unknownSymbol e)
      | .ok program => ((CaseTable.ofProgram program).render indent).mapError .limit := by
  rw [generateStrict]
  cases Program.ofStrictSource source with
  | error e => rfl
  | ok program =>
    simp only [CaseTable.draw, Log.Recorded.value_bind, Log.Recorded.value_pure]
    cases (CaseTable.ofProgram program).render indent with
    | error e => rfl
    | ok block => rfl

/-- Up to the largest indentation in use there is always a block. -/
theorem CaseTable.render_of_le (t : CaseTable) {indent : UInt64} (h : indent.toNat ≤ 5000) :
    t.render indent = .ok (t.layout indent.toNat) := by
  have hfits : indent.toNat + armIndent ≤ maxTextLength := by
    simp only [armIndent, maxTextLength]
    omega
  rw [render_eq, if_pos hfits]

theorem value_generate_of_le (source : String) {indent : UInt64} (h : indent.toNat ≤ 5000) :
    (generate source indent).value = .ok ((CaseTable.ofProgram (.ofSource source)).layout indent.toNat) := by
  rw [value_generate, CaseTable.render_of_le _ h]

/-- The block of a source, read as a case statement, is the memory of its program: one arm for each address in
order and the default arm last, each address selects its operation's word and every other one the no-op word,
the comment of a labelled arm is the character with the arm's word, and the length given above the statement
is the number of operations. -/
theorem generate_reads_as_program (source : String) (indent : UInt64) (h : indent.toNat ≤ 5000) :
    ∃ block arms, (generate source indent).value = .ok block ∧ readCase? block.text = some arms ∧
      arms.map Arm.label = (List.range (Program.ofSource source).length).map some ++ [none] ∧
      (∀ i, select? arms i =
        some (((Program.ofSource source).operations[i]?.map Operation.code).getD nopCode)) ∧
      (∀ a ∈ arms, a.label ≠ none → ∃ c, a.comment = [c] ∧ c.toNat = a.word.toNat) ∧
      readLength? block.text = some (Program.ofSource source).length ∧
      block.count = (Program.ofSource source).length := by
  let t := CaseTable.ofProgram (.ofSource source)
  have hlength : t.length = (Program.ofSource source).length := CaseTable.length_ofProgram _
  refine ⟨t.layout indent.toNat, t.readings, value_generate_of_le source h, t.readCase?_layout _,
    CaseTable.labels_ofProgram _, CaseTable.select?_ofProgram _, ?_, ?_, hlength⟩
  · intro a ha hlabel
    rcases List.mem_append.mp ha with ha | ha
    · obtain ⟨e, -, rfl⟩ := List.mem_map.mp ha
      exact ⟨e.operation.symbol, rfl, e.operation.code_toNat.symm⟩
    · obtain rfl := List.mem_singleton.mp ha
      exact absurd rfl hlabel
  · rw [t.readLength?_layout, hlength]

/-- No comment reaches the memory, not even a character whose code ends in that of an operation. -/
theorem generate_reads_as_program_commented :
    (3 : UInt64).toNat ≤ 5000 ∧ ∃ block arms, (generate "+ ī\n[x]" 3).value = .ok block ∧
      readCase? block.text = some arms ∧ arms.map Arm.label = [some 0, some 1, some 2, none] ∧
      [0, 1, 2, 3, 70000].map (select? arms) = [some 0x2B, some 0x5B, some 0x5D, some 0x00, some 0x00] ∧
      readLength? block.text = some 3 ∧ block.count = 3 := by
  have hops : (Program.ofSource "+ ī\n[x]").operations = [.increment, .jumpForward, .jumpBackward] := by decide
  refine ⟨by decide, ?_⟩
  obtain ⟨block, arms, hblock, harms, hlabels, hselect, -, hline, hcount⟩ :=
    generate_reads_as_program "+ ī\n[x]" 3 (by decide)
  simp only [Program.length, hops] at hlabels hselect hline hcount
  refine ⟨block, arms, hblock, harms, hlabels, ?_, hline, hcount⟩
  simp only [List.map_cons, List.map_nil, hselect]
  decide

end ProgramRom
