import ProgramRom.Proofs.BlockIdentity

/-! # Lines and indentation of a block

A block is a sequence of lines, each ended by its newline. Without its margin no line holds a newline or begins with a
space, so the lines can be told apart again, and the spaces that one begins with are those of its margin. A block
further in is the same block behind a wider margin. -/

namespace ProgramRom

namespace Text

/-! ### Lines of a text -/

/-- The lines of a text, if each of them is ended by a newline. -/
def lines? (text : String) : Option (List String) :=
  if (parts '\n' text).getLast? = some "" then some (parts '\n' text).dropLast else none

theorem unlines_cons (line : String) (lines : List String) :
    unlines (line :: lines) = line ++ String.singleton '\n' ++ unlines lines := by
  simp [← String.toList_inj, toList_unlines]

theorem parts_unlines {lines : List String} (h : ∀ l ∈ lines, '\n' ∉ l.toList) :
    parts '\n' (unlines lines) = lines ++ [""] := by
  induction lines with
  | nil => exact parts_of_not_mem (by simp [toList_unlines])
  | cons line lines ih =>
    obtain ⟨hline, hlines⟩ := List.forall_mem_cons.mp h
    rw [unlines_cons, parts_append hline, ih hlines]
    rfl

/-- Lines without a newline of their own are found again. -/
theorem lines?_unlines {lines : List String} (h : ∀ l ∈ lines, '\n' ∉ l.toList) : lines? (unlines lines) = some lines := by
  rw [lines?, parts_unlines h, List.getLast?_concat, if_pos rfl, List.dropLast_concat]

/-! ### Margins -/

theorem spaces_append_spaces (m n : Nat) : spaces m ++ spaces n = spaces (m + n) := by
  simp [← String.toList_inj]

theorem indent_indent (m n : Nat) (lines : List String) : indent m (indent n lines) = indent (m + n) lines := by
  simp only [indent, List.map_map, Function.comp_def, ← String.append_assoc, spaces_append_spaces]

theorem indent_append (n : Nat) (xs ys : List String) : indent n (xs ++ ys) = indent n xs ++ indent n ys :=
  List.map_append

end Text

open Verilog

theorem ascii_of_isPlain {c : Char} (h : isPlain c = true) : c ≠ '\n' ∧ c.toNat < 128 := by
  simp only [isPlain, Bool.and_eq_true, decide_eq_true_eq] at h
  refine ⟨?_, ?_⟩
  · rintro rfl
    exact absurd h.1 (by decide)
  · exact Nat.lt_of_le_of_lt h.2 (by decide)

theorem isPlain_of_mem_indent {n : Nat} {ls : List String} (h : ∀ l ∈ ls, Flush l) :
    ∀ l ∈ Text.indent n ls, ∀ c ∈ l.toList, isPlain c = true := by
  intro l hl c hc
  obtain ⟨line, hline, rfl⟩ := List.mem_map.mp hl
  rw [String.toList_append, Text.toList_spaces, List.mem_append] at hc
  rcases hc with hc | hc
  · rw [List.eq_of_mem_replicate hc]
    rfl
  · exact (h line hline).plain c hc

theorem leadingSpaces_spaces_append (n : Nat) {line : String} (h : line.toList.head? ≠ some ' ') :
    leadingSpaces (Text.spaces n ++ line) = n := by
  rw [leadingSpaces, String.toList_append, Text.toList_spaces, Text.takeWhile_run (by simp) (Text.stops_eq h),
    List.length_replicate]

theorem map_leadingSpaces_indent {n : Nat} {ls : List String} (h : ∀ l ∈ ls, Flush l) :
    (Text.indent n ls).map leadingSpaces = List.replicate ls.length n := by
  rw [List.eq_replicate_iff]
  refine ⟨by simp [Text.indent], ?_⟩
  intro k hk
  obtain ⟨l, hl, rfl⟩ := List.mem_map.mp hk
  obtain ⟨line, hline, rfl⟩ := List.mem_map.mp hl
  exact leadingSpaces_spaces_append n (h line hline).head

/-! ### The lines of a block -/

/-- The lines of a text that is laid out as a block of `n` labelled arms: three of them open the statement, two close
it, and the arms, the default one last, stand two columns further in. -/
structure LaidOut (text : String) (n indent : Nat) (ls : List String) : Prop where
  written : text = Text.unlines ls
  lines : Text.lines? text = some ls
  length : ls.length = n + 6
  ascii : ∀ l ∈ ls, ∀ c ∈ l.toList, c ≠ '\n' ∧ c.toNat < 128
  leading : ls.map leadingSpaces =
    List.replicate 3 indent ++ List.replicate (n + 1) (indent + 2) ++ List.replicate 2 indent

/-- The second block has the lines of the first, behind as many more spaces as it is indented further. -/
def IndentedAlike (n indent indent' : Nat) (block block' : Block) : Prop :=
  ∃ ls, LaidOut block.text n indent ls ∧
    block'.text = Text.unlines (ls.map (Text.spaces (indent' - indent) ++ ·)) ∧
    block.count = n ∧ block'.count = n

namespace CaseTable

theorem isPlain_of_mem_lines (t : CaseTable) (outer inner : Nat) :
    ∀ l ∈ t.lines outer inner, ∀ c ∈ l.toList, isPlain c = true := by
  intro l hl
  rcases List.mem_append.mp hl with hl | hl
  · rcases List.mem_append.mp hl with hl | hl
    · exact isPlain_of_mem_indent t.flush_header l hl
    · exact isPlain_of_mem_indent t.flush_arms l hl
  · exact isPlain_of_mem_indent flush_footer l hl

theorem length_arms (t : CaseTable) : t.arms.length = t.length + 1 := by
  simp [arms, length]

theorem map_leadingSpaces_lines (t : CaseTable) (outer inner : Nat) :
    (t.lines outer inner).map leadingSpaces =
      List.replicate 3 outer ++ List.replicate (t.length + 1) inner ++ List.replicate 2 outer := by
  rw [lines, List.map_append, List.map_append, map_leadingSpaces_indent t.flush_header,
    map_leadingSpaces_indent t.flush_arms, map_leadingSpaces_indent flush_footer, length_arms]
  rfl

theorem indent_lines (t : CaseTable) (k outer inner : Nat) :
    Text.indent k (t.lines outer inner) = t.lines (k + outer) (k + inner) := by
  simp only [lines, Text.indent_append, Text.indent_indent]

theorem laidOut_layout (t : CaseTable) (indent : Nat) :
    LaidOut (t.layout indent).text t.length indent (t.lines indent (indent + armIndent)) where
  written := rfl
  lines := Text.lines?_unlines fun l hl => newline_not_mem (t.isPlain_of_mem_lines _ _ l hl)
  length := by
    have hlength := congrArg List.length (t.map_leadingSpaces_lines indent (indent + armIndent))
    simp only [List.length_map, List.length_append, List.length_replicate] at hlength
    omega
  ascii l hl c hc := ascii_of_isPlain (t.isPlain_of_mem_lines _ _ l hl c hc)
  leading := t.map_leadingSpaces_lines indent (indent + armIndent)

theorem indentedAlike_layout (t : CaseTable) {indent indent' : Nat} (h : indent ≤ indent') :
    IndentedAlike t.length indent indent' (t.layout indent) (t.layout indent') := by
  refine ⟨_, t.laidOut_layout indent, ?_, rfl, rfl⟩
  have hwider := t.indent_lines (indent' - indent) indent (indent + armIndent)
  rw [← Nat.add_assoc, Nat.sub_add_cancel h] at hwider
  exact congrArg Text.unlines hwider.symm

/-- The blocks of a program at two indentations in use. -/
theorem exists_indentedAlike (p : Program) {indent indent' : UInt64} (h : indent ≤ indent')
    (h' : indent'.toNat ≤ 5000) :
    ∃ block block', (ofProgram p).render indent = .ok block ∧ (ofProgram p).render indent' = .ok block' ∧
      IndentedAlike p.length indent.toNat indent'.toNat block block' := by
  have hle : indent.toNat ≤ indent'.toNat := h
  refine ⟨_, _, render_of_le _ (by omega), render_of_le _ h', ?_⟩
  rw [← length_ofProgram]
  exact indentedAlike_layout _ hle

end CaseTable

/-- The block of a source, and that of any program, has six lines more than operations. Each line is ended by a newline
and otherwise plain ASCII; the first three and the last two begin with the spaces of the indentation and the arms between
them with two more. Further in, the block has the same lines behind so many more spaces, and the same count. -/
theorem block_lines_and_indentation (indent indent' : UInt64) (h : indent ≤ indent') (h' : indent'.toNat ≤ 5000) :
    (∀ source, ∃ block block', (generate source indent).value = .ok block ∧
      (generate source indent').value = .ok block' ∧
      IndentedAlike (Program.ofSource source).length indent.toNat indent'.toNat block block') ∧
    ∀ p : Program, ∃ block block', (CaseTable.ofProgram p).render indent = .ok block ∧
      (CaseTable.ofProgram p).render indent' = .ok block' ∧
      IndentedAlike p.length indent.toNat indent'.toNat block block' := by
  refine ⟨?_, ?_⟩
  · intro source
    rw [value_generate, value_generate]
    exact CaseTable.exists_indentedAlike (.ofSource source) h h'
  · intro p
    exact CaseTable.exists_indentedAlike p h h'

/-- A block of three operations, comments and a newline in its source, moved two columns further in. -/
theorem block_lines_and_indentation_moved :
    (1 : UInt64) ≤ 3 ∧ (3 : UInt64).toNat ≤ 5000 ∧
      ∃ block block' ls, (generate "+ ī\n[x]" 1).value = .ok block ∧ (generate "+ ī\n[x]" 3).value = .ok block' ∧
        Text.lines? block.text = some ls ∧ ls.map leadingSpaces = [1, 1, 1, 3, 3, 3, 3, 1, 1] ∧
        block'.text = Text.unlines (ls.map ("  " ++ ·)) ∧ block.count = 3 ∧ block'.count = 3 := by
  refine ⟨by decide, by decide, ?_⟩
  obtain ⟨hsource, -⟩ := block_lines_and_indentation 1 3 (by decide) (by decide)
  obtain ⟨block, block', hblock, hblock', ls, hlaid, htext, hcount, hcount'⟩ := hsource "+ ī\n[x]"
  exact ⟨block, block', ls, hblock, hblock', hlaid.lines, hlaid.leading, htext, hcount, hcount'⟩

end ProgramRom
