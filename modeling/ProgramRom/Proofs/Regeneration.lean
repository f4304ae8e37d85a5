import Mathlib.Algebra.Group.Nat.Defs
import ProgramRom.Editing
import ProgramRom.Proofs.BlockIdentity

/-! # Blocks as sources

The text of a block is itself a source. Its markers hold seven dashes each, every arm the sign of its assignment and
then its symbol, and nothing else of it is a symbol: neither an address nor a word, however long. So a block that is
fed back gives a program of known shape and length, and strict cleaning refuses it at its first marker. -/

namespace ProgramRom

open Operation Verilog

namespace Program

/-! ### Lines of a source -/

theorem ofSource_eq_empty {s : String} (h : ∀ c ∈ s.toList, c ∉ symbols) : ofSource s = empty := by
  rw [ofSource, List.filterMap_eq_nil_iff.mpr fun c hc => ofSymbol?_eq_none_iff.mpr (h c hc)]
  rfl

theorem operations_unlines_indent (n : Nat) (ls : List String) :
    (ofSource (Text.unlines (Text.indent n ls))).operations = ls.flatMap fun l => (ofSource l).operations := by
  have hspaces : (List.replicate n ' ').filterMap ofSymbol? = [] := by
    rw [List.filterMap_replicate_of_none rfl]
  induction ls with
  | nil => rfl
  | cons l ls ih =>
    have hunlines : Text.unlines (Text.indent n (l :: ls)) =
        Text.spaces n ++ l ++ "\n" ++ Text.unlines (Text.indent n ls) := by
      simp [Text.unlines, Text.indent]
    have hnewline : ofSource "\n" = empty := by decide
    simp only [hunlines, operations_ofSource_append, ih, hnewline, List.flatMap_cons]
    simp [ofSource, empty, hspaces]

/-! ### Parts of a line -/

theorem ofSource_toString (n : Nat) : ofSource (toString n) = empty := by
  refine ofSource_eq_empty fun c hc hmem => ?_
  have hdigit := Text.isDigit_of_mem_toString hc
  have hsymbols : ∀ c ∈ symbols, c.isDigit = false := by simp [symbols]
  rw [hsymbols c hmem] at hdigit
  cases hdigit

theorem ofSource_singleton_symbol (op : Operation) : ofSource (String.singleton op.symbol) = ⟨[op]⟩ := by
  simp [ofSource]

theorem ofSymbol?_hexDigit : ∀ d < 16, ofSymbol? (hexDigit d) = none := by
  decide

/-- An arm adds the sign of its assignment between its label and its comment. -/
theorem operations_arm (label : String) (word : UInt8) (comment : String) :
    (ofSource (arm label word comment)).operations =
      (ofSource label).operations ++ moveLeft :: (ofSource comment).operations := by
  have hword : word.toNat < 256 := word.toNat_lt
  have hhigh := ofSymbol?_hexDigit (word.toNat / 16) (by omega)
  have hlow := ofSymbol?_hexDigit (word.toNat % 16) (by omega)
  have hsign : (": prog_wr <= 8'h".toList).filterMap ofSymbol? = [moveLeft] := by decide
  have hclose : ("; // ".toList).filterMap ofSymbol? = [] := by decide
  simp only [ofSource, toList_arm, List.filterMap_append, List.filterMap_cons, hhigh, hlow, hsign, hclose]
  rfl

theorem operations_line (e : CaseEntry) : (ofSource e.line).operations = [moveLeft, e.operation] := by
  rw [CaseEntry.line, operations_arm, ofSource_singleton_symbol, Address.text, ofSource_toString]
  rfl

end Program

namespace CaseTable

/-! ### The program of a block -/

theorem operations_header (t : CaseTable) :
    (t.header.flatMap fun l => (Program.ofSource l).operations) = List.replicate 7 decrement := by
  have hmarker : (Program.ofSource beginMarker).operations = List.replicate 7 decrement := by decide
  have hlength : (Program.ofSource (lengthLine t.length)).operations = [] := by
    have hwords : (Program.ofSource "// PROGRAM LENGTH (PROG_LEN) should be set to: ").operations = [] := by decide
    have hline : lengthLine t.length = "// PROGRAM LENGTH (PROG_LEN) should be set to: " ++ toString t.length := rfl
    rw [hline, Program.operations_ofSource_append, hwords, Program.ofSource_toString]
    rfl
  have hopening : (Program.ofSource s!"case ({selector})").operations = [] := by decide
  simp [header, hmarker, hlength, hopening]

theorem operations_arms (t : CaseTable) :
    (t.arms.flatMap fun l => (Program.ofSource l).operations) =
      (t.entries.flatMap fun e => [moveLeft, e.operation]) ++ [moveLeft] := by
  have hdefault : (Program.ofSource (arm "default" nopCode "NOP")).operations = [moveLeft] := by
    rw [Program.operations_arm]
    decide
  rw [arms, List.flatMap_append, List.flatMap_map, List.flatMap_singleton, hdefault]
  simp only [Program.operations_line]

theorem operations_footer :
    (footer.flatMap fun l => (Program.ofSource l).operations) = List.replicate 7 decrement := by
  decide

end CaseTable

/-- What the block of a program is as a program: the dashes of the first marker, each operation behind the sign of
its assignment, the assignment of the default arm, and the dashes of the last marker. -/
def Program.echo (p : Program) : Program :=
  ⟨List.replicate 7 decrement ++ (p.operations.flatMap fun op => [moveLeft, op]) ++ [moveLeft] ++
    List.replicate 7 decrement⟩

theorem Program.length_echo (p : Program) : p.echo.length = 2 * p.length + 15 := by
  have hpairs : (p.operations.flatMap fun op => [moveLeft, op]).length = 2 * p.operations.length := by
    simp [List.length_flatMap, Nat.mul_comm]
  simp only [echo, length, List.length_append, List.length_replicate, List.length_singleton, hpairs]
  omega

/-- A block is the echo of its program, at every indentation. -/
theorem CaseTable.ofSource_layout (p : Program) (indent : Nat) :
    Program.ofSource ((ofProgram p).layout indent).text = p.echo := by
  have hentries : ((ofProgram p).entries.flatMap fun e => [moveLeft, e.operation]) =
      p.operations.flatMap fun op => [moveLeft, op] := by
    rw [← operations_entries p, List.flatMap_map]
  have hops : (Program.ofSource ((ofProgram p).layout indent).text).operations = p.echo.operations := by
    simp only [layout, lines, Text.unlines_append, Program.operations_ofSource_append,
      Program.operations_unlines_indent, operations_header, operations_arms, operations_footer, hentries, Program.echo,
      List.append_assoc]
  exact congrArg Program.mk hops

/-! ### Strict cleaning of a block -/

theorem Position.foldl_advance_spaces (p : Position) (n : Nat) :
    (List.replicate n ' ').foldl advance p = ⟨p.line, p.column + n⟩ := by
  induction n generalizing p with
  | zero => rfl
  | succ n ih =>
    rw [List.replicate_succ, List.foldl_cons, ih]
    simp only [advance, Char.reduceEq, if_false]
    rw [Nat.add_right_comm, Nat.add_assoc]

theorem CaseTable.ofStrictSource_layout (t : CaseTable) (indent : Nat) :
    Program.ofStrictSource (t.layout indent).text = .error ⟨⟨1, indent + 1⟩, '/'⟩ := by
  obtain ⟨rest, hrest⟩ := t.exists_text_layout indent
  have hspaces : ∀ b ∈ List.replicate indent ' ', Program.isAdmissible b = true := by
    intro b hb
    rw [List.eq_of_mem_replicate hb]
    decide
  have hafter : Position.after (List.replicate indent ' ') = ⟨1, indent + 1⟩ := by
    rw [Position.after, Position.foldl_advance_spaces, Position.start, Nat.add_comm]
  rw [Program.ofStrictSource_of_stray hrest hspaces (by decide), hafter]

/-! ### Generation after generation -/

namespace Editing

theorem value_apply_generate (text : String) {indent : UInt64} (h : indent.toNat ≤ 5000) :
    ((Step.generate indent).apply text).value =
      .ok (.ofBlock ((CaseTable.ofProgram (.ofSource text)).layout indent.toNat)) := by
  simp only [Step.apply, Log.Recorded.value_bind, Log.Recorded.value_pure, value_generate_of_le text h]
  rfl

theorem textAfter_ofBlock (text : String) (block : Block) : textAfter text (.ok (.ofBlock block)) = block.text := rfl

/-- Each generation has twice the operations of the one before it, and fifteen more. -/
theorem count_generation (source : String) (indents : List UInt64) (h : ∀ w ∈ indents, w.toNat ≤ 5000) (k : Nat)
    (hk : k < indents.length) :
    ∃ text, (run source (indents.map .generate)).value[k]? =
      some (.ok ⟨text, some (2 ^ k * ((Program.ofSource source).length + 15) - 15)⟩) := by
  induction indents generalizing source k with
  | nil => cases hk
  | cons w ws ih =>
    obtain ⟨hw, hws⟩ := List.forall_mem_cons.mp h
    rw [List.map_cons, value_run_cons, value_apply_generate source hw, textAfter_ofBlock]
    cases k with
    | zero =>
      refine ⟨((CaseTable.ofProgram (.ofSource source)).layout w.toNat).text, ?_⟩
      rw [List.getElem?_cons_zero, Nat.pow_zero, Nat.one_mul, Nat.add_sub_cancel, ← CaseTable.length_ofProgram]
      rfl
    | succ k =>
      have hlength : (Program.ofSource
          ((CaseTable.ofProgram (.ofSource source)).layout w.toNat).text).length + 15 =
            2 * ((Program.ofSource source).length + 15) := by
        rw [CaseTable.ofSource_layout, Program.length_echo]
        omega
      obtain ⟨text, htext⟩ := ih ((CaseTable.ofProgram (.ofSource source)).layout w.toNat).text hws k
        (Nat.lt_of_succ_lt_succ hk)
      rw [hlength, ← Nat.mul_assoc, ← Nat.pow_succ] at htext
      refine ⟨text, ?_⟩
      rw [List.getElem?_cons_succ]
      exact htext

end Editing

/-- A block that is fed back is the echo of its program, whatever its indentation. So the generations of a source
count `2 ^ k * (n + 15) - 15` operations, and strict cleaning and generation always catch the block at its first
character behind the indentation. -/
theorem generate_fed_back (source : String) (indent : UInt64) (h : indent.toNat ≤ 5000) :
    ∃ block, (generate source indent).value = .ok block ∧
      Program.ofSource block.text = (Program.ofSource source).echo ∧
      (Program.ofSource block.text).length = 2 * (Program.ofSource source).length + 15 ∧
      (∀ indents : List UInt64, (∀ w ∈ indents, w.toNat ≤ 5000) → ∀ k < indents.length,
        ∃ text, (Editing.run source (indents.map .generate)).value[k]? =
          some (.ok ⟨text, some (2 ^ k * ((Program.ofSource source).length + 15) - 15)⟩)) ∧
      Program.ofStrictSource block.text = .error ⟨⟨1, indent.toNat + 1⟩, '/'⟩ ∧
      ∀ w, (generateStrict block.text w).value = .error (.unknownSymbol ⟨⟨1, indent.toNat + 1⟩, '/'⟩) := by
  have hstrict := CaseTable.ofStrictSource_layout (.ofProgram (.ofSource source)) indent.toNat
  refine ⟨_, value_generate_of_le source h, CaseTable.ofSource_layout _ _, ?_, Editing.count_generation source, hstrict,
    fun w => ?_⟩
  · rw [CaseTable.ofSource_layout, Program.length_echo]
  · rw [value_generateStrict, hstrict]

/-- Three operations are fifty-seven two generations later, whatever the indentations. -/
theorem generate_fed_back_twice :
    (4 : UInt64).toNat ≤ 5000 ∧ ∃ block, (generate "+ [x]" 4).value = .ok block ∧
      (Program.ofSource block.text).length = 21 ∧
      (∃ text, (Editing.run "+ [x]" [.generate 4, .generate 0, .generate 5000]).value[2]? =
        some (.ok ⟨text, some 57⟩)) ∧
      Program.ofStrictSource block.text = .error ⟨⟨1, 5⟩, '/'⟩ := by
  have hlength : (Program.ofSource "+ [x]").length = 3 := by decide
  obtain ⟨block, hblock, -, hecho, hgenerations, hstrict, -⟩ := generate_fed_back "+ [x]" 4 (by decide)
  obtain ⟨text, htext⟩ := hgenerations [4, 0, 5000] (by simp) 2 (by decide)
  have hcount : 2 ^ 2 * (3 + 15) - 15 = 57 := by decide
  rw [hlength] at hecho
  rw [hlength, hcount] at htext
  exact ⟨by decide, block, hblock, hecho, ⟨text, htext⟩, hstrict⟩

end ProgramRom
