import ProgramRom.Proofs.CaseStatement
import ProgramRom.Proofs.Cleaning

/-! # What a block determines

A block begins with the spaces of its indentation and the slash of a marker, and its statement says which table
it was made from. So it stands for one program at one indentation. In the other direction only the symbols of a
source reach the block. -/

namespace ProgramRom

open Operation Verilog

/-! ### The indentation -/

/-- The number of spaces that a text begins with. -/
def leadingSpaces (text : String) : Nat := (text.toList.takeWhile (· = ' ')).length

namespace CaseTable

theorem exists_text_layout (t : CaseTable) (indent : Nat) :
    ∃ rest, (t.layout indent).text.toList = List.replicate indent ' ' ++ '/' :: rest := by
  obtain ⟨marker, hmarker⟩ : ∃ marker, beginMarker.toList = '/' :: marker := ⟨_, rfl⟩
  refine ⟨marker ++ '\n' :: (Text.unlines ((t.lines indent (indent + armIndent)).drop 1)).toList, ?_⟩
  simp [layout, lines, header, Text.indent, Text.toList_unlines, hmarker]

theorem leadingSpaces_layout (t : CaseTable) (indent : Nat) : leadingSpaces (t.layout indent).text = indent := by
  obtain ⟨rest, hrest⟩ := t.exists_text_layout indent
  rw [leadingSpaces, hrest, Text.takeWhile_run (by simp) (Text.stops_cons rfl), List.length_replicate]

end CaseTable

/-! ### The table -/

theorem Operation.symbol_injective {op op' : Operation} (h : op.symbol = op'.symbol) : op = op' := by
  have hop := ofSymbol?_symbol op
  rw [h, ofSymbol?_symbol] at hop
  exact (Option.some.inj hop).symm

theorem CaseEntry.arm_injective {e e' : CaseEntry} (h : e.arm = e'.arm) : e = e' := by
  obtain ⟨⟨index⟩, op⟩ := e
  obtain ⟨⟨index'⟩, op'⟩ := e'
  simp only [CaseEntry.arm, Arm.mk.injEq, Option.some.injEq, List.cons.injEq, and_true] at h
  obtain ⟨rfl, -, hsymbol⟩ := h
  rw [symbol_injective hsymbol]

namespace CaseTable

theorem readings_injective {t t' : CaseTable} (h : t.readings = t'.readings) : t = t' := by
  obtain ⟨entries⟩ := t
  obtain ⟨entries'⟩ := t'
  have harms : entries.map CaseEntry.arm = entries'.map CaseEntry.arm := List.append_cancel_right h
  rw [List.map_injective_iff.mpr (fun _ _ => CaseEntry.arm_injective) harms]

theorem ofProgram_injective {p p' : Program} (h : ofProgram p = ofProgram p') : p = p' := by
  have hops : p.operations = p'.operations := by
    rw [← operations_entries p, ← operations_entries p', h]
  obtain ⟨operations⟩ := p
  exact congrArg Program.mk hops

/-- No two tables, and no two indentations, share a text. -/
theorem layout_text_injective {t t' : CaseTable} {indent indent' : Nat}
    (h : (t.layout indent).text = (t'.layout indent').text) : indent = indent' ∧ t = t' := by
  have hindent := t.leadingSpaces_layout indent
  have hreadings := t.readCase?_layout indent
  rw [h, leadingSpaces_layout] at hindent
  rw [h, readCase?_layout, Option.some.injEq] at hreadings
  exact ⟨hindent.symm, (readings_injective hreadings).symm⟩

end CaseTable

/-- The block depends on the indentation and the symbols of the source alone, and determines both. So a character
that is no symbol has no influence wherever it stands, and no character beyond the bytes is a symbol. -/
theorem generate_text_eq_iff (s₁ s₂ : String) (w₁ w₂ : UInt64) (h₁ : w₁.toNat ≤ 5000) (h₂ : w₂.toNat ≤ 5000) :
    ∃ b₁ b₂, (generate s₁ w₁).value = .ok b₁ ∧ (generate s₂ w₂).value = .ok b₂ ∧
      (b₁.text = b₂.text ↔ w₁ = w₂ ∧ Program.ofSource s₁ = .ofSource s₂) ∧
      (Program.ofSource s₁ = .ofSource s₂ ↔
        s₁.toList.filter (· ∈ symbols) = s₂.toList.filter (· ∈ symbols)) ∧
      ∀ c before behind, c ∉ symbols ∨ 0xFF < c.toNat →
        (generate (before ++ String.singleton c ++ behind) w₁).value = (generate (before ++ behind) w₁).value := by
  refine ⟨_, _, value_generate_of_le s₁ h₁, value_generate_of_le s₂ h₂, ⟨fun h => ?_, ?_⟩, Program.ofSource_eq_iff, ?_⟩
  · obtain ⟨hindent, htable⟩ := CaseTable.layout_text_injective h
    exact ⟨UInt64.toNat_inj.mp hindent, CaseTable.ofProgram_injective htable⟩
  · rintro ⟨rfl, hprogram⟩
    rw [hprogram]
  · intro c before behind hc
    have hcomment : c ∉ symbols := by
      rcases hc with hc | hc
      · exact hc
      · exact fun hmem => absurd (toNat_le_of_mem_symbols c hmem) (by omega)
    rw [value_generate, value_generate, Program.ofSource_insert hcomment]

/-- The letter `ī` ends in the code of `+`, and changes nothing. One column does. -/
theorem generate_text_eq_iff_aliased :
    (2 : UInt64).toNat ≤ 5000 ∧ (3 : UInt64).toNat ≤ 5000 ∧
      (∃ b₁ b₂, (generate "+[ī-] more" 2).value = .ok b₁ ∧ (generate "+[\n-]" 2).value = .ok b₂ ∧
        b₁.text = b₂.text) ∧
      (∃ b₁ b₂, (generate "+[-]" 2).value = .ok b₁ ∧ (generate "+[-]" 3).value = .ok b₂ ∧ b₁.text ≠ b₂.text) ∧
      ∃ b₁ b₂, (generate "+[-]" 2).value = .ok b₁ ∧ (generate "+[+]" 2).value = .ok b₂ ∧ b₁.text ≠ b₂.text := by
  refine ⟨by decide, by decide, ?_, ?_, ?_⟩
  · obtain ⟨b₁, b₂, hb₁, hb₂, hiff, -⟩ :=
      generate_text_eq_iff "+[ī-] more" "+[\n-]" 2 2 (by decide) (by decide)
    exact ⟨b₁, b₂, hb₁, hb₂, hiff.mpr ⟨rfl, by decide⟩⟩
  · obtain ⟨b₁, b₂, hb₁, hb₂, hiff, -⟩ := generate_text_eq_iff "+[-]" "+[-]" 2 3 (by decide) (by decide)
    exact ⟨b₁, b₂, hb₁, hb₂, fun htext => absurd (hiff.mp htext).1 (by decide)⟩
  · obtain ⟨b₁, b₂, hb₁, hb₂, hiff, -⟩ := generate_text_eq_iff "+[-]" "+[+]" 2 2 (by decide) (by decide)
    exact ⟨b₁, b₂, hb₁, hb₂, fun htext => absurd (hiff.mp htext).2 (by decide)⟩

end ProgramRom
