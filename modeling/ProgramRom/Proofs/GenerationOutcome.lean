import Mathlib.Algebra.Group.Nat.Defs
import ProgramRom.Proofs.CaseStatement
import ProgramRom.Proofs.Cleaning

/-! # How a generation ends

A block is made unless no text holds one of its margins. The margin of the statement is made before the indentation of
the arms is added up, and an indentation for which that sum would wrap around has no margin. So the sum never stops a
generation. Strict generation reads its source before any margin is made, and from there on it ends like the permissive
one. -/

namespace ProgramRom

namespace CaseTable

theorem innerIndent_eq_error_iff {indent : UInt64} :
    innerIndent indent = .error .sum ↔ 2 ^ 64 ≤ indent.toNat + armIndent := by
  have htwo : armIndent.toUInt64.toNat = armIndent := rfl
  unfold innerIndent Word.add
  rw [htwo]
  constructor
  · intro h
    split at h
    · cases h
    · rename_i hlarge
      exact Nat.not_lt.mp hlarge
  · intro hlarge
    exact if_neg (Nat.not_lt.mpr hlarge)

theorem render_of_ge (t : CaseTable) {indent : UInt64} (h : 2 ^ 63 ≤ indent.toNat) :
    t.render indent = .error .textLength := by
  have hlarge : ¬indent.toNat + armIndent ≤ maxTextLength := by
    simp only [armIndent, maxTextLength]
    omega
  rw [render_eq, if_neg hlarge]

theorem render_ne_sum (t : CaseTable) (indent : UInt64) : t.render indent ≠ .error .sum := by
  rw [render_eq]
  intro h
  split at h
  · cases h
  · cases h

end CaseTable

theorem LimitError.eq_sum_of_message {e : LimitError} (h : e.message = "attempt to add with overflow") : e = .sum := by
  cases e with
  | textLength => exact absurd h (by decide)
  | sum => rfl

theorem value_generateStrict_of_error {source : String} {e : UnknownSymbol} (h : Program.ofStrictSource source = .error e)
    (indent : UInt64) : (generateStrict source indent).value = .error (.unknownSymbol e) := by
  rw [value_generateStrict, h]

/-- A source that is read strictly is the same program as without strictness. -/
theorem value_generateStrict_of_ok {source : String} {p : Program} (h : Program.ofStrictSource source = .ok p)
    (indent : UInt64) : (generateStrict source indent).value = (generate source indent).value.mapError .limit := by
  obtain ⟨-, rfl⟩ := Program.ofStrictSource_eq_ok_iff.mp h
  rw [value_generateStrict, value_generate, h]

/-- Up to the largest indentation in use there is a block, and from half the address space on the indentation fits no
text. The sum that gives the indentation of the arms never stops a generation, though it would wrap around for the two
largest words. Strict generation fails as strict reading does, whatever the indentation, and otherwise ends as the
permissive one: with the same block, or at the same limit. -/
theorem generation_outcome (source : String) (indent : UInt64) :
    (indent.toNat ≤ 5000 → ∃ block, (generate source indent).value = .ok block) ∧
    (2 ^ 63 ≤ indent.toNat →
      ∃ e, (generate source indent).value = .error e ∧ e.message = "capacity overflow") ∧
    (∀ e, (generate source indent).value = .error e → e.message ≠ "attempt to add with overflow") ∧
    (CaseTable.innerIndent indent = .error .sum ↔ 2 ^ 64 ≤ indent.toNat + 2) ∧
    (∀ e, Program.ofStrictSource source = .error e →
      (generateStrict source indent).value = .error (.unknownSymbol e)) ∧
    ∀ p, Program.ofStrictSource source = .ok p →
      (generateStrict source indent).value = (generate source indent).value.mapError .limit := by
  refine ⟨?_, ?_, ?_, CaseTable.innerIndent_eq_error_iff, ?_, ?_⟩
  · intro h
    exact ⟨_, value_generate_of_le source h⟩
  · intro h
    rw [value_generate]
    exact ⟨.textLength, CaseTable.render_of_ge _ h, rfl⟩
  · intro e he hmessage
    rw [value_generate, LimitError.eq_sum_of_message hmessage] at he
    exact CaseTable.render_ne_sum _ _ he
  · intro e he
    exact value_generateStrict_of_error he indent
  · intro p hp
    exact value_generateStrict_of_ok hp indent

/-- The largest indentation, for which the sum alone would wrap around: the source decides whether it is reached. A stray
character is reported there, and a source without one stops at the margin. -/
theorem generation_outcome_largest :
    CaseTable.innerIndent 18446744073709551615 = .error .sum ∧
      (∃ e, (generate "+ +#" 18446744073709551615).value = .error e ∧ e.message = "capacity overflow") ∧
      (generateStrict "+ +#" 18446744073709551615).value = .error (.unknownSymbol ⟨⟨1, 4⟩, '#'⟩) ∧
      (∃ e, (generateStrict "+ +" 18446744073709551615).value = .error (.limit e) ∧ e.message = "capacity overflow") ∧
      ∃ block, (generateStrict "+ +" 4).value = .ok block ∧ (generate "+ +" 4).value = .ok block := by
  obtain ⟨-, hlarge, -, hsum, hstray, -⟩ := generation_outcome "+ +#" 18446744073709551615
  obtain ⟨-, hlimit, -, -, -, hreached⟩ := generation_outcome "+ +" 18446744073709551615
  obtain ⟨hsmall, -, -, -, -, hsame⟩ := generation_outcome "+ +" 4
  have hread : Program.ofStrictSource "+ +" = .ok ⟨[.increment, .increment]⟩ := by decide
  refine ⟨hsum.mpr (by decide), hlarge (by decide), hstray _ (by decide), ?_, ?_⟩
  · obtain ⟨e, he, hmessage⟩ := hlimit (by decide)
    rw [hreached _ hread, he]
    exact ⟨e, rfl, hmessage⟩
  · obtain ⟨block, hblock⟩ := hsmall (by decide)
    rw [hsame _ hread, hblock]
    exact ⟨block, rfl, rfl⟩

end ProgramRom
