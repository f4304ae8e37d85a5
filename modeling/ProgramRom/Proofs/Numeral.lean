import Mathlib.Data.List.Basic
import ProgramRom.Text.Numeral
import ProgramRom.Verilog.Literal

/-! # Numerals that are written read back

A number in its decimal text, and a word in the two digits of its literal, are what the digits are read as. -/

namespace ProgramRom.Text

/-! ### Decimal numerals -/

theorem digitValue_of_isDigit {c : Char} (h : c.isDigit = true) : digitValue c = c.toNat - '0'.toNat := by
  simp [digitValue, h]

theorem numeralValue_eq_ofDigitChars {cs : List Char} (h : ∀ c ∈ cs, c.isDigit = true) :
    numeralValue 10 cs = Nat.ofDigitChars 10 cs 0 := by
  rw [numeralValue, Nat.ofDigitChars_eq_foldl]
  apply List.foldl_ext
  intro value c hc
  rw [digitValue_of_isDigit (h c hc), Nat.mul_comm]

theorem isDigit_of_mem_toString {n : Nat} {c : Char} (h : c ∈ (toString n).toList) : c.isDigit = true := by
  rw [Nat.toString_eq_repr, Nat.toList_repr] at h
  exact Nat.isDigit_of_mem_toDigits (by decide) (by decide) h

theorem not_mem_toString {c : Char} (h : c.isDigit = false) (n : Nat) : c ∉ (toString n).toList := fun hmem => by
  rw [isDigit_of_mem_toString hmem] at h
  cases h

theorem toList_toString_ne_nil (n : Nat) : (toString n).toList ≠ [] := by
  rw [Nat.toString_eq_repr, Nat.toList_repr]
  exact Nat.toDigits_ne_nil

/-- The decimal text of a number is read as that number. -/
theorem decimal?_toString (n : Nat) : decimal? (toString n).toList = some n := by
  have hdigits : ∀ c ∈ (toString n).toList, c.isDigit = true := fun c hc => isDigit_of_mem_toString hc
  have hvalue : numeralValue 10 (toString n).toList = n := by
    rw [numeralValue_eq_ofDigitChars hdigits, Nat.toString_eq_repr, Nat.toList_repr]
    exact Nat.ofDigitChars_ten_toDigits
  exact numeral?_eq_some_iff.mpr ⟨toList_toString_ne_nil n, hdigits, hvalue⟩

/-! ### Digits of a word -/

theorem isHexDigit_hexDigit : ∀ d < 16, isHexDigit (Verilog.hexDigit d) = true := by
  decide

theorem digitValue_hexDigit : ∀ d < 16, digitValue (Verilog.hexDigit d) = d := by
  decide

/-- The digits of a word's literal are read as the word. -/
theorem hexadecimal?_word (word : UInt8) :
    hexadecimal? [Verilog.hexDigit (word.toNat / 16), Verilog.hexDigit (word.toNat % 16)] = some word.toNat := by
  have hword : word.toNat < 256 := word.toNat_lt
  have hhigh : word.toNat / 16 < 16 := by omega
  have hlow : word.toNat % 16 < 16 := by omega
  refine numeral?_eq_some_iff.mpr ⟨List.cons_ne_nil _ _, ?_, ?_⟩
  · intro c hc
    simp only [List.mem_cons, List.not_mem_nil, or_false] at hc
    rcases hc with rfl | rfl
    · exact isHexDigit_hexDigit _ hhigh
    · exact isHexDigit_hexDigit _ hlow
  · simp only [numeralValue, List.foldl_cons, List.foldl_nil, digitValue_hexDigit _ hhigh,
      digitValue_hexDigit _ hlow]
    omega

end ProgramRom.Text
