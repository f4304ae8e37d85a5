import Mathlib.Algebra.Group.Nat.Defs
import Mathlib.Data.Nat.Log
import ProgramRom.Address

/-! # Widths of addresses

The cells of a memory are numbered from zero, so its last address is one less than the number of its cells. A width
is enough for all of them when it is enough for the last one, and the width of that one is what a word leaves behind
its leading zeros. `bits_le_iff` says this of every width at once, and what else holds of widths follows from it. -/

namespace ProgramRom

/-! ### Leading zeros -/

namespace Word

/-- The bits behind the leading zeros are enough for a word. -/
theorem toNat_lt_two_pow (w : UInt64) : w.toNat < 2 ^ (width - leadingZeros w) :=
  BitVec.toNat_lt_two_pow_sub_clz

/-- The first bit behind the leading zeros is a one. -/
theorem two_pow_le_toNat {w : UInt64} (h : w ≠ 0) : 2 ^ (width - 1 - leadingZeros w) ≤ w.toNat :=
  BitVec.two_pow_sub_clz_le_toNat_of_ne_zero (by decide) fun hbits => h (UInt64.toBitVec_inj.mp hbits)

end Word

/-! ### Widths that are enough -/

namespace Address

variable {cells : UInt64}

theorem toNat_last (h : 1 ≤ cells) : (cells - 1).toNat + 1 = cells.toNat := by
  have hone : 1 ≤ cells.toNat := UInt64.le_iff_toNat_le.mp h
  rw [UInt64.toNat_sub_of_le cells 1 h]
  exact Nat.sub_add_cancel hone

theorem bits_of_le_one (h : cells ≤ 1) : bits cells = 0 := if_pos h

/-- The width of an address and the leading zeros of the last one make up a word. -/
theorem bits_add_leadingZeros (h : 1 ≤ cells) : bits cells + Word.leadingZeros (cells - 1) = Word.width := by
  by_cases hone : cells ≤ 1
  · obtain rfl : cells = 1 := UInt64.le_antisymm hone h
    decide
  · rw [bits, if_neg hone]
    exact Nat.sub_add_cancel (Word.leadingZeros_le (cells - 1))

/-- A width is enough exactly when there are as many addresses of that width as cells. -/
theorem bits_le_iff {width : Nat} : bits cells ≤ width ↔ cells.toNat ≤ 2 ^ width := by
  by_cases hone : cells ≤ 1
  · have hcells : cells.toNat ≤ 1 := UInt64.le_iff_toNat_le.mp hone
    rw [bits_of_le_one hone]
    exact ⟨fun _ => Nat.le_trans hcells Nat.one_le_two_pow, fun _ => Nat.zero_le width⟩
  have hmore : 1 < cells := UInt64.not_le.mp hone
  have hlast := toNat_last (UInt64.le_of_lt hmore)
  have hsum := bits_add_leadingZeros (UInt64.le_of_lt hmore)
  have hne : cells - 1 ≠ 0 := by
    intro hzero
    have hcells : 1 < cells.toNat := UInt64.lt_iff_toNat_lt.mp hmore
    rw [hzero, UInt64.toNat_zero] at hlast
    omega
  constructor
  · intro h
    have hfits : (cells - 1).toNat < 2 ^ (Word.width - Word.leadingZeros (cells - 1)) := Word.toNat_lt_two_pow _
    have hwider : 2 ^ (Word.width - Word.leadingZeros (cells - 1)) ≤ 2 ^ width :=
      Nat.pow_le_pow_right Nat.two_pos (by omega)
    omega
  · intro h
    -- In a smaller width there is no place for the highest one of the last address.
    by_contra hless
    have hhighest : 2 ^ (Word.width - 1 - Word.leadingZeros (cells - 1)) ≤ (cells - 1).toNat :=
      Word.two_pow_le_toNat hne
    have hnarrower : 2 ^ width ≤ 2 ^ (Word.width - 1 - Word.leadingZeros (cells - 1)) :=
      Nat.pow_le_pow_right Nat.two_pos (by omega)
    omega

/-- The number of cells is at most the number of addresses of that many bits. -/
theorem toNat_le_two_pow_bits (cells : UInt64) : cells.toNat ≤ 2 ^ bits cells :=
  bits_le_iff.mp (Nat.le_refl _)

/-- The width of an address is the logarithm of the number of cells, rounded up. -/
theorem bits_eq_clog (cells : UInt64) : bits cells = Nat.clog 2 cells.toNat :=
  eq_of_forall_ge_iff fun _ => bits_le_iff.trans (Nat.clog_le_iff_le_pow Nat.one_lt_two).symm

theorem bits_mono {cells cells' : UInt64} (h : cells ≤ cells') : bits cells ≤ bits cells' :=
  bits_le_iff.mpr (Nat.le_trans (UInt64.le_iff_toNat_le.mp h) (toNat_le_two_pow_bits cells'))

/-- A width is enough exactly when every address has it. -/
theorem bits_le_iff_forall_lt {width : Nat} : bits cells ≤ width ↔ ∀ address < cells.toNat, address < 2 ^ width := by
  rw [bits_le_iff]
  constructor
  · intro h address haddress
    exact Nat.lt_of_lt_of_le haddress h
  · intro h
    by_contra hmore
    exact Nat.lt_irrefl _ (h (2 ^ width) (Nat.lt_of_not_le hmore))

/-- As many cells as there are addresses of a width need that width. -/
theorem bits_of_toNat_eq_two_pow {j : Nat} (h : cells.toNat = 2 ^ j) : bits cells = j := by
  rw [bits_eq_clog, h, Nat.clog_pow 2 j Nat.one_lt_two]

/-- One cell more needs one bit more. -/
theorem bits_of_toNat_eq_two_pow_add_one {j : Nat} (h : cells.toNat = 2 ^ j + 1) : bits cells = j + 1 := by
  have hpos : 0 < 2 ^ j := Nat.two_pow_pos j
  apply Nat.le_antisymm
  · rw [bits_le_iff, h, Nat.pow_succ]
    omega
  · rw [Nat.succ_le_iff, ← Nat.not_le, bits_le_iff, h]
    omega

/-- The width of an address is the least one with as many addresses as there are cells: every address has it, and in
every smaller width some address is missing. It is at most that of a word. More cells never need fewer bits; a power
of two is the last number of cells with its width. Both differences on the way are taken from something at least as
large, so they are exact. -/
theorem bits_least_sufficient :
    (∀ cells : UInt64, 1 ≤ cells →
      cells.toNat ≤ 2 ^ bits cells ∧ (∀ j, cells.toNat ≤ 2 ^ j → bits cells ≤ j) ∧
      (∀ j, (∀ address < cells.toNat, address < 2 ^ j) ↔ bits cells ≤ j) ∧
      bits cells = Nat.clog 2 cells.toNat ∧ bits cells ≤ 64 ∧
      (cells - 1).toNat + 1 = cells.toNat ∧ bits cells + Word.leadingZeros (cells - 1) = 64) ∧
    (∀ cells cells' : UInt64, cells ≤ cells' → bits cells ≤ bits cells') ∧
    ∀ j ≤ 63, bits (2 ^ j).toUInt64 = j ∧ bits (2 ^ j + 1).toUInt64 = j + 1 := by
  refine ⟨fun cells h => ?_, fun cells cells' => bits_mono, fun j hj => ?_⟩
  · refine ⟨toNat_le_two_pow_bits cells, fun j => bits_le_iff.mpr, fun j => bits_le_iff_forall_lt.symm,
      bits_eq_clog cells, ?_, toNat_last h, bits_add_leadingZeros h⟩
    exact bits_le_iff.mpr (Nat.le_of_lt cells.toNat_lt)
  · have hpow : 2 ^ j ≤ 2 ^ 63 := Nat.pow_le_pow_right Nat.two_pos hj
    have hword : 2 ^ j + 1 < UInt64.size := Nat.lt_of_le_of_lt (Nat.succ_le_succ hpow) (by decide)
    exact ⟨bits_of_toNat_eq_two_pow (UInt64.toNat_ofNat_of_lt' (Nat.lt_of_succ_lt hword)),
      bits_of_toNat_eq_two_pow_add_one (UInt64.toNat_ofNat_of_lt' hword)⟩

/-- A single cell, both sides of the largest power of two that a word holds, and the largest word. -/
theorem bits_least_sufficient_at_the_ends :
    bits 1 = 0 ∧ bits 0x8000000000000000 = 63 ∧ bits 0x8000000000000001 = 64 ∧
      bits 0xFFFFFFFFFFFFFFFF = 64 ∧ Word.leadingZeros 0xFFFFFFFFFFFFFFFE = 0 ∧
      ∀ j, 0xFFFFFFFFFFFFFFFF ≤ 2 ^ j → 64 ≤ j := by
  obtain ⟨hleast, -, hpowers⟩ := bits_least_sufficient
  obtain ⟨-, hsingle, -⟩ := hleast 1 (by decide)
  obtain ⟨-, hnarrow, -, -, -, -, hsum⟩ := hleast 0xFFFFFFFFFFFFFFFF (by decide)
  obtain ⟨hbelow, habove⟩ := hpowers 63 (by decide)
  have hzeros : Word.leadingZeros 0xFFFFFFFFFFFFFFFE = 0 := by decide
  have hlargest : bits 0xFFFFFFFFFFFFFFFF = 64 := by
    have hlast : (0xFFFFFFFFFFFFFFFF : UInt64) - 1 = 0xFFFFFFFFFFFFFFFE := by decide
    rwa [hlast, hzeros, Nat.add_zero] at hsum
  refine ⟨Nat.le_zero.mp (hsingle 0 (by decide)), hbelow, habove, hlargest, hzeros, fun j hj => ?_⟩
  rw [← hlargest]
  exact hnarrow j hj

end Address

end ProgramRom
