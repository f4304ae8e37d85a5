import Mathlib.Algebra.Group.Nat.Defs
import ProgramRom.Memory.Report
import ProgramRom.Proofs.AddressWidth
import ProgramRom.Proofs.Failing

/-! # Estimates are exact

The sizes of the memories are products of capacities and widths, in the natural numbers. An estimate is made where
their sum fits a word, and nowhere else: a product that fits no word alone makes the sum too large already. Once an
estimate is made, the same sum is added up again without a check, and cannot fail. -/

namespace ProgramRom

/-! ### Words that hold a sum -/

namespace Word

/-- A sum that is kept on the way to a larger one makes no difference. -/
theorem fit?_bind_add (m n : Nat) : (fit? m >>= fun w => fit? (w.toNat + n)) = fit? (m + n) := by
  cases hm : fit? m with
  | none =>
    have hlarge := fit?_eq_none_iff.mp hm
    exact (fit?_eq_none_iff.mpr (by omega)).symm
  | some w =>
    rw [← fit?_eq_some_iff.mp hm]
    rfl

theorem add_eq_elim (a b : UInt64) : add a b = (add? a b).elim (.error .sum) .ok := by
  cases hsum : add? a b with
  | none =>
    have hlarge := fit?_eq_none_iff.mp hsum
    exact if_neg (by omega)
  | some c => exact add_eq_ok_iff.mpr (add?_eq_some_iff.mp hsum)

end Word

namespace Memory

/-! ### Sizes in the natural numbers -/

/-- The sizes of the four memories, in bits. -/
structure Sizes where
  program : Nat
  data : Nat
  jumpTable : Nat
  bracketStack : Nat
deriving DecidableEq, Repr

def Sizes.total (s : Sizes) : Nat := s.program + s.data + s.jumpTable + s.bracketStack

/-- The sizes that a scheme needs for `p` operations and `d` cells. -/
def exactSizes (scheme : Scheme) (p d : Nat) : Sizes :=
  match scheme with
  | .packed => ⟨p * 3, d * 8, p * Nat.clog 2 p, p / 2 * Nat.clog 2 p⟩
  | .byte => ⟨p * 8, d * 8, p * Nat.clog 2 p, p * Nat.clog 2 p⟩

theorem exactSizes_eq (scheme : Scheme) (p d : UInt64) :
    exactSizes scheme p.toNat d.toNat =
      ⟨p.toNat * scheme.bitsPerOperation, d.toNat * dataCellBits, p.toNat * Address.bits p,
        (scheme.stackEntries p).toNat * Address.bits p⟩ := by
  rw [Address.bits_eq_clog]
  cases scheme with
  | packed =>
    rw [Scheme.toNat_stackEntries_packed]
    rfl
  | byte => rfl

theorem storeSize_eq_ok_iff (store : Store) {entries size : UInt64} {width : Nat} :
    storeSize entries width store = .ok size ↔ size.toNat = entries.toNat * width := by
  rw [← Word.fit?_eq_some_iff, storeSize, ← elim_eq_ok_iff (e := Fault.overflow (.size store entries.toNat width))]
  cases Word.fit? (entries.toNat * width) with
  | none => rfl
  | some fitting => rfl

namespace Estimate

def sizes (e : Estimate) : Sizes :=
  ⟨e.programMemory.toNat, e.dataMemory.toNat, e.jumpTable.toNat, e.bracketStack.toNat⟩

/-! ### Totals -/

theorem total?_eq_fit? (e : Estimate) : e.total? = Word.fit? e.sizes.total := by
  have hjumps := Word.fit?_bind_add (e.programMemory.toNat + e.dataMemory.toNat) e.jumpTable.toNat
  have hstack :=
    Word.fit?_bind_add (e.programMemory.toNat + e.dataMemory.toNat + e.jumpTable.toNat) e.bracketStack.toNat
  calc e.total?
    _ = (Word.fit? (e.programMemory.toNat + e.dataMemory.toNat) >>= fun stores =>
          Word.fit? (stores.toNat + e.jumpTable.toNat)) >>= fun withJumps =>
            Word.fit? (withJumps.toNat + e.bracketStack.toNat) := (bind_assoc _ _ _).symm
    _ = Word.fit? e.sizes.total := by
      rw [hjumps, hstack]
      rfl

/-- The unchecked sum stops where the checked one is none, and is the same otherwise. -/
theorem total_eq_elim (e : Estimate) : e.total = e.total?.elim (.error .sum) .ok := by
  unfold total total?
  rw [Word.add_eq_elim]
  cases Word.add? e.programMemory e.dataMemory with
  | none => rfl
  | some stores =>
    show (Word.add stores e.jumpTable >>= _) = (Word.add? stores e.jumpTable >>= _).elim _ _
    rw [Word.add_eq_elim]
    cases Word.add? stores e.jumpTable with
    | none => rfl
    | some withJumps => exact Word.add_eq_elim withJumps e.bracketStack

theorem total_eq_ok_iff {e : Estimate} {total : UInt64} : e.total = .ok total ↔ e.total? = some total := by
  rw [total_eq_elim, elim_eq_ok_iff]

theorem total_eq_error_iff {e : Estimate} : e.total = .error .sum ↔ e.total? = none := by
  rw [total_eq_elim]
  cases e.total? with
  | none => exact ⟨fun _ => rfl, fun _ => rfl⟩
  | some total => exact ⟨fun h => (by cases h), fun h => (by cases h)⟩

theorem total?_eq_some_iff {e : Estimate} {total : UInt64} : e.total? = some total ↔ total.toNat = e.sizes.total := by
  rw [total?_eq_fit?, Word.fit?_eq_some_iff]

theorem total?_eq_none_iff {e : Estimate} : e.total? = none ↔ 2 ^ 64 ≤ e.sizes.total := by
  rw [total?_eq_fit?]
  exact Word.fit?_eq_none_iff

theorem exists_total? {e : Estimate} (h : e.sizes.total < 2 ^ 64) : ∃ total, e.total? = some total := by
  cases htotal : e.total? with
  | none => exact absurd (total?_eq_none_iff.mp htotal) (Nat.not_le.mpr h)
  | some total => exact ⟨total, rfl⟩

/-! ### Estimates -/

/-- An estimate that says what its capacities need. -/
structure Exact (s : Scheme) (p d : UInt64) (e : Estimate) : Prop where
  scheme : e.scheme = s
  programCapacity : e.programCapacity = p
  dataCapacity : e.dataCapacity = d
  programAddressBits : e.programAddressBits = Nat.clog 2 p.toNat
  dataAddressBits : e.dataAddressBits = Nat.clog 2 d.toNat
  sizes : e.sizes = exactSizes s p.toNat d.toNat

theorem stores_eq_ok_iff {scheme : Scheme} {p d : UInt64} {e : Estimate} :
    stores p d scheme = .ok e ↔ e.Exact scheme p d := by
  constructor
  · intro h
    obtain ⟨program, hprogram, h⟩ := bind_eq_ok h
    obtain ⟨data, hdata, h⟩ := bind_eq_ok h
    obtain ⟨jumpTable, hjumps, h⟩ := bind_eq_ok h
    obtain ⟨bracketStack, hstack, h⟩ := bind_eq_ok h
    rw [storeSize_eq_ok_iff] at hprogram hdata hjumps hstack
    cases h
    refine ⟨rfl, rfl, rfl, Address.bits_eq_clog p, Address.bits_eq_clog d, ?_⟩
    rw [exactSizes_eq, ← hprogram, ← hdata, ← hjumps, ← hstack]
    rfl
  · intro h
    obtain ⟨rfl, rfl, rfl, hprogramBits, hdataBits, hsizes⟩ := h
    rw [exactSizes_eq, Estimate.sizes, Sizes.mk.injEq, ← storeSize_eq_ok_iff .program,
      ← storeSize_eq_ok_iff .data, ← storeSize_eq_ok_iff .jumpTable,
      ← storeSize_eq_ok_iff .bracketStack] at hsizes
    obtain ⟨hprogram, hdata, hjumps, hstack⟩ := hsizes
    simp only [stores, hprogram, hdata, hjumps, hstack, bind, Except.bind]
    rw [Address.bits_eq_clog, Address.bits_eq_clog, ← hprogramBits, ← hdataBits]
    rfl

/-- Capacities without a cell, or with a sum that no word holds, have no estimate. All others have an exact one. -/
theorem ofCapacities_eq_ok_iff {scheme : Scheme} {p d : UInt64} {e : Estimate} :
    ofCapacities p d scheme = .ok e ↔ p ≠ 0 ∧ d ≠ 0 ∧ e.Exact scheme p d ∧ e.sizes.total < 2 ^ 64 := by
  unfold ofCapacities
  split
  · rename_i hp
    exact ⟨fun h => (by cases h), fun h => absurd hp h.1⟩
  · rename_i hp
    split
    · rename_i hd
      exact ⟨fun h => (by cases h), fun h => absurd hd h.2.1⟩
    · rename_i hd
      constructor
      · intro h
        obtain ⟨estimate, hstores, h⟩ := bind_eq_ok h
        cases htotal : estimate.total? with
        | none =>
          rw [htotal] at h
          cases h
        | some total =>
          rw [htotal] at h
          cases h
          refine ⟨hp, hd, stores_eq_ok_iff.mp hstores, Nat.lt_of_not_le fun hlarge => ?_⟩
          rw [total?_eq_none_iff.mpr hlarge] at htotal
          cases htotal
      · rintro ⟨-, -, hexact, hlt⟩
        obtain ⟨total, htotal⟩ := exists_total? hlt
        simp only [stores_eq_ok_iff.mpr hexact, htotal, bind, Except.bind, pure, Except.pure]

theorem exists_exact {scheme : Scheme} {p d : UInt64} (h : (exactSizes scheme p.toNat d.toNat).total < 2 ^ 64) :
    ∃ e, Exact scheme p d e := by
  have hword : ∀ n < 2 ^ 64, n.toUInt64.toNat = n := fun n hn => UInt64.toNat_ofNat_of_lt' hn
  generalize hsizes : exactSizes scheme p.toNat d.toNat = sizes at h
  obtain ⟨program, data, jumpTable, bracketStack⟩ := sizes
  simp only [Sizes.total] at h
  refine ⟨⟨scheme, p, d, Nat.clog 2 p.toNat, Nat.clog 2 d.toNat, program.toUInt64, data.toUInt64, jumpTable.toUInt64,
    bracketStack.toUInt64⟩, rfl, rfl, rfl, rfl, rfl, ?_⟩
  rw [hsizes, Estimate.sizes, hword program (by omega), hword data (by omega), hword jumpTable (by omega),
    hword bracketStack (by omega)]

theorem exists_ofCapacities_iff (scheme : Scheme) (p d : UInt64) :
    (∃ e, ofCapacities p d scheme = .ok e) ↔
      p ≠ 0 ∧ d ≠ 0 ∧ (exactSizes scheme p.toNat d.toNat).total < 2 ^ 64 := by
  constructor
  · rintro ⟨e, he⟩
    obtain ⟨hp, hd, hexact, hlt⟩ := ofCapacities_eq_ok_iff.mp he
    exact ⟨hp, hd, hexact.sizes ▸ hlt⟩
  · rintro ⟨hp, hd, hlt⟩
    obtain ⟨e, hexact⟩ := exists_exact hlt
    exact ⟨e, ofCapacities_eq_ok_iff.mpr ⟨hp, hd, hexact, hexact.sizes ▸ hlt⟩⟩

theorem memories_of_total {e : Estimate} {total : UInt64} (h : e.total = .ok total) :
    e.memories = .ok [("Program Memory", e.programMemory), ("Data Memory", e.dataMemory),
      ("Jump Table Memory", e.jumpTable), ("Bracket Stack Memory", e.bracketStack),
      ("Total Memory Needed", total)] := by
  rw [memories, h]
  rfl

theorem report_of_memories {e : Estimate} {memories : List (String × UInt64)} (h : e.memories = .ok memories) :
    e.report = .ok (Text.unlines ([e.capacityLine, e.addressLine] ++ (memoryGrid memories).lines)) := by
  rw [report, h]
  rfl

/-- Sizes that add up to a word have a total, a list of memories that ends with it, and a report. -/
theorem exists_report {e : Estimate} (h : e.sizes.total < 2 ^ 64) :
    ∃ total memories report, e.total = .ok total ∧ total.toNat = e.sizes.total ∧ e.memories = .ok memories ∧
      memories.getLast? = some ("Total Memory Needed", total) ∧ e.report = .ok report := by
  obtain ⟨total, htotal⟩ := exists_total? h
  have hok := total_eq_ok_iff.mpr htotal
  have hmemories := memories_of_total hok
  exact ⟨total, _, _, hok, total?_eq_some_iff.mp htotal, hmemories, rfl, report_of_memories hmemories⟩

end Estimate

/-- An estimate is made exactly for capacities of at least one cell whose exact sizes add up to a word. It gives those
sizes and the widths of the addresses, and its total, its list of memories and its report do not fail. For any record
of sizes, made so or not, the checked total is none exactly where the unchecked one stops, and is the same otherwise. -/
theorem estimate_exact (p d : UInt64) (scheme : Scheme) :
    ((∃ e, Estimate.ofCapacities p d scheme = .ok e) ↔
      1 ≤ p ∧ 1 ≤ d ∧ (exactSizes scheme p.toNat d.toNat).total < 2 ^ 64) ∧
    (∀ e, Estimate.ofCapacities p d scheme = .ok e →
      e.Exact scheme p d ∧
      ∃ total memories report, e.total = .ok total ∧ total.toNat = (exactSizes scheme p.toNat d.toNat).total ∧
        e.memories = .ok memories ∧ memories.getLast? = some ("Total Memory Needed", total) ∧
        e.report = .ok report) ∧
    ∀ e : Estimate,
      (e.total? = none ↔ e.total = .error .sum) ∧ (e.total = .error .sum ↔ 2 ^ 64 ≤ e.sizes.total) ∧
      ∀ total, (e.total? = some total ↔ e.total = .ok total) ∧ (e.total = .ok total ↔ total.toNat = e.sizes.total) := by
  have hpos : ∀ n : UInt64, 1 ≤ n ↔ n ≠ 0 := fun n => by
    rw [UInt64.le_iff_toNat_le, Ne, ← UInt64.toNat_inj]
    exact Nat.one_le_iff_ne_zero
  refine ⟨?_, ?_, ?_⟩
  · rw [hpos, hpos]
    exact Estimate.exists_ofCapacities_iff scheme p d
  · intro e he
    obtain ⟨-, -, hexact, hlt⟩ := Estimate.ofCapacities_eq_ok_iff.mp he
    refine ⟨hexact, ?_⟩
    rw [← hexact.sizes]
    exact Estimate.exists_report hlt
  · intro e
    have hstops : e.total = .error .sum ↔ 2 ^ 64 ≤ e.sizes.total :=
      Estimate.total_eq_error_iff.trans Estimate.total?_eq_none_iff
    refine ⟨Estimate.total_eq_error_iff.symm, hstops, fun total => ⟨Estimate.total_eq_ok_iff.symm, ?_⟩⟩
    exact Estimate.total_eq_ok_iff.trans Estimate.total?_eq_some_iff

/-- The largest program for which a word holds the total, beside a single cell of data, and one operation more. -/
theorem estimate_exact_at_the_limit :
    (∃ e total, Estimate.ofCapacities 204963823041217240 1 .packed = .ok e ∧ e.total = .ok total ∧
      e.programAddressBits = 58 ∧ e.sizes.bracketStack = 102481911520608620 * 58 ∧ total.toNat = 2 ^ 64 - 8) ∧
      ¬∃ e, Estimate.ofCapacities 204963823041217241 1 .packed = .ok e := by
  obtain ⟨hmade, hexact, -⟩ := estimate_exact 204963823041217240 1 .packed
  obtain ⟨hmore, -⟩ := estimate_exact 204963823041217241 1 .packed
  obtain ⟨e, he⟩ := hmade.mpr ⟨by decide, by decide, by decide⟩
  obtain ⟨he', total, -, -, htotal, hsum, -⟩ := hexact e he
  refine ⟨⟨e, total, he, htotal, he'.programAddressBits, ?_, hsum⟩, fun hok => ?_⟩
  · rw [he'.sizes]
    decide
  · obtain ⟨-, -, hlt⟩ := hmore.mp hok
    exact absurd hlt (by decide)

end Memory

end ProgramRom
