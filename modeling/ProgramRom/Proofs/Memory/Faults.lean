import ProgramRom.Proofs.Memory.Exactness

/-! # Which fault is reported

Capacities are checked in a fixed order: the two for being zero, then the sizes of the program memory, of the data
memory and of the jump table, and at last the total. The first check that fails is reported. The size of the bracket
stack is checked as well, right behind that of the jump table. Its entries are as wide and never more in number, so by
then it fits a word. -/

namespace ProgramRom

theorem Scheme.toNat_stackEntries_le (scheme : Scheme) (capacity : UInt64) :
    (scheme.stackEntries capacity).toNat ≤ capacity.toNat := by
  cases scheme with
  | packed =>
    rw [Scheme.toNat_stackEntries_packed]
    exact Nat.div_le_self _ 2
  | byte => exact Nat.le_refl _

namespace Memory

/-! ### Sizes that are too large by themselves -/

/-- The size of a memory as it is checked, with the name that a fault gives it. -/
structure CheckedSize where
  entries : Nat
  width : Nat
  name : String
deriving DecidableEq, Repr

def CheckedSize.isExcessive (x : CheckedSize) : Bool := decide (2 ^ 64 ≤ x.entries * x.width)

/-- What is said of the first size that is too large by itself. If there is none, the total is. -/
def excessAmong (sizes : List CheckedSize) : String :=
  match sizes.find? CheckedSize.isExcessive with
  | some x => s!"{x.entries} x {x.width} bits ({x.name})"
  | none => "total memory"

/-- What an overflow says of capacities, by the checks that come before that of the total. -/
def overflowExpression (scheme : Scheme) (p d : Nat) : String :=
  excessAmong
    [⟨p, scheme.bitsPerOperation, "program memory"⟩, ⟨d, 8, "data memory"⟩, ⟨p, Nat.clog 2 p, "jump table"⟩]

variable {scheme : Scheme} {p d entries size : UInt64} {width : Nat} {store : Store} {fault : Fault}

theorem storeSize_eq_error (h : storeSize entries width store = .error fault) :
    2 ^ 64 ≤ entries.toNat * width ∧ fault = .overflow (.size store entries.toNat width) := by
  cases hfit : Word.fit? (entries.toNat * width) with
  | none =>
    rw [storeSize, hfit] at h
    cases h
    exact ⟨Word.fit?_eq_none_iff.mp hfit, rfl⟩
  | some size =>
    rw [storeSize, hfit] at h
    cases h

theorem lt_of_storeSize (h : storeSize entries width store = .ok size) : entries.toNat * width < 2 ^ 64 := by
  rw [← (storeSize_eq_ok_iff store).mp h]
  exact size.toNat_lt

theorem text_size {n width : Nat} (h : 2 ^ 64 ≤ n * width) (store : Store) (rest : List CheckedSize) :
    (Excess.size store n width).text = excessAmong (⟨n, width, store.name⟩ :: rest) := by
  have hlarge : (CheckedSize.mk n width store.name).isExcessive = true := decide_eq_true h
  rw [excessAmong, List.find?_cons_of_pos hlarge]
  rfl

/-- A check that succeeds leaves the report to the others. -/
theorem excessAmong_of_storeSize (h : storeSize entries width store = .ok size) (name : String)
    (rest : List CheckedSize) : excessAmong (⟨entries.toNat, width, name⟩ :: rest) = excessAmong rest := by
  have hfits : ¬(CheckedSize.mk entries.toNat width name).isExcessive = true := by
    rw [CheckedSize.isExcessive, decide_eq_true_eq]
    exact Nat.not_le.mpr (lt_of_storeSize h)
  rw [excessAmong, List.find?_cons_of_neg hfits, excessAmong]

/-- The stack is checked where the jump table fits, and then fits too. -/
theorem storeSize_stack_ne_error (h : storeSize p width store = .ok size) :
    storeSize (scheme.stackEntries p) width .bracketStack ≠ .error fault := by
  intro herror
  obtain ⟨hlarge, -⟩ := storeSize_eq_error herror
  have hle : (scheme.stackEntries p).toNat * width ≤ p.toNat * width :=
    Nat.mul_le_mul_right width (scheme.toNat_stackEntries_le p)
  have hlt := lt_of_storeSize h
  omega

namespace Estimate

/-! ### The order of the checks -/

/-- Sizes fail at the first one that is too large by itself, which is never that of the stack. -/
theorem stores_eq_error (h : stores p d scheme = .error fault) :
    ∃ store entries width, fault = .overflow (.size store entries width) ∧ store ≠ .bracketStack ∧
      (Excess.size store entries width).text = overflowExpression scheme p.toNat d.toNat := by
  unfold overflowExpression
  rw [← Address.bits_eq_clog]
  -- Each size in turn is the first to fail, or fits and leaves the report to those behind it.
  rcases bind_eq_error h with hprogram | ⟨program, hprogram, h⟩
  · obtain ⟨hlarge, rfl⟩ := storeSize_eq_error hprogram
    exact ⟨_, _, _, rfl, by simp, text_size hlarge _ _⟩
  rw [excessAmong_of_storeSize hprogram]
  rcases bind_eq_error h with hdata | ⟨data, hdata, h⟩
  · obtain ⟨hlarge, rfl⟩ := storeSize_eq_error hdata
    exact ⟨_, _, _, rfl, by simp, text_size hlarge _ _⟩
  rw [dataCellBits] at hdata
  rw [excessAmong_of_storeSize hdata]
  rcases bind_eq_error h with hjumps | ⟨jumpTable, hjumps, h⟩
  · obtain ⟨hlarge, rfl⟩ := storeSize_eq_error hjumps
    exact ⟨_, _, _, rfl, by simp, text_size hlarge _ _⟩
  · rcases bind_eq_error h with hstack | ⟨bracketStack, -, h⟩
    · exact absurd hstack (storeSize_stack_ne_error hjumps)
    · cases h

/-- Where all sizes fit a word, only the total is left to fail. -/
theorem overflowExpression_of_stores {e : Estimate} (h : stores p d scheme = .ok e) :
    overflowExpression scheme p.toNat d.toNat = "total memory" := by
  obtain ⟨program, hprogram, h⟩ := bind_eq_ok h
  obtain ⟨data, hdata, h⟩ := bind_eq_ok h
  obtain ⟨jumpTable, hjumps, h⟩ := bind_eq_ok h
  rw [dataCellBits] at hdata
  rw [overflowExpression, excessAmong_of_storeSize hprogram, excessAmong_of_storeSize hdata, ← Address.bits_eq_clog,
    excessAmong_of_storeSize hjumps]
  rfl

/-- What can fail, in the order in which it is found out. -/
theorem ofCapacities_eq_error (h : ofCapacities p d scheme = .error fault) :
    (p = 0 ∧ fault = .zeroCapacity .program) ∨ (p ≠ 0 ∧ d = 0 ∧ fault = .zeroCapacity .data) ∨
      (p ≠ 0 ∧ d ≠ 0 ∧ ∃ excess, fault = .overflow excess ∧
        (∀ entries width, excess ≠ .size .bracketStack entries width) ∧
        excess.text = overflowExpression scheme p.toNat d.toNat) := by
  unfold ofCapacities at h
  by_cases hp : p = 0
  · rw [if_pos hp] at h
    cases h
    exact Or.inl ⟨hp, rfl⟩
  by_cases hd : d = 0
  · rw [if_neg hp, if_pos hd] at h
    cases h
    exact Or.inr (Or.inl ⟨hp, hd, rfl⟩)
  rw [if_neg hp, if_neg hd] at h
  refine Or.inr (Or.inr ⟨hp, hd, ?_⟩)
  rcases bind_eq_error h with hstores | ⟨e, hstores, h⟩
  · obtain ⟨store, entries, width, rfl, hstore, htext⟩ := stores_eq_error hstores
    refine ⟨_, rfl, ?_, htext⟩
    rintro entries' width' heq
    cases heq
    exact hstore rfl
  · cases htotal : e.total? with
    | none =>
      rw [htotal] at h
      cases h
      exact ⟨.total, rfl, by simp, (overflowExpression_of_stores hstores).symm⟩
    | some total =>
      rw [htotal] at h
      cases h

theorem exists_error_ofCapacities_iff (p d : UInt64) (scheme : Scheme) :
    (∃ fault, ofCapacities p d scheme = .error fault) ↔
      p = 0 ∨ d = 0 ∨ 2 ^ 64 ≤ (exactSizes scheme p.toNat d.toNat).total := by
  rw [exists_error_iff, exists_ofCapacities_iff, Classical.not_and_iff_not_or_not, Classical.not_and_iff_not_or_not,
    Classical.not_not, Classical.not_not, Nat.not_lt]

end Estimate

/-- Capacities have no estimate where one of them is zero or the exact total fits no word. What is reported is the
program capacity if it is zero, else the data capacity if that is zero, else an overflow that names the first of program
memory, data memory and jump table whose exact size fits no word, or the total if all of them fit. It never names the
bracket stack. -/
theorem first_fault_reported (p d : UInt64) (scheme : Scheme) :
    ((∃ fault, Estimate.ofCapacities p d scheme = .error fault) ↔
      p = 0 ∨ d = 0 ∨ 2 ^ 64 ≤ (exactSizes scheme p.toNat d.toNat).total) ∧
    ∀ fault, Estimate.ofCapacities p d scheme = .error fault →
      (p = 0 → ∃ region, fault = .zeroCapacity region ∧ region.name = "Program") ∧
      (p ≠ 0 → d = 0 → ∃ region, fault = .zeroCapacity region ∧ region.name = "Data") ∧
      (p ≠ 0 → d ≠ 0 → ∃ excess, fault = .overflow excess ∧
        excess.text = overflowExpression scheme p.toNat d.toNat) ∧
      ∀ entries width, fault ≠ .overflow (.size .bracketStack entries width) := by
  refine ⟨?_, ?_⟩
  · exact Estimate.exists_error_ofCapacities_iff p d scheme
  · intro fault h
    rcases Estimate.ofCapacities_eq_error h with ⟨hp, rfl⟩ | ⟨hp, hd, rfl⟩ | ⟨hp, hd, excess, rfl, hstack, htext⟩
    · exact ⟨fun _ => ⟨.program, rfl, rfl⟩, fun hp' => absurd hp hp', fun hp' => absurd hp hp', by simp⟩
    · exact ⟨fun hp' => absurd hp' hp, fun _ _ => ⟨.data, rfl, rfl⟩, fun _ hd' => absurd hd hd', by simp⟩
    · refine ⟨fun hp' => absurd hp' hp, fun _ hd' => absurd hd' hd, fun _ _ => ⟨excess, rfl, htext⟩, ?_⟩
      rintro entries width heq
      cases heq
      exact hstack entries width rfl

/-- Each of the reports, where it begins or ends, and later faults beside the one that is reported. -/
theorem first_fault_reported_in_order :
    (∃ region, Estimate.ofCapacities 0 0 .byte = .error (.zeroCapacity region) ∧ region.name = "Program") ∧
    (∃ region, Estimate.ofCapacities 6148914691236517206 0 .packed = .error (.zeroCapacity region) ∧
      region.name = "Data") ∧
    (∃ excess, Estimate.ofCapacities 6148914691236517206 2305843009213693952 .packed = .error (.overflow excess) ∧
      excess.text = "6148914691236517206 x 3 bits (program memory)") ∧
    (∃ excess, Estimate.ofCapacities 312656679215416130 2305843009213693952 .packed = .error (.overflow excess) ∧
      excess.text = "2305843009213693952 x 8 bits (data memory)") ∧
    (∃ excess, Estimate.ofCapacities 312656679215416130 1 .byte = .error (.overflow excess) ∧
      excess.text = "312656679215416130 x 59 bits (jump table)") ∧
    ∃ excess, Estimate.ofCapacities 312656679215416129 1 .byte = .error (.overflow excess) ∧
      excess.text = "total memory" := by
  have hexcess : ∀ (p d : UInt64) (scheme : Scheme), p ≠ 0 → d ≠ 0 →
      2 ^ 64 ≤ (exactSizes scheme p.toNat d.toNat).total →
      ∃ excess, Estimate.ofCapacities p d scheme = .error (.overflow excess) ∧
        excess.text = overflowExpression scheme p.toNat d.toNat := by
    intro p d scheme hp hd hlarge
    obtain ⟨hfails, hreport⟩ := first_fault_reported p d scheme
    obtain ⟨fault, hfault⟩ := hfails.mpr (Or.inr (Or.inr hlarge))
    obtain ⟨-, -, hoverflow, -⟩ := hreport fault hfault
    obtain ⟨excess, rfl, htext⟩ := hoverflow hp hd
    exact ⟨excess, hfault, htext⟩
  refine ⟨?_, ?_, hexcess _ _ _ (by decide) (by decide) (by decide), hexcess _ _ _ (by decide) (by decide) (by decide),
    hexcess _ _ _ (by decide) (by decide) (by decide), hexcess _ _ _ (by decide) (by decide) (by decide)⟩
  · obtain ⟨hfails, hreport⟩ := first_fault_reported 0 0 .byte
    obtain ⟨fault, hfault⟩ := hfails.mpr (Or.inl rfl)
    obtain ⟨region, rfl, hname⟩ := (hreport fault hfault).1 rfl
    exact ⟨region, hfault, hname⟩
  · obtain ⟨hfails, hreport⟩ := first_fault_reported 6148914691236517206 0 .packed
    obtain ⟨fault, hfault⟩ := hfails.mpr (Or.inr (Or.inl rfl))
    obtain ⟨region, rfl, hname⟩ := (hreport fault hfault).2.1 (by decide) rfl
    exact ⟨region, hfault, hname⟩

end Memory

end ProgramRom
