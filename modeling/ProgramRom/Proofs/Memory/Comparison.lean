import ProgramRom.Proofs.Memory.Exactness

/-! # Estimates of smaller cores

The sizes of the memories grow with the capacities, and the byte scheme needs at least what the packed one needs. So
whatever has an estimate keeps it when a capacity shrinks or the operations are packed, and no figure of the new
estimate is larger. -/

namespace ProgramRom.Memory

/-! ### Sizes in comparison -/

namespace Sizes

/-- No memory is larger than its counterpart. -/
structure Within (s t : Sizes) : Prop where
  program : s.program ≤ t.program
  data : s.data ≤ t.data
  jumpTable : s.jumpTable ≤ t.jumpTable
  bracketStack : s.bracketStack ≤ t.bracketStack

theorem Within.total_le {s t : Sizes} (h : s.Within t) : s.total ≤ t.total := by
  obtain ⟨hprogram, hdata, hjumps, hstack⟩ := h
  unfold total
  omega

end Sizes

variable {scheme scheme' : Scheme}

theorem exactSizes_within {p p' d d' : Nat} (hp : p' ≤ p) (hd : d' ≤ d) :
    (exactSizes scheme p' d').Within (exactSizes scheme p d) := by
  have hwidth : Nat.clog 2 p' ≤ Nat.clog 2 p := Nat.clog_mono_right 2 hp
  cases scheme with
  | packed =>
    exact ⟨Nat.mul_le_mul_right 3 hp, Nat.mul_le_mul_right 8 hd, Nat.mul_le_mul hp hwidth,
      Nat.mul_le_mul (Nat.div_le_div_right hp) hwidth⟩
  | byte =>
    exact ⟨Nat.mul_le_mul_right 8 hp, Nat.mul_le_mul_right 8 hd, Nat.mul_le_mul hp hwidth, Nat.mul_le_mul hp hwidth⟩

theorem exactSizes_packed_within (p d : Nat) : (exactSizes .packed p d).Within (exactSizes .byte p d) where
  program := Nat.mul_le_mul_left p (by omega)
  data := Nat.le_refl _
  jumpTable := Nat.le_refl _
  bracketStack := Nat.mul_le_mul_right _ (Nat.div_le_self p 2)

namespace Estimate

/-- No width and no size is larger than its counterpart, nor is the total. -/
structure Within (e e' : Estimate) : Prop where
  programAddressBits : e.programAddressBits ≤ e'.programAddressBits
  dataAddressBits : e.dataAddressBits ≤ e'.dataAddressBits
  programMemory : e.programMemory ≤ e'.programMemory
  dataMemory : e.dataMemory ≤ e'.dataMemory
  jumpTable : e.jumpTable ≤ e'.jumpTable
  bracketStack : e.bracketStack ≤ e'.bracketStack
  total : ∃ total total', e.total = .ok total ∧ e'.total = .ok total' ∧ total ≤ total'

variable {p p' d d' : UInt64} {e e' : Estimate}

theorem within_of_sizes (hprogram : e.programAddressBits ≤ e'.programAddressBits)
    (hdata : e.dataAddressBits ≤ e'.dataAddressBits) (hsizes : e.sizes.Within e'.sizes)
    (hfits : e'.sizes.total < 2 ^ 64) : e.Within e' := by
  obtain ⟨total, htotal⟩ := exists_total? (Nat.lt_of_le_of_lt hsizes.total_le hfits)
  obtain ⟨total', htotal'⟩ := exists_total? hfits
  refine ⟨hprogram, hdata, hsizes.program, hsizes.data, hsizes.jumpTable, hsizes.bracketStack, total, total',
    total_eq_ok_iff.mpr htotal, total_eq_ok_iff.mpr htotal', ?_⟩
  rw [UInt64.le_iff_toNat_le, total?_eq_some_iff.mp htotal, total?_eq_some_iff.mp htotal']
  exact hsizes.total_le

/-- Capacities that need no more than others have an estimate wherever those have. -/
theorem exists_within (h : ofCapacities p d scheme = .ok e) (hp0 : p' ≠ 0) (hd0 : d' ≠ 0) (hp : p' ≤ p) (hd : d' ≤ d)
    (hsizes : (exactSizes scheme' p'.toNat d'.toNat).Within (exactSizes scheme p.toNat d.toNat)) :
    ∃ e', ofCapacities p' d' scheme' = .ok e' ∧ e'.Within e := by
  obtain ⟨-, -, hexact, hfits⟩ := ofCapacities_eq_ok_iff.mp h
  rw [← hexact.sizes] at hsizes
  obtain ⟨e', he'⟩ :=
    (exists_ofCapacities_iff scheme' p' d').mpr ⟨hp0, hd0, Nat.lt_of_le_of_lt hsizes.total_le hfits⟩
  obtain ⟨-, -, hexact', -⟩ := ofCapacities_eq_ok_iff.mp he'
  refine ⟨e', he', within_of_sizes ?_ ?_ (hexact'.sizes ▸ hsizes) hfits⟩
  · rw [hexact'.programAddressBits, hexact.programAddressBits]
    exact Nat.clog_mono_right 2 hp
  · rw [hexact'.dataAddressBits, hexact.dataAddressBits]
    exact Nat.clog_mono_right 2 hd

/-- What the schemes have in common. -/
structure SameLayout (e e' : Estimate) : Prop where
  programAddressBits : e.programAddressBits = e'.programAddressBits
  dataAddressBits : e.dataAddressBits = e'.dataAddressBits
  dataMemory : e.dataMemory = e'.dataMemory
  jumpTable : e.jumpTable = e'.jumpTable

theorem Exact.sameLayout (h : e.Exact scheme p d) (h' : e'.Exact scheme' p d) : e.SameLayout e' := by
  have hsizes : e.sizes.data = e'.sizes.data ∧ e.sizes.jumpTable = e'.sizes.jumpTable := by
    rw [h.sizes, h'.sizes]
    cases scheme <;> cases scheme' <;> exact ⟨rfl, rfl⟩
  exact ⟨h.programAddressBits.trans h'.programAddressBits.symm, h.dataAddressBits.trans h'.dataAddressBits.symm,
    UInt64.toNat_inj.mp hsizes.1, UInt64.toNat_inj.mp hsizes.2⟩

end Estimate

/-- Capacities of at least one cell have an estimate if larger ones have, and no figure of it is larger. Packing the
operations of a core keeps its estimate, with the same widths, data memory and jump table, and no figure larger. -/
theorem estimate_monotone :
    (∀ (p p' d d' : UInt64) (scheme : Scheme) (e : Estimate), 1 ≤ p' → 1 ≤ d' → p' ≤ p → d' ≤ d →
      Estimate.ofCapacities p d scheme = .ok e →
      ∃ e', Estimate.ofCapacities p' d' scheme = .ok e' ∧ e'.Within e) ∧
    ∀ (p d : UInt64) (e : Estimate), Estimate.ofCapacities p d .byte = .ok e →
      ∃ e', Estimate.ofCapacities p d .packed = .ok e' ∧ e'.Within e ∧ e'.SameLayout e := by
  refine ⟨?_, ?_⟩
  · intro p p' d d' scheme e hp0 hd0 hp hd h
    have hpos : ∀ n : UInt64, 1 ≤ n → n ≠ 0 := by
      rintro n hn rfl
      exact absurd hn (by decide)
    exact Estimate.exists_within h (hpos p' hp0) (hpos d' hd0) hp hd (exactSizes_within hp hd)
  · intro p d e h
    obtain ⟨hp0, hd0, hexact, -⟩ := Estimate.ofCapacities_eq_ok_iff.mp h
    obtain ⟨e', he', hwithin⟩ := Estimate.exists_within h hp0 hd0 UInt64.le_rfl UInt64.le_rfl
      (exactSizes_packed_within p.toNat d.toNat)
    obtain ⟨-, -, hexact', -⟩ := Estimate.ofCapacities_eq_ok_iff.mp he'
    exact ⟨e', he', hwithin, hexact'.sameLayout hexact⟩

/-- The largest core of the byte scheme beside a single cell of data, one with an address line less, and the same core
packed. -/
theorem estimate_monotone_at_the_limit :
    ∃ e e' packed : Estimate, Estimate.ofCapacities 148764065110560900 1 .byte = .ok e ∧
      Estimate.ofCapacities 144115188075855872 1 .byte = .ok e' ∧ e'.Within e ∧
      e'.programAddressBits = 57 ∧ e.programAddressBits = 58 ∧
      Estimate.ofCapacities 148764065110560900 1 .packed = .ok packed ∧ packed.Within e ∧ packed.SameLayout e ∧
      packed.sizes.bracketStack = 74382032555280450 * 58 ∧ e.sizes.bracketStack = 148764065110560900 * 58 := by
  obtain ⟨hsmaller, hpacked⟩ := estimate_monotone
  obtain ⟨e, he⟩ := (Estimate.exists_ofCapacities_iff .byte 148764065110560900 1).mpr
    ⟨by decide, by decide, by decide⟩
  obtain ⟨e', he', hwithin'⟩ :=
    hsmaller 148764065110560900 144115188075855872 1 1 .byte e (by decide) (by decide) (by decide) (by decide) he
  obtain ⟨packed, hok, hwithin, hsame⟩ := hpacked 148764065110560900 1 e he
  obtain ⟨-, -, hexact, -⟩ := Estimate.ofCapacities_eq_ok_iff.mp he
  obtain ⟨-, -, hexact', -⟩ := Estimate.ofCapacities_eq_ok_iff.mp he'
  obtain ⟨-, -, hexactPacked, -⟩ := Estimate.ofCapacities_eq_ok_iff.mp hok
  refine ⟨e, e', packed, he, he', hwithin', hexact'.programAddressBits, hexact.programAddressBits, hok, hwithin, hsame,
    ?_, ?_⟩
  · rw [hexactPacked.sizes]
    decide
  · rw [hexact.sizes]
    decide

end ProgramRom.Memory
