import ProgramRom.Limit

/-! # Exact arithmetic in words

Capacities and sizes are 64-bit words. Their arithmetic is done exactly, in the natural numbers, and a
result is kept only if a word holds it. An addition that nobody checks beforehand is the machine's own. -/

namespace ProgramRom.Word

/-- The word that is exactly `n`, if there is one. -/
def fit? (n : Nat) : Option UInt64 :=
  if n < UInt64.size then some n.toUInt64 else none

def add? (a b : UInt64) : Option UInt64 := fit? (a.toNat + b.toNat)

/-- The sum as the machine adds. It stops where the sum would wrap around. -/
def add (a b : UInt64) : Except LimitError UInt64 :=
  if a.toNat + b.toNat < UInt64.size then .ok (a + b) else .error .sum

/-- The difference, if it is not negative. -/
def sub? (a b : UInt64) : Option UInt64 :=
  if b.toNat ≤ a.toNat then fit? (a.toNat - b.toNat) else none

/-- The power, if a word holds it. A base of at least two outgrows every word at the exponent 64. -/
def pow? (base exponent : Nat) : Option UInt64 :=
  if 2 ≤ base ∧ 64 ≤ exponent then none else fit? (base.pow exponent)

/-- The number of bits of a word. -/
def width : Nat := 64

/-- The zeros in front of the highest one of a word. A word without a one has nothing but zeros. -/
def leadingZeros (w : UInt64) : Nat := w.toBitVec.clz.toNat

theorem fit?_eq_some_iff {n : Nat} {w : UInt64} : fit? n = some w ↔ w.toNat = n := by
  unfold fit?
  constructor
  · intro h
    split at h
    · rename_i hn
      cases h
      exact UInt64.toNat_ofNat_of_lt' hn
    · cases h
  · rintro rfl
    simp [UInt64.toNat_lt_size]

theorem fit?_eq_none_iff {n : Nat} : fit? n = none ↔ UInt64.size ≤ n := by
  simp [fit?]

@[simp] theorem fit?_toNat (w : UInt64) : fit? w.toNat = some w :=
  fit?_eq_some_iff.mpr rfl

theorem add?_eq_some_iff {a b c : UInt64} : add? a b = some c ↔ c.toNat = a.toNat + b.toNat :=
  fit?_eq_some_iff

theorem add_eq_ok_iff {a b c : UInt64} : add a b = .ok c ↔ c.toNat = a.toNat + b.toNat := by
  unfold add
  split
  · rename_i h
    have hsum : (a + b).toNat = a.toNat + b.toNat := by
      rw [UInt64.toNat_add]
      exact Nat.mod_eq_of_lt h
    rw [Except.ok.injEq, ← UInt64.toNat_inj, hsum]
    exact eq_comm
  · rename_i h
    have hc := c.toNat_lt_size
    constructor
    · intro hok
      cases hok
    · intro hsum
      omega

theorem sub?_eq_some_iff {a b c : UInt64} : sub? a b = some c ↔ c.toNat + b.toNat = a.toNat := by
  unfold sub?
  split
  · rw [fit?_eq_some_iff]
    omega
  · constructor
    · intro h
      cases h
    · intro h
      omega

theorem pow?_eq_fit? (base exponent : Nat) : pow? base exponent = fit? (base.pow exponent) := by
  unfold pow?
  split
  · rename_i h
    have hbase : 2 ^ exponent ≤ base ^ exponent := Nat.pow_le_pow_left h.1 exponent
    have hexp : 2 ^ 64 ≤ 2 ^ exponent := Nat.pow_le_pow_right (by decide) h.2
    exact (fit?_eq_none_iff.mpr (Nat.le_trans hexp hbase)).symm
  · rfl

theorem leadingZeros_le (w : UInt64) : leadingZeros w ≤ width :=
  BitVec.le_def.mp (BitVec.clz_le (x := w.toBitVec))

end ProgramRom.Word
