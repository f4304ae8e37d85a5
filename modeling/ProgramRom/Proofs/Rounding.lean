import Mathlib.Algebra.Order.Field.Rat
import Mathlib.Algebra.Ring.Parity
import Mathlib.Tactic.FieldSimp
import Mathlib.Tactic.Linarith
import ProgramRom.Rounding

/-! # Rounding is nearest and keeps the order

A quotient is at most one half away from the integer it is rounded to, and that integer is even where it is exactly one
half. This makes it a nearest integer, and leaves no room for a larger quotient below it. Rounding to a significand
keeps the order within a binade, where the unit is the same, and does not cross the powers of two between binades. -/

namespace ProgramRom.Rounding

/-! ### Quotients -/

/-- `q` is at most one half away from `n / d`, and even where it is exactly one half. -/
structure Rounds (n d q : Nat) : Prop where
  le : 2 * (q * d) ≤ 2 * n + d
  ge : 2 * n ≤ 2 * (q * d) + d
  even : 2 * (q * d) = 2 * n + d ∨ 2 * n = 2 * (q * d) + d → Even q

theorem rounds_divEven (n : Nat) {d : Nat} (hd : 0 < d) : Rounds n d (divEven n d) := by
  have hdiv : n / d * d + n % d = n := Nat.div_add_mod' n d
  have hmod : n % d < d := Nat.mod_lt n hd
  have hnext : (n / d + 1) * d = n / d * d + d := Nat.succ_mul (n / d) d
  simp only [divEven]
  split
  · exact ⟨by omega, by omega, fun htie => by omega⟩
  · split
    · exact ⟨by omega, by omega, fun htie => by omega⟩
    · -- halfway: the even one of the two integers around the quotient
      rcases Nat.mod_two_eq_zero_or_one (n / d) with hparity | hparity
      · rw [hparity, Nat.add_zero]
        exact ⟨by omega, by omega, fun _ => Nat.even_iff.mpr hparity⟩
      · rw [hparity]
        exact ⟨by omega, by omega, fun _ => Nat.even_iff.mpr (by omega)⟩

theorem divEven_mul (q : Nat) {d : Nat} (hd : 0 < d) : divEven (q * d) d = q := by
  simp [divEven, hd]

/-- Of two numbers over one divisor, the larger one is not rounded to the smaller integer. -/
theorem divEven_mono {m n d : Nat} (hd : 0 < d) (h : m ≤ n) : divEven m d ≤ divEven n d := by
  rcases Nat.eq_or_lt_of_le h with rfl | hlt
  · exact Nat.le_refl _
  · have hm := (rounds_divEven m hd).le
    have hn := (rounds_divEven n hd).ge
    have hbelow : divEven m d * d < (divEven n d + 1) * d := by
      rw [Nat.add_mul]
      omega
    exact Nat.le_of_lt_succ (Nat.lt_of_mul_lt_mul_right hbelow)

theorem le_divEven {q n d : Nat} (hd : 0 < d) (h : q * d ≤ n) : q ≤ divEven n d := by
  have hround := divEven_mono hd h
  rwa [divEven_mul q hd] at hround

theorem divEven_le {q n d : Nat} (hd : 0 < d) (h : n ≤ q * d) : divEven n d ≤ q := by
  have hround := divEven_mono hd h
  rwa [divEven_mul q hd] at hround

/-! ### Nearest integers -/

namespace Rounds
variable {n d q : Nat}

theorem abs_sub_le_half (h : Rounds n d q) (hd : 0 < d) : |(n / d : ℚ) - q| ≤ 1 / 2 := by
  have hd' : (0 : ℚ) < d := by exact_mod_cast hd
  have hle : (2 * (q * d) : ℚ) ≤ 2 * n + d := by exact_mod_cast h.le
  have hge : (2 * n : ℚ) ≤ 2 * (q * d) + d := by exact_mod_cast h.ge
  rw [abs_le]
  constructor
  · rw [neg_le_sub_iff_le_add, ← sub_le_iff_le_add, le_div_iff₀ hd']
    linarith
  · rw [sub_le_iff_le_add, div_le_iff₀ hd']
    linarith

theorem even_of_abs_sub_eq (h : Rounds n d q) (hd : 0 < d) (hhalf : |(n / d : ℚ) - q| = 1 / 2) : Even q := by
  have hd' : (d : ℚ) ≠ 0 := by exact_mod_cast hd.ne'
  apply h.even
  rcases (abs_eq (by norm_num)).mp hhalf with hhalf | hhalf
  · right
    have : (2 * n : ℚ) = 2 * (q * d) + d := by
      field_simp at hhalf
      linarith
    exact_mod_cast this
  · left
    have : (2 * (q * d) : ℚ) = 2 * n + d := by
      field_simp at hhalf
      linarith
    exact_mod_cast this

/-- Another integer is at least one half away from a number that is within one half of this one. -/
theorem half_le_abs_sub (h : Rounds n d q) (hd : 0 < d) {m : ℤ} (hm : m ≠ q) : 1 / 2 ≤ |(n / d : ℚ) - m| := by
  have hapart : (1 : ℚ) ≤ |(q : ℚ) - m| := by
    exact_mod_cast Int.one_le_abs (sub_ne_zero.mpr hm.symm)
  have hnear := h.abs_sub_le_half hd
  have hthrough := abs_sub_le (q : ℚ) (n / d) m
  rw [abs_sub_comm (q : ℚ) (n / d)] at hthrough
  linarith

end Rounds

/-! ### Significands -/

variable {width n : Nat}

/-- The powers of two around a number are multiples of its unit. -/
theorem two_pow_eq_mul (hwidth : 0 < width) {k : Nat} (hk : n.log2 ≤ k) :
    ∃ q, 2 ^ k = q * 1 <<< (n.log2 + 1 - width) := by
  refine ⟨2 ^ (k - (n.log2 + 1 - width)), ?_⟩
  rw [Nat.one_shiftLeft, ← Nat.pow_add, Nat.sub_add_cancel (by omega)]

theorem unit_pos (width n : Nat) : 0 < 1 <<< (n.log2 + 1 - width) := by
  rw [Nat.one_shiftLeft]
  exact Nat.two_pow_pos _

theorem two_pow_le_toSignificand (hwidth : 0 < width) (hn : n ≠ 0) : 2 ^ n.log2 ≤ toSignificand width n := by
  obtain ⟨q, hq⟩ := two_pow_eq_mul hwidth (Nat.le_refl n.log2)
  have hround : q ≤ _ := le_divEven (unit_pos width n) (hq ▸ Nat.log2_self_le hn)
  rw [hq]
  exact Nat.mul_le_mul_right _ hround

theorem toSignificand_le_two_pow (hwidth : 0 < width) : toSignificand width n ≤ 2 ^ (n.log2 + 1) := by
  obtain ⟨q, hq⟩ := two_pow_eq_mul hwidth (Nat.le_succ n.log2)
  have hround : _ ≤ q := divEven_le (unit_pos width n) (hq ▸ Nat.lt_log2_self.le)
  rw [hq]
  exact Nat.mul_le_mul_right _ hround

theorem toSignificand_mono (hwidth : 0 < width) {m : Nat} (h : m ≤ n) :
    toSignificand width m ≤ toSignificand width n := by
  by_cases hm : m = 0
  · simp [hm, toSignificand, divEven]
  · have hn : n ≠ 0 := by omega
    have hlog : m.log2 ≤ n.log2 := (Nat.le_log2 hn).mpr ((Nat.log2_self_le hm).trans h)
    rcases Nat.eq_or_lt_of_le hlog with hlog | hlog
    · -- one binade: the units are the same
      simp only [toSignificand, hlog]
      exact Nat.mul_le_mul_right _ (divEven_mono (unit_pos width n) h)
    · calc toSignificand width m
        _ ≤ 2 ^ (m.log2 + 1) := toSignificand_le_two_pow hwidth
        _ ≤ 2 ^ n.log2 := Nat.pow_le_pow_right Nat.two_pos hlog
        _ ≤ toSignificand width n := two_pow_le_toSignificand hwidth hn

theorem toSignificand_of_eq_mul {q : Nat} (h : n = q * 1 <<< (n.log2 + 1 - width)) : toSignificand width n = n := by
  have hround : divEven n (1 <<< (n.log2 + 1 - width)) = q := by
    nth_rewrite 1 [h]
    exact divEven_mul q (unit_pos width n)
  exact (congrArg (· * _) hround).trans h.symm

/-- The smallest number with a wider significand is a power of two, and not rounded either. -/
theorem toSignificand_of_le (hwidth : 0 < width) (h : n ≤ 2 ^ width) : toSignificand width n = n := by
  rcases Nat.eq_or_lt_of_le h with rfl | hlt
  · obtain ⟨q, hq⟩ := two_pow_eq_mul hwidth (Nat.log2_two_pow (n := width)).le
    exact toSignificand_of_eq_mul hq
  · exact toSignificand_of_lt (by rwa [Nat.one_shiftLeft])

end ProgramRom.Rounding
