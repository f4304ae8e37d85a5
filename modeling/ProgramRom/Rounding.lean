/-! # Rounding to nearest

A quotient is rounded to the nearest integer, and a number to the nearest one with a significand of
bounded width. Of two that are equally near the even one is taken. -/

namespace ProgramRom.Rounding

/-- The integer nearest to `n / d`, of two the even one. -/
def divEven (n d : Nat) : Nat :=
  let twice := 2 * (n % d)
  if twice < d then n / d
  else if d < twice then n / d + 1
  else n / d + n / d % 2

/-- The number nearest to `n` whose significand has at most `width` bits. -/
def toSignificand (width n : Nat) : Nat :=
  let unit := 1 <<< (n.log2 + 1 - width)
  divEven n unit * unit

/-- A number that has a significand of the width is not rounded. -/
theorem toSignificand_of_lt {width n : Nat} (h : n < 1 <<< width) : toSignificand width n = n := by
  by_cases hn : n = 0
  · simp [hn, toSignificand, divEven]
  · have hw : n.log2 + 1 - width = 0 := by
      have := (Nat.log2_lt hn).mpr (Nat.one_shiftLeft width ▸ h)
      omega
    simp [toSignificand, hw, divEven, Nat.mod_one]

end ProgramRom.Rounding
