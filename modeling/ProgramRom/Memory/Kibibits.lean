import ProgramRom.Rounding

/-! # Sizes in kibibits

A size in bits is rounded to a significand of 53 bits, divided by 1024, which is exact, and written with
two decimals. Both roundings take the even one of two equally near values. -/

namespace ProgramRom.Memory

/-- Hundredths of a kibibit, rounded. -/
def hundredths (bits : UInt64) : Nat :=
  Rounding.divEven (100 * Rounding.toSignificand 53 bits.toNat) 1024

/-- A number of hundredths with its decimal point. -/
def decimals (hundredths : Nat) : String :=
  s!"{hundredths / 100}.{hundredths % 100 / 10}{hundredths % 10}"

theorem toList_decimals (n : Nat) :
    (decimals n).toList =
      (toString (n / 100)).toList ++ '.' :: ((toString (n % 100 / 10)).toList ++ (toString (n % 10)).toList) := by
  simp [decimals, toString]

def kibibits (bits : UInt64) : String := decimals (hundredths bits)

end ProgramRom.Memory
