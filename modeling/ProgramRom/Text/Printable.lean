import ProgramRom.Text.CharRange
import ProgramRom.Text.GraphemeExtend
import ProgramRom.Text.Unassigned

/-! # Printable characters

A character is printed as it stands if it has a shape of its own: controls, separators other than the
space, format characters, blank fillers, private use and unassigned code points have none, and a grapheme
extender would join whatever stands before it. -/

namespace ProgramRom.Text

def controlRanges : List (Nat × Nat) := [(0x00, 0x1F), (0x7F, 0x9F)]

/-- The separators of words, lines and paragraphs, the space apart. -/
def separatorRanges : List (Nat × Nat) :=
  [(0xA0, 0xA0), (0x1680, 0x1680), (0x2000, 0x200A), (0x2028, 0x2029), (0x202F, 0x202F), (0x205F, 0x205F),
   (0x3000, 0x3000)]

def formatRanges : List (Nat × Nat) :=
  [(0xAD, 0xAD), (0x600, 0x605), (0x61C, 0x61C), (0x6DD, 0x6DD), (0x70F, 0x70F), (0x890, 0x891), (0x8E2, 0x8E2),
   (0x180E, 0x180E), (0x200B, 0x200F), (0x202A, 0x202E), (0x2060, 0x2064), (0x2066, 0x206F), (0xFEFF, 0xFEFF),
   (0xFFF9, 0xFFFB), (0x110BD, 0x110BD), (0x110CD, 0x110CD), (0x13430, 0x1343F), (0x1BCA0, 0x1BCA3),
   (0x1D173, 0x1D17A), (0xE0001, 0xE0001), (0xE0020, 0xE007F)]

/-- The letters that fill an empty place of a Hangul syllable and show nothing. -/
def fillerRanges : List (Nat × Nat) := [(0x115F, 0x1160), (0x3164, 0x3164), (0xFFA0, 0xFFA0)]

def privateUseRanges : List (Nat × Nat) := [(0xE000, 0xF8FF), (0xF0000, 0xFFFFD), (0x100000, 0x10FFFD)]

def isControl (c : Char) : Bool := inRanges controlRanges c

def isSeparator (c : Char) : Bool := inRanges separatorRanges c

def isPrintable (c : Char) : Bool :=
  !(isControl c || isSeparator c || inRanges formatRanges c || inRanges fillerRanges c ||
    inRanges privateUseRanges c || inRanges unassignedRanges c || inRanges graphemeExtendRanges c)

theorem not_isControl_of_isPrintable {c : Char} (h : isPrintable c = true) : isControl c = false := by
  simp_all [isPrintable]

theorem not_isSeparator_of_isPrintable {c : Char} (h : isPrintable c = true) : isSeparator c = false := by
  simp_all [isPrintable]

end ProgramRom.Text
