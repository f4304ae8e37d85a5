import ProgramRom.Unicode.CharSet

/-! # Characters as bytes

A character is encoded as one to four bytes. A range of characters is divided into parts, so that the encodings
of every part are all the sequences that take each byte from one range. -/

namespace ProgramRom.Pattern

open Unicode

structure ByteRange where
  low : Nat
  high : Nat
deriving DecidableEq, Repr

/-- A range of bytes for each place. -/
abbrev ByteSequence := List ByteRange

/-- The bytes of a code. -/
def encoded (code : Nat) : List Nat :=
  let more (i : Nat) := 0x80 + code >>> (6 * i) % 64
  if code < 0x80 then [code]
  else if code < 0x800 then [0xC0 + code >>> 6, more 0]
  else if code < 0x10000 then [0xE0 + code >>> 12, more 1, more 0]
  else [0xF0 + code >>> 18, more 2, more 1, more 0]

namespace ByteSequence

/-- The last code with so many bytes. -/
def lastWith : Nat → Nat
  | 1 => 0x7F
  | 2 => 0x7FF
  | _ => 0xFFFF

/-- Where a range that crosses between lengths of codes is divided. -/
def lengthCut? (r : CodeRange) : Option Nat :=
  [1, 2, 3].findSome? fun n => if r.first ≤ lastWith n && lastWith n < r.last then some (lastWith n) else none

/-- Where a range is divided so that its last bytes run through all values in every part, or its other bytes
stay the same. -/
def blockCut? (r : CodeRange) : Option Nat :=
  [1, 2, 3].findSome? fun n =>
    let block := 1 <<< (6 * n)
    if r.first / block = r.last / block then none
    else if r.first % block ≠ 0 then some (r.first / block * block + block - 1)
    else if r.last % block ≠ block - 1 then some (r.last / block * block - 1)
    else none

/-- The sequences of a range, which is divided so many times at most. -/
def ofRange : Nat → CodeRange → List ByteSequence
  | 0, _ => []
  | n + 1, r =>
    if r.first < 0xE000 && 0xD7FF < r.last then ofRange n ⟨r.first, 0xD7FF⟩ ++ ofRange n ⟨0xE000, r.last⟩
    else if r.last < r.first then []
    else
      match lengthCut? r <|> (if r.last < 0x80 then none else blockCut? r) with
      | some last => ofRange n ⟨r.first, last⟩ ++ ofRange n ⟨last + 1, r.last⟩
      | none => [List.zipWith ByteRange.mk (encoded r.first) (encoded r.last)]

/-- The sequences of a set. A range is divided no more often than there are levels: between the surrogates, at
the three lengths, and twice at every byte. -/
def ofSet (set : CharSet) : List ByteSequence := set.ranges.flatMap (ofRange 16)

end ByteSequence

end ProgramRom.Pattern
