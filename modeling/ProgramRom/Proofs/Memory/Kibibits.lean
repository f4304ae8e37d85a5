import Mathlib.Algebra.Order.Field.Basic
import Mathlib.Tactic.Ring
import ProgramRom.Proofs.Memory.Reports
import ProgramRom.Proofs.Rounding

/-! # Figures in kibibits

A figure with two decimals writes a number of hundredths. Up to a size of `2 ^ 53` bits the significand holds the size
itself, so there is one rounding, to the nearest hundredth. A larger size is rounded twice, which need not give the
nearest hundredth, but both roundings keep the order. In a report, then, no memory shows more than the total. -/

namespace ProgramRom

namespace Text

/-! ### Numbers with a point -/

/-- The number that digits before and after a point write. -/
def number? (text : String) : Option ℚ :=
  match parts '.' text with
  | [whole, fraction] => do
    let units ← decimal? whole.toList
    let places ← decimal? fraction.toList
    return units + places / 10 ^ fraction.length
  | _ => none

/-- The value of the digit that a text ends in. -/
def lastDigit? (text : String) : Option Nat := text.toList.getLast?.map digitValue

end Text

namespace Memory
open Rounding Text

theorem decimal?_two_digits : ∀ tens < 10, ∀ units < 10,
    decimal? ((toString tens).toList ++ (toString units).toList) = some (10 * tens + units) ∧
      ((toString tens).toList ++ (toString units).toList).length = 2 := by
  decide +kernel

theorem lastDigit?_digit : ∀ units < 10, (toString units).toList.getLast?.map digitValue = some units := by
  decide

/-- A number of hundredths is read as their number over a hundred. -/
theorem number?_decimals (n : Nat) : number? (decimals n) = some (n / 100 : ℚ) := by
  let fraction := toString (n % 100 / 10) ++ toString (n % 10)
  have hdigits := decimal?_two_digits (n % 100 / 10) (by omega) (n % 10) (by omega)
  rw [← String.toList_append, String.length_toList] at hdigits
  obtain ⟨hplaces, hlength⟩ := hdigits
  have hpoint : '.' ∉ fraction.toList := by
    rw [String.toList_append, List.mem_append]
    exact not_or.mpr ⟨not_mem_toString rfl _, not_mem_toString rfl _⟩
  have hparts : parts '.' (decimals n) = [toString (n / 100), fraction] := by
    have htext : decimals n = toString (n / 100) ++ String.singleton '.' ++ fraction := by
      simp [← String.toList_inj, toList_decimals, fraction]
    rw [htext, parts_append (not_mem_toString rfl _), parts_of_not_mem hpoint]
  have hvalue : ((n / 100 : ℕ) : ℚ) + ((10 * (n % 100 / 10) + n % 10 : ℕ) : ℚ) / 10 ^ 2 = n / 100 := by
    have hn : 100 * (n / 100) + (10 * (n % 100 / 10) + n % 10) = n := by omega
    have hn' : (100 * (n / 100 : ℕ) + (10 * (n % 100 / 10) + n % 10 : ℕ) : ℚ) = n := by exact_mod_cast hn
    linarith
  rw [number?, hparts]
  simp only [decimal?_toString, hplaces, hlength, Option.bind_eq_bind, Option.bind_some, fraction]
  rw [← hvalue]
  rfl

theorem lastDigit?_decimals (n : Nat) : lastDigit? (decimals n) = some (n % 10) := by
  have hne := toList_toString_ne_nil (n % 10)
  rw [lastDigit?, toList_decimals, ← List.cons_append, ← List.append_assoc, List.getLast?_append_of_ne_nil _ hne]
  exact lastDigit?_digit (n % 10) (Nat.mod_lt n (by decide))

/-! ### The nearest hundredth -/

/-- `n` hundredths are the nearest to `x`, with an even last digit where another number of hundredths is as near. -/
structure NearestHundredth (x : ℚ) (n : ℕ) : Prop where
  nearest : ∀ m : ℤ, |x - n / 100| ≤ |x - m / 100|
  even : ∀ m : ℤ, m ≠ n → |x - n / 100| = |x - m / 100| → Even (n % 10)

theorem rounds_hundredths {bits : UInt64} (h : bits.toNat ≤ 2 ^ 53) :
    Rounds (100 * bits.toNat) 1024 (hundredths bits) := by
  rw [hundredths, toSignificand_of_le (by decide) h]
  exact rounds_divEven _ (by decide)

/-- The distance from a size in kibibits to a number of hundredths is that of the rounded quotient, over a hundred. -/
theorem abs_kibibits_sub (bits : ℕ) (y : ℚ) :
    |(bits / 1024 : ℚ) - y / 100| = |((100 * bits : ℕ) / (1024 : ℕ) : ℚ) - y| / 100 := by
  have hscaled : (bits / 1024 : ℚ) - y / 100 = ((100 * bits : ℕ) / (1024 : ℕ) - y) / 100 := by
    push_cast
    ring
  rw [hscaled, abs_div, abs_of_pos (by norm_num : (0 : ℚ) < 100)]

theorem abs_sub_hundredths_le {bits : UInt64} (h : bits.toNat ≤ 2 ^ 53) :
    |(bits.toNat / 1024 : ℚ) - hundredths bits / 100| ≤ 1 / 200 := by
  have hhalf := (rounds_hundredths h).abs_sub_le_half (by decide)
  rw [abs_kibibits_sub]
  linarith

theorem nearestHundredth {bits : UInt64} (h : bits.toNat ≤ 2 ^ 53) :
    NearestHundredth (bits.toNat / 1024) (hundredths bits) where
  nearest m := by
    have hround := rounds_hundredths h
    rw [abs_kibibits_sub, abs_kibibits_sub]
    by_cases hm : m = hundredths bits
    · rw [hm, Int.cast_natCast]
    · have hnear := hround.abs_sub_le_half (by decide)
      have hfar := hround.half_le_abs_sub (by decide) hm
      linarith
  even m hm htie := by
    have hround := rounds_hundredths h
    rw [abs_kibibits_sub, abs_kibibits_sub] at htie
    have hnear := hround.abs_sub_le_half (by decide)
    have hfar := hround.half_le_abs_sub (by decide) hm
    have heven := hround.even_of_abs_sub_eq (by decide) (by linarith)
    rw [Nat.even_iff] at heven ⊢
    omega

/-! ### Order -/

/-- The number of kibibits that is written for a size. -/
def shown (bits : UInt64) : ℚ := hundredths bits / 100

theorem number?_kibibits (bits : UInt64) : number? (kibibits bits) = some (shown bits) := number?_decimals _

theorem shown_mono {b₁ b₂ : UInt64} (h : b₁ ≤ b₂) : shown b₁ ≤ shown b₂ := by
  have hsignificand : toSignificand 53 b₁.toNat ≤ toSignificand 53 b₂.toNat :=
    toSignificand_mono (by decide) (UInt64.le_iff_toNat_le.mp h)
  have hmono : hundredths b₁ ≤ hundredths b₂ := divEven_mono (by decide) (Nat.mul_le_mul_left 100 hsignificand)
  have hcast : (hundredths b₁ : ℚ) ≤ hundredths b₂ := by exact_mod_cast hmono
  unfold shown
  linarith

/-! ### The figures of a report -/

/-- The name and the kibibits that a row of a table shows. -/
def readKibibits? : List String → Option (String × ℚ)
  | [name, _, figure] => (number? figure).map (name, ·)
  | _ => none

/-- The kibibits that a report shows, each with the name of its memory. -/
def shownKibibits? (report : String) : Option (List (String × ℚ)) := do
  let lines ← lines? report
  (tableRows (lines.drop 2)).mapM readKibibits?

theorem mapM_readKibibits? (memories : List (String × UInt64)) :
    (memories.map Estimate.memoryRow).mapM readKibibits? = some (memories.map fun m => (m.1, shown m.2)) := by
  induction memories with
  | nil => rfl
  | cons m ms ih =>
    have hrow : readKibibits? (Estimate.memoryRow m) = some (m.1, shown m.2) := by
      rw [Estimate.memoryRow, readKibibits?, number?_kibibits, Option.map_some]
    rw [List.map_cons, List.mapM_cons, hrow, ih]
    rfl

theorem shownKibibits?_report {e : Estimate} {memories : List (String × UInt64)} {text : String}
    (hmemories : e.memories = .ok memories) (h : e.report = .ok text) :
    shownKibibits? text = some (memories.map fun m => (m.1, shown m.2)) := by
  obtain ⟨table, hlines, -, htable⟩ := Estimate.exists_table hmemories h
  have hrows : tableRows ((e.capacityLine :: e.addressLine :: table).drop 2) = memories.map Estimate.memoryRow :=
    htable.tableRows_eq
  simp only [shownKibibits?, hlines, Option.bind_eq_bind, Option.bind_some, hrows, mapM_readKibibits?]

/-- Up to `2 ^ 53` bits a figure in kibibits is the nearest hundredth, with an even last digit where two are equally
near, and thus off by at most half a hundredth. A larger size never has a smaller figure, and in no report does a memory
show more than the total. -/
theorem kibibits_nearest_and_ordered :
    (∀ bits : UInt64, bits.toNat ≤ 2 ^ 53 → ∃ n : ℕ, number? (kibibits bits) = some (n / 100 : ℚ) ∧
      lastDigit? (kibibits bits) = some (n % 10) ∧ NearestHundredth (bits.toNat / 1024) n ∧
      |(bits.toNat / 1024 : ℚ) - n / 100| ≤ 1 / 200) ∧
    (∀ b₁ b₂ : UInt64, b₁ ≤ b₂ → ∃ x₁ x₂ : ℚ, number? (kibibits b₁) = some x₁ ∧ number? (kibibits b₂) = some x₂ ∧
      x₁ ≤ x₂) ∧
    ∀ (e : Estimate) (text : String), e.report = .ok text → ∃ figures total,
      shownKibibits? text = some (figures ++ [("Total Memory Needed", total)]) ∧
      figures.map Prod.fst = ["Program Memory", "Data Memory", "Jump Table Memory", "Bracket Stack Memory"] ∧
      ∀ figure ∈ figures, figure.2 ≤ total := by
  refine ⟨fun bits h => ?_, fun b₁ b₂ h => ?_, fun e text h => ?_⟩
  · exact ⟨hundredths bits, number?_kibibits bits, lastDigit?_decimals _, nearestHundredth h, abs_sub_hundredths_le h⟩
  · exact ⟨shown b₁, shown b₂, number?_kibibits b₁, number?_kibibits b₂, shown_mono h⟩
  · obtain ⟨memories, hmemories, -⟩ := bind_eq_ok h
    obtain ⟨total, htotal, hlist⟩ := bind_eq_ok hmemories
    have hsum := Estimate.total?_eq_some_iff.mp (Estimate.total_eq_ok_iff.mp htotal)
    have hpart : ∀ size : UInt64, size.toNat ≤ e.sizes.total → shown size ≤ shown total := fun size hsize =>
      shown_mono (UInt64.le_iff_toNat_le.mpr (hsum ▸ hsize))
    cases hlist
    refine ⟨[("Program Memory", shown e.programMemory), ("Data Memory", shown e.dataMemory),
      ("Jump Table Memory", shown e.jumpTable), ("Bracket Stack Memory", shown e.bracketStack)], shown total,
      shownKibibits?_report hmemories h, rfl, ?_⟩
    simp only [List.forall_mem_cons]
    simp only [Sizes.total, Estimate.sizes] at hpart
    exact ⟨hpart _ (by omega), hpart _ (by omega), hpart _ (by omega), hpart _ (by omega), by simp⟩

/-- An eighth of a kibibit is halfway between 12 and 13 hundredths. One bit above `2 ^ 53` is not shown, and the largest
size is shown as `2 ^ 64`. -/
theorem kibibits_nearest_and_ordered_halfway :
    (number? (kibibits 128) = some (12 / 100) ∧ NearestHundredth (128 / 1024) 12 ∧
      |(128 / 1024 : ℚ) - 12 / 100| = |(128 / 1024 : ℚ) - 13 / 100|) ∧
    (∃ x₁ x₂ : ℚ, number? (kibibits 9007199254740993) = some x₁ ∧ number? (kibibits 18446744073709551615) = some x₂ ∧
      kibibits 9007199254740993 = kibibits 9007199254740992 ∧ kibibits 18446744073709551615 = "18014398509481984.00" ∧
      x₁ ≤ x₂) ∧
    ∃ text figures total, (⟨.packed, 1, 1, 0, 0, 0, 8, 0, 0⟩ : Estimate).report = .ok text ∧
      shownKibibits? text = some (figures ++ [("Total Memory Needed", total)]) ∧ figures.length = 4 ∧
      ∀ figure ∈ figures, figure.2 ≤ total := by
  obtain ⟨hrounded, hordered, hreports⟩ := kibibits_nearest_and_ordered
  refine ⟨?_, ?_, ?_⟩
  · obtain ⟨n, hread, -, hnearest, -⟩ := hrounded 128 (by decide)
    have hn : hundredths 128 = 12 := by decide
    rw [number?_kibibits, shown, hn] at hread
    have hcast : (n : ℚ) = 12 := by
      have := Option.some.inj hread
      push_cast at this
      linarith
    obtain rfl : n = 12 := by exact_mod_cast hcast
    refine ⟨by rw [number?_kibibits, shown, hn]; rfl, by simpa using hnearest, ?_⟩
    norm_num
  · obtain ⟨x₁, x₂, hx₁, hx₂, hle⟩ := hordered 9007199254740993 18446744073709551615 (by decide)
    exact ⟨x₁, x₂, hx₁, hx₂, by decide +kernel, by decide +kernel, hle⟩
  · let e : Estimate := ⟨.packed, 1, 1, 0, 0, 0, 8, 0, 0⟩
    have hsum : e.sizes.total < 2 ^ 64 := by decide
    obtain ⟨-, -, text, -, -, -, -, hreport⟩ := Estimate.exists_report hsum
    obtain ⟨figures, total, hshown, hnames, hle⟩ := hreports e text hreport
    have hlength : figures.length = 4 := by simpa using congrArg List.length hnames
    exact ⟨text, figures, total, hreport, hshown, hlength, hle⟩

end Memory

end ProgramRom
