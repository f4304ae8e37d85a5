import ProgramRom.Proofs.Grid
import ProgramRom.Proofs.Layout
import ProgramRom.Proofs.Memory.Exactness

/-! # Reading reports

A report says everything about its estimate. Its first two lines are sentences of words, and the numbers among them are
the capacities and the widths of the addresses. Its table is read back cell by cell, since a name, a number and a figure
with two decimals hold neither a bar nor a space at an end. -/

namespace ProgramRom

namespace Text

theorem parts_intercalate {separator : Char} {texts : List String} (hne : texts ≠ [])
    (h : ∀ t ∈ texts, separator ∉ t.toList) :
    parts separator (String.intercalate (String.singleton separator) texts) = texts := by
  have hlists : ∀ l ∈ texts.map String.toList, separator ∉ l := by
    intro l hl
    obtain ⟨t, ht, rfl⟩ := List.mem_map.mp hl
    exact h t ht
  rw [parts, String.toList_intercalate, String.toList_singleton,
    List.splitOn_intercalate separator hlists (by simpa using hne), List.map_map]
  exact (List.map_congr_left fun t _ => String.ofList_toList).trans (List.map_id texts)

theorem toString_injective {m n : Nat} (h : toString m = toString n) : m = n := by
  have hread := decimal?_toString m
  rw [h, decimal?_toString] at hread
  exact (Option.some.inj hread).symm

end Text

theorem Scheme.name_injective {scheme scheme' : Scheme} (h : scheme.name = scheme'.name) : scheme = scheme' := by
  cases scheme <;> cases scheme' <;> first | rfl | exact absurd h (by decide)

namespace Memory

/-! ### Figures -/

/-- A text of digits and points. -/
structure IsFigure (text : String) : Prop where
  chars : ∀ c ∈ text.toList, c.isDigit = true ∨ c = '.'

theorem isFigure_toString (n : Nat) : IsFigure (toString n) :=
  ⟨fun _ hc => Or.inl (Text.isDigit_of_mem_toString hc)⟩

theorem isFigure_kibibits (bits : UInt64) : IsFigure (kibibits bits) := by
  refine ⟨fun c hc => ?_⟩
  rw [kibibits, toList_decimals, List.mem_append, List.mem_cons, List.mem_append] at hc
  rcases hc with hc | hc | hc | hc
  · exact Or.inl (Text.isDigit_of_mem_toString hc)
  · exact Or.inr hc
  · exact Or.inl (Text.isDigit_of_mem_toString hc)
  · exact Or.inl (Text.isDigit_of_mem_toString hc)

theorem IsFigure.not_mem {text : String} (h : IsFigure text) {c : Char} (hdigit : c.isDigit = false)
    (hpoint : c ≠ '.') : c ∉ text.toList := by
  intro hc
  rcases h.chars c hc with hc | hc
  · rw [hdigit] at hc
    cases hc
  · exact hpoint hc

namespace Estimate

/-! ### The lines above the table -/

def capacityWords (e : Estimate) : List String :=
  ["prog_len", "=", toString e.programCapacity.toNat, "and", "data_len", "=", toString e.dataCapacity.toNat,
    "(" ++ e.scheme.name, "scheme):"]

def addressWords (e : Estimate) : List String :=
  ["Program", "address:", toString e.programAddressBits, "bits,", "data", "address:", toString e.dataAddressBits,
    "bits"]

theorem capacityLine_eq (e : Estimate) :
    e.capacityLine = String.intercalate (String.singleton ' ') e.capacityWords := by
  have hline (program data scheme : String) : s!"prog_len = {program} and data_len = {data} ({scheme} scheme):" =
      String.intercalate (String.singleton ' ')
        ["prog_len", "=", program, "and", "data_len", "=", data, "(" ++ scheme, "scheme):"] := by
    simp [← String.toList_inj, toString]
  exact hline (toString e.programCapacity.toNat) (toString e.dataCapacity.toNat) e.scheme.name

theorem addressLine_eq (e : Estimate) :
    e.addressLine = String.intercalate (String.singleton ' ') e.addressWords := by
  have hline (program data : String) : s!"Program address: {program} bits, data address: {data} bits" =
      String.intercalate (String.singleton ' ')
        ["Program", "address:", program, "bits,", "data", "address:", data, "bits"] := by
    simp [← String.toList_inj, toString]
  exact hline (toString e.programAddressBits) (toString e.dataAddressBits)

theorem not_mem_capacityWords (e : Estimate) {c : Char} (hc : c = ' ' ∨ c = '\n') :
    ∀ w ∈ e.capacityWords, c ∉ w.toList := by
  have hnumber : ∀ n : Nat, c ∉ (toString n).toList := Text.not_mem_toString (by rcases hc with rfl | rfl <;> rfl)
  have hname : c ∉ ("(" ++ e.scheme.name).toList := by
    rcases hc with rfl | rfl <;> cases e.scheme <;> decide
  simp only [capacityWords, List.forall_mem_cons, hnumber, hname, not_false_eq_true, true_and]
  rcases hc with rfl | rfl <;> decide

theorem not_mem_addressWords (e : Estimate) {c : Char} (hc : c = ' ' ∨ c = '\n') :
    ∀ w ∈ e.addressWords, c ∉ w.toList := by
  have hnumber : ∀ n : Nat, c ∉ (toString n).toList := Text.not_mem_toString (by rcases hc with rfl | rfl <;> rfl)
  simp only [addressWords, List.forall_mem_cons, hnumber, not_false_eq_true, true_and]
  rcases hc with rfl | rfl <;> decide

theorem parts_capacityLine (e : Estimate) : Text.parts ' ' e.capacityLine = e.capacityWords := by
  rw [capacityLine_eq]
  exact Text.parts_intercalate (List.cons_ne_nil _ _) (e.not_mem_capacityWords (Or.inl rfl))

theorem parts_addressLine (e : Estimate) : Text.parts ' ' e.addressLine = e.addressWords := by
  rw [addressLine_eq]
  exact Text.parts_intercalate (List.cons_ne_nil _ _) (e.not_mem_addressWords (Or.inl rfl))

theorem newline_not_mem_capacityLine (e : Estimate) : '\n' ∉ e.capacityLine.toList := by
  rw [capacityLine_eq]
  exact Text.not_mem_intercalate (by decide) (e.not_mem_capacityWords (Or.inr rfl))

theorem newline_not_mem_addressLine (e : Estimate) : '\n' ∉ e.addressLine.toList := by
  rw [addressLine_eq]
  exact Text.not_mem_intercalate (by decide) (e.not_mem_addressWords (Or.inr rfl))

/-- The line on the capacities tells them and the scheme. -/
theorem eq_of_capacityLine {e e' : Estimate} (h : e.capacityLine = e'.capacityLine) :
    e.scheme = e'.scheme ∧ e.programCapacity = e'.programCapacity ∧ e.dataCapacity = e'.dataCapacity := by
  have hwords : e.capacityWords = e'.capacityWords := by rw [← parts_capacityLine, h, parts_capacityLine]
  simp only [capacityWords, List.cons.injEq, true_and, and_true] at hwords
  obtain ⟨hprogram, hdata, hname⟩ := hwords
  have hscheme : e.scheme.name = e'.scheme.name := by
    rw [← String.toList_inj, String.toList_append, String.toList_append, List.append_cancel_left_eq] at hname
    exact String.toList_inj.mp hname
  exact ⟨Scheme.name_injective hscheme, UInt64.toNat_inj.mp (Text.toString_injective hprogram),
    UInt64.toNat_inj.mp (Text.toString_injective hdata)⟩

/-- The line on the addresses tells their widths. -/
theorem eq_of_addressLine {e e' : Estimate} (h : e.addressLine = e'.addressLine) :
    e.programAddressBits = e'.programAddressBits ∧ e.dataAddressBits = e'.dataAddressBits := by
  have hwords : e.addressWords = e'.addressWords := by rw [← parts_addressLine, h, parts_addressLine]
  simp only [addressWords, List.cons.injEq, true_and, and_true] at hwords
  exact ⟨Text.toString_injective hwords.1, Text.toString_injective hwords.2⟩

/-! ### The table -/

/-- A text that a table of a report can hold and give back. -/
structure Legible (text : String) : Prop where
  trimmed : Text.Trimmed text
  bar : '│' ∉ text.toList
  newline : '\n' ∉ text.toList

instance (text : String) : Decidable (Legible text) :=
  decidable_of_iff (Text.Trimmed text ∧ '│' ∉ text.toList ∧ '\n' ∉ text.toList)
    ⟨fun h => ⟨h.1, h.2.1, h.2.2⟩, fun h => ⟨h.trimmed, h.bar, h.newline⟩⟩

theorem legible_of_isFigure {text : String} (h : IsFigure text) : Legible text where
  trimmed := Text.trimmed_of_not_mem (h.not_mem (by decide) (by decide))
  bar := h.not_mem (by decide) (by decide)
  newline := h.not_mem (by decide) (by decide)

theorem legible_of_mem_memories {e : Estimate} {memories : List (String × UInt64)} (h : e.memories = .ok memories) :
    ∀ m ∈ memories, Legible m.1 := by
  obtain ⟨total, -, h⟩ := bind_eq_ok h
  cases h
  simp only [List.forall_mem_cons]
  decide

theorem legible_of_mem_memoryGrid {memories : List (String × UInt64)} (h : ∀ m ∈ memories, Legible m.1) :
    ∀ row ∈ (memoryGrid memories).titles :: (memoryGrid memories).rows, ∀ t ∈ row, Legible t := by
  have htitles : ∀ t ∈ ["Memory", "Bits", "Kibit"], Legible t := by decide
  refine List.forall_mem_cons.mpr ⟨htitles, fun row hrow => ?_⟩
  obtain ⟨memory, hmemory, rfl⟩ := List.mem_map.mp hrow
  simp only [memoryRow, List.forall_mem_cons]
  exact ⟨h memory hmemory, legible_of_isFigure (isFigure_toString _), legible_of_isFigure (isFigure_kibibits _),
    by simp⟩

theorem readable_memoryGrid {memories : List (String × UInt64)} (h : ∀ m ∈ memories, Legible m.1) :
    (memoryGrid memories).Readable where
  columns := by simp [memoryGrid]
  length := by
    refine List.forall_mem_cons.mpr ⟨rfl, fun row hrow => ?_⟩
    obtain ⟨memory, -, rfl⟩ := List.mem_map.mp hrow
    rfl
  trimmed := fun row hrow t ht => (legible_of_mem_memoryGrid h row hrow t ht).trimmed
  bar := fun row hrow t ht => (legible_of_mem_memoryGrid h row hrow t ht).bar

/-- A report has the two lines and below them the table of its memories. -/
theorem exists_table {e : Estimate} {memories : List (String × UInt64)} {text : String}
    (hmemories : e.memories = .ok memories) (h : e.report = .ok text) :
    ∃ table, Text.lines? text = some (e.capacityLine :: e.addressLine :: table) ∧ table.length = memories.length + 3 ∧
      Text.IsTable ["Memory", "Bits", "Kibit"] (memories.map memoryRow) table := by
  have hlegible := legible_of_mem_memories hmemories
  have htable : ∀ l ∈ (memoryGrid memories).lines, '\n' ∉ l.toList :=
    Text.Grid.not_mem_lines (by decide) fun row hrow t ht => (legible_of_mem_memoryGrid hlegible row hrow t ht).newline
  have hlines : ∀ l ∈ [e.capacityLine, e.addressLine] ++ (memoryGrid memories).lines, '\n' ∉ l.toList :=
    List.forall_mem_cons.mpr ⟨e.newline_not_mem_capacityLine,
      List.forall_mem_cons.mpr ⟨e.newline_not_mem_addressLine, htable⟩⟩
  rw [report_of_memories hmemories, Except.ok.injEq] at h
  subst h
  refine ⟨(memoryGrid memories).lines, Text.lines?_unlines hlines, ?_, (readable_memoryGrid hlegible).isTable⟩
  simp [Text.Grid.lines, memoryGrid]

theorem exists_reading {e : Estimate} (h : e.sizes.total < 2 ^ 64) :
    ∃ text memories table, e.report = .ok text ∧ e.memories = .ok memories ∧
      Text.lines? text = some (e.capacityLine :: e.addressLine :: table) ∧ table.length = 8 ∧
      Text.IsTable ["Memory", "Bits", "Kibit"] (memories.map memoryRow) table := by
  obtain ⟨total, htotal⟩ := exists_total? h
  have hmemories := memories_of_total (total_eq_ok_iff.mpr htotal)
  have hreport := report_of_memories hmemories
  obtain ⟨table, hlines, hlength, htable⟩ := exists_table hmemories hreport
  exact ⟨_, _, table, hreport, hmemories, hlines, hlength, htable⟩

theorem memoryRow_injective : Function.Injective memoryRow := by
  intro m m' h
  simp only [memoryRow, List.cons.injEq] at h
  exact Prod.ext h.1 (UInt64.toNat_inj.mp (Text.toString_injective h.2.1))

theorem eq_of_memories {e e' : Estimate} {memories : List (String × UInt64)} (h : e.memories = .ok memories)
    (h' : e'.memories = .ok memories) :
    e.programMemory = e'.programMemory ∧ e.dataMemory = e'.dataMemory ∧ e.jumpTable = e'.jumpTable ∧
      e.bracketStack = e'.bracketStack := by
  obtain ⟨total, -, h⟩ := bind_eq_ok h
  obtain ⟨total', -, h'⟩ := bind_eq_ok h'
  have hlist := Except.ok.inj (h.trans h'.symm)
  simp only [List.cons.injEq, Prod.mk.injEq, true_and, and_true] at hlist
  obtain ⟨hprogram, hdata, hjumps, hstack, -⟩ := hlist
  exact ⟨hprogram, hdata, hjumps, hstack⟩

end Estimate

/-- The report of an estimate whose sizes add up to a word has ten lines: that of the capacities, that of the addresses,
and a table with five rows. The lines of the table are equally long, and each row is read back as the name of a memory,
its size in bits and its size in kibibits. So a report tells all of its estimate. -/
theorem report_reads_back :
    (∀ e : Estimate, e.sizes.total < 2 ^ 64 → ∃ text memories table, e.report = .ok text ∧ e.memories = .ok memories ∧
      Text.lines? text = some (e.capacityLine :: e.addressLine :: table) ∧ table.length = 8 ∧
      Text.IsTable ["Memory", "Bits", "Kibit"] (memories.map fun m => [m.1, toString m.2.toNat, kibibits m.2]) table) ∧
    ∀ e e' : Estimate, e.sizes.total < 2 ^ 64 → e'.sizes.total < 2 ^ 64 → e.report = e'.report → e = e' := by
  refine ⟨fun e h => Estimate.exists_reading h, fun e e' h h' hsame => ?_⟩
  obtain ⟨text, memories, table, hreport, hmemories, hlines, -, htable⟩ := Estimate.exists_reading h
  obtain ⟨text', memories', table', hreport', hmemories', hlines', -, htable'⟩ := Estimate.exists_reading h'
  obtain rfl : text = text' := Except.ok.inj (hreport.symm.trans (hsame.trans hreport'))
  obtain ⟨hcapacities, haddresses, rfl⟩ : e.capacityLine = e'.capacityLine ∧ e.addressLine = e'.addressLine ∧
      table = table' := by
    simpa using hlines.symm.trans hlines'
  obtain rfl : memories = memories' :=
    Estimate.memoryRow_injective.list_map (htable.tableRows_eq.symm.trans htable'.tableRows_eq)
  obtain ⟨hscheme, hprogramCapacity, hdataCapacity⟩ := Estimate.eq_of_capacityLine hcapacities
  obtain ⟨hprogramBits, hdataBits⟩ := Estimate.eq_of_addressLine haddresses
  obtain ⟨hprogram, hdata, hjumps, hstack⟩ := Estimate.eq_of_memories hmemories hmemories'
  cases e
  cases e'
  rw [Estimate.mk.injEq]
  exact ⟨hscheme, hprogramCapacity, hdataCapacity, hprogramBits, hdataBits, hprogram, hdata, hjumps, hstack⟩

/-- Sizes that no capacities have, of one digit and of twenty. With one bit moved to another memory, the report is another
one. -/
theorem report_reads_back_as_filled :
    ∃ e e' : Estimate, e.sizes.total < 2 ^ 64 ∧ e'.sizes.total < 2 ^ 64 ∧ e.report ≠ e'.report ∧
      ∃ text table, e.report = .ok text ∧ Text.lines? text = some (e.capacityLine :: e.addressLine :: table) ∧
        Text.tableRows table =
          [["Program Memory", "0", "0.00"], ["Data Memory", "18446744073709551614", "18014398509481984.00"],
            ["Jump Table Memory", "1", "0.00"], ["Bracket Stack Memory", "0", "0.00"],
            ["Total Memory Needed", "18446744073709551615", "18014398509481984.00"]] := by
  let e : Estimate := ⟨.byte, 7, 0, 65, 0, 0, 18446744073709551614, 1, 0⟩
  let e' : Estimate := ⟨.byte, 7, 0, 65, 0, 0, 18446744073709551614, 0, 1⟩
  have hsum : e.sizes.total < 2 ^ 64 := by decide
  have hsum' : e'.sizes.total < 2 ^ 64 := by decide
  have htotal : e.total = .ok 18446744073709551615 := by decide
  have hlisted : e.memories = .ok [("Program Memory", 0), ("Data Memory", 18446744073709551614),
      ("Jump Table Memory", 1), ("Bracket Stack Memory", 0), ("Total Memory Needed", 18446744073709551615)] :=
    Estimate.memories_of_total htotal
  refine ⟨e, e', hsum, hsum', fun hsame => ?_, ?_⟩
  · have heq := report_reads_back.2 e e' hsum hsum' hsame
    exact absurd heq (by decide)
  · obtain ⟨text, memories, table, htext, hmemories, hlines, -, htable⟩ := report_reads_back.1 e hsum
    refine ⟨text, table, htext, hlines, ?_⟩
    rw [htable.tableRows_eq, Except.ok.inj (hmemories.symm.trans hlisted)]
    decide +kernel

end Memory

end ProgramRom
