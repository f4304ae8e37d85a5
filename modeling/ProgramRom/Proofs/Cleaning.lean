import Mathlib.Data.List.TakeWhile
import ProgramRom.Program
import ProgramRom.Proofs.Runs

/-! # What cleaning keeps

A character of a source is a symbol, a blank or a stray. Cleaning keeps the symbols in their order and nothing
else, so two sources have the same program when they have the same symbols. Strict cleaning goes through a source
character by character: at each it has the position and the operations of all that it passed, so it keeps what cleaning
keeps, and it fails at the first stray, with the position behind all that stands before it. -/

namespace ProgramRom

namespace Operation

/-- The characters that stand for operations. -/
def symbols : List Char := ['+', '-', '>', '<', '.', ',', '[', ']']

theorem map_symbol_all : all.map symbol = symbols := by
  decide

theorem mem_symbols_iff {c : Char} : c ∈ symbols ↔ ∃ op : Operation, op.symbol = c := by
  rw [← map_symbol_all, List.mem_map]
  constructor
  · rintro ⟨op, -, hop⟩
    exact ⟨op, hop⟩
  · rintro ⟨op, hop⟩
    exact ⟨op, op.mem_all, hop⟩

theorem symbol_mem_symbols (op : Operation) : op.symbol ∈ symbols :=
  mem_symbols_iff.mpr ⟨op, rfl⟩

theorem isSome_ofSymbol?_iff {c : Char} : (ofSymbol? c).isSome = true ↔ c ∈ symbols := by
  simp only [Option.isSome_iff_exists, ofSymbol?_eq_some_iff, mem_symbols_iff]

theorem ofSymbol?_eq_none_iff {c : Char} : ofSymbol? c = none ↔ c ∉ symbols := by
  rw [← isSome_ofSymbol?_iff, Option.not_isSome_iff_eq_none]

theorem toNat_le_of_mem_symbols : ∀ c ∈ symbols, c.toNat ≤ 0xFF := by
  intro c hc
  obtain ⟨op, rfl⟩ := mem_symbols_iff.mp hc
  rw [← op.code_toNat]
  exact Nat.le_of_lt_succ op.code.toNat_lt

end Operation

namespace Program

open Operation

/-! ### The symbols of a source -/

theorem map_symbol_filterMap (cs : List Char) :
    (cs.filterMap ofSymbol?).map symbol = cs.filter (· ∈ symbols) := by
  induction cs with
  | nil => rfl
  | cons c cs ih =>
    cases hc : ofSymbol? c with
    | none =>
      rw [List.filterMap_cons_none hc, ih, List.filter_cons_of_neg]
      simpa using ofSymbol?_eq_none_iff.mp hc
    | some op =>
      have hmem : c ∈ symbols := isSome_ofSymbol?_iff.mp (by rw [hc]; rfl)
      rw [List.filterMap_cons_some hc, List.map_cons, ih, symbol_of_ofSymbol? hc,
        List.filter_cons_of_pos (by simpa using hmem)]

theorem toSource_ofSource (s : String) :
    (ofSource s).toSource = String.ofList (s.toList.filter (· ∈ symbols)) := by
  rw [toSource, ofSource, map_symbol_filterMap]

theorem ofSource_eq_iff {s t : String} :
    ofSource s = ofSource t ↔ s.toList.filter (· ∈ symbols) = t.toList.filter (· ∈ symbols) := by
  constructor
  · intro h
    rw [← map_symbol_filterMap, ← map_symbol_filterMap]
    exact congrArg (fun p : Program => p.operations.map symbol) h
  · intro h
    rw [← ofSource_toSource (ofSource s), ← ofSource_toSource (ofSource t), toSource_ofSource, toSource_ofSource, h]

theorem ofSource_insert {c : Char} (hc : c ∉ symbols) (before behind : String) :
    ofSource (before ++ String.singleton c ++ behind) = ofSource (before ++ behind) := by
  rw [ofSource_eq_iff]
  simp [hc]

/-! ### Strict cleaning -/

/-- Whether a character may stand in a source that is cleaned strictly. -/
def isAdmissible (c : Char) : Bool :=
  (ofSymbol? c).isSome || Text.isBlank c

theorem isAdmissible_iff {c : Char} : isAdmissible c = true ↔ c ∈ symbols ∨ Text.isBlank c = true := by
  rw [isAdmissible, Bool.or_eq_true, isSome_ofSymbol?_iff]

theorem isAdmissible_eq_false_iff {c : Char} :
    isAdmissible c = false ↔ c ∉ symbols ∧ Text.isBlank c = false := by
  rw [← Bool.not_eq_true, isAdmissible_iff, not_or, Bool.not_eq_true]

section Step
variable {c : Char} (position : Position) (operations : Array Operation) (rest : List Char)

theorem cleanStrictFrom_of_admissible (hc : isAdmissible c = true) :
    cleanStrictFrom position operations (c :: rest) =
      cleanStrictFrom (position.advance c) (operations ++ [c].filterMap ofSymbol?) rest := by
  cases hop : ofSymbol? c with
  | none =>
    have hblank : Text.isBlank c = true := by simpa [isAdmissible, hop] using hc
    simp [cleanStrictFrom, hop, hblank]
  | some op => simp [cleanStrictFrom, hop]

theorem cleanStrictFrom_of_stray (hc : isAdmissible c = false) :
    cleanStrictFrom position operations (c :: rest) = .error ⟨position, c⟩ := by
  obtain ⟨hop, hblank⟩ : ofSymbol? c = none ∧ Text.isBlank c = false := by simpa [isAdmissible] using hc
  simp [cleanStrictFrom, hop, hblank]

end Step

/-- What is left of a source is refused at its first stray, and the position is counted along what stands before it;
without a stray its operations follow those that were kept before. -/
theorem cleanStrictFrom_eq (position : Position) (operations : Array Operation) (cs : List Char) :
    cleanStrictFrom position operations cs =
      match cs.dropWhile isAdmissible with
      | [] => .ok ⟨operations.toList ++ cs.filterMap ofSymbol?⟩
      | c :: _ => .error ⟨(cs.takeWhile isAdmissible).foldl Position.advance position, c⟩ := by
  -- A step hands a new position and more operations on to the rest, so both are general in the induction.
  induction cs generalizing position operations with
  | nil => simp [cleanStrictFrom]
  | cons c cs ih =>
    cases hc : isAdmissible c with
    | true =>
      have hkept : (operations ++ [c].filterMap ofSymbol?).toList ++ cs.filterMap ofSymbol? =
          operations.toList ++ (c :: cs).filterMap ofSymbol? := by
        rw [Array.toList_appendList, List.append_assoc, ← List.filterMap_append, List.singleton_append]
      rw [cleanStrictFrom_of_admissible _ _ _ hc, ih, hkept, List.dropWhile_cons_of_pos hc,
        List.takeWhile_cons_of_pos hc, List.foldl_cons]
    | false =>
      have hc' : ¬isAdmissible c = true := by simp [hc]
      rw [cleanStrictFrom_of_stray _ _ _ hc, List.dropWhile_cons_of_neg hc', List.takeWhile_cons_of_neg hc']
      rfl

theorem ofStrictSource_eq (s : String) :
    ofStrictSource s =
      match s.toList.dropWhile isAdmissible with
      | [] => .ok (ofSource s)
      | c :: _ => .error ⟨.after (s.toList.takeWhile isAdmissible), c⟩ :=
  cleanStrictFrom_eq .start #[] s.toList

/-- A source is refused at the first stray, at the place behind all that stands before it. -/
theorem ofStrictSource_of_stray {s : String} {before behind : List Char} {c : Char}
    (hs : s.toList = before ++ c :: behind) (hbefore : ∀ b ∈ before, isAdmissible b = true)
    (hc : isAdmissible c = false) : ofStrictSource s = .error ⟨.after before, c⟩ := by
  rw [ofStrictSource_eq, hs, Text.dropWhile_run hbefore (Text.stops_cons hc),
    Text.takeWhile_run hbefore (Text.stops_cons hc)]

theorem ofStrictSource_of_admissible {s : String} (h : ∀ c ∈ s.toList, isAdmissible c = true) :
    ofStrictSource s = .ok (ofSource s) := by
  rw [ofStrictSource_eq, List.dropWhile_eq_nil_iff.mpr h]

theorem admissible_or_stray (cs : List Char) :
    (∀ c ∈ cs, isAdmissible c = true) ∨
      ∃ before c behind, cs = before ++ c :: behind ∧ (∀ b ∈ before, isAdmissible b = true) ∧
        isAdmissible c = false := by
  cases hdrop : cs.dropWhile isAdmissible with
  | nil => exact Or.inl (List.dropWhile_eq_nil_iff.mp hdrop)
  | cons c behind =>
    refine Or.inr ⟨cs.takeWhile isAdmissible, c, behind, ?_, fun b hb => List.mem_takeWhile_imp hb, ?_⟩
    · rw [← hdrop, List.takeWhile_append_dropWhile]
    · have hhead := List.head?_dropWhile_not isAdmissible cs
      rw [hdrop] at hhead
      exact hhead

/-- Strict cleaning succeeds on the sources without a stray, with what cleaning gives. -/
theorem ofStrictSource_eq_ok_iff {s : String} {p : Program} :
    ofStrictSource s = .ok p ↔ (∀ c ∈ s.toList, isAdmissible c = true) ∧ p = ofSource s := by
  rcases admissible_or_stray s.toList with h | ⟨before, c, behind, hs, hbefore, hc⟩
  · rw [ofStrictSource_of_admissible h, Except.ok.injEq]
    exact ⟨fun heq => ⟨h, heq.symm⟩, fun heq => heq.2.symm⟩
  · rw [ofStrictSource_of_stray hs hbefore hc]
    refine ⟨fun heq => (by cases heq), fun ⟨hall, _⟩ => ?_⟩
    have := hall c (by simp [hs])
    rw [hc] at this
    cases this

/-- A text with a character that is neither a symbol nor blank. -/
def HasStray (s : String) : Prop := ∃ c ∈ s.toList, c ∉ symbols ∧ Text.isBlank c = false

theorem hasStray_append {s t : String} : HasStray (s ++ t) ↔ HasStray s ∨ HasStray t := by
  simp only [HasStray, String.toList_append, List.mem_append]
  constructor
  · rintro ⟨c, hc | hc, hstray⟩
    · exact Or.inl ⟨c, hc, hstray⟩
    · exact Or.inr ⟨c, hc, hstray⟩
  · rintro (⟨c, hc, hstray⟩ | ⟨c, hc, hstray⟩)
    · exact ⟨c, Or.inl hc, hstray⟩
    · exact ⟨c, Or.inr hc, hstray⟩

theorem not_hasStray_toSource (p : Program) : ¬HasStray p.toSource := by
  rintro ⟨c, hc, hstray, -⟩
  rw [toSource, String.toList_ofList, List.mem_map] at hc
  obtain ⟨op, -, rfl⟩ := hc
  exact hstray op.symbol_mem_symbols

theorem exists_ofStrictSource_eq_error_iff {s : String} : (∃ e, ofStrictSource s = .error e) ↔ HasStray s := by
  rcases admissible_or_stray s.toList with h | ⟨before, c, behind, hs, hbefore, hc⟩
  · rw [ofStrictSource_of_admissible h]
    refine ⟨fun ⟨_, heq⟩ => (by cases heq), fun ⟨c, hmem, hstray⟩ => ?_⟩
    have hc := h c hmem
    rw [isAdmissible_eq_false_iff.mpr hstray] at hc
    cases hc
  · exact ⟨fun _ => ⟨c, by simp [hs], isAdmissible_eq_false_iff.mp hc⟩,
      fun _ => ⟨_, ofStrictSource_of_stray hs hbefore hc⟩⟩

end Program

end ProgramRom
